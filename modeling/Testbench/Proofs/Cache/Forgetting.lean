import Testbench.Proofs.Cache.Coherence
import Testbench.Proofs.Cache.Ledger

/-!
# Forgetting — a store as a map, whichever writes fail

A store finds what was stored last, however often its tables go to their files and back, and however
many of the writes fail. A table whose write failed stays in memory and stays marked. The one way to
lose something is to evict a folder and fail to write it.

- `Account`, `Session.account` : what a folder has in its file and what besides in memory;
- `Session.SparesFolder`       : no eviction of the folder fails to write it;
- `Keeps`                      : the invariant, preserved by every operation (`Keeps.step`);
- `lookup_run`                 : what a lookup finds after any run;
- `lookup_run_evicted`         : a document that is lost with its folder.
-/

namespace Testbench
namespace Cache

open Outline (Document)
open Store (failed diskAfter writeLog)

variable {δ : Type}

/-! ## Accounts -/

/-- The folder that an operation names. -/
def Op.root? : Op → Option Path
  | .lookup root _ _ => some root
  | .put root _ _ _ => some root
  | .flushAll => none
  | .flushRoot root => some root
  | .evict root => some root

/-- What an operation stores in a folder. -/
def Op.storedIn (r : Path) : Op → Ledger
  | .put root key modified document => if root.same r then [(key, ⟨modified, document⟩)] else []
  | _ => []

def Op.evicts (r : Path) : Op → Bool
  | .evict root => root.same r
  | _ => false

/-- What was stored in a folder. -/
def storedIn (r : Path) (ops : List Op) : Ledger := ops.flatMap (Op.storedIn r)

/-- What was stored in a folder and is still known: first what its file has, then what only the
memory has. -/
structure Account where
  filed : Ledger
  pending : Ledger

namespace Account

def nothing : Account := ⟨[], []⟩

def whole (a : Account) : Ledger := a.filed ++ a.pending

/-- A write of the folder that succeeds files what was pending. -/
def filing (r : Path) (a : Account) (log : List (Write δ)) : Account :=
  if log.any fun w => w.written && w.root.same r then ⟨a.whole, []⟩ else a

/-- The account after an operation with its writes. What is pending is lost if the operation evicts
the folder and could not write it. -/
def step (r : Path) (a : Account) (op : Op) (log : List (Write δ)) : Account :=
  let a := a.filing r log
  if op.evicts r && failed log r then ⟨a.filed, []⟩ else ⟨a.filed, a.pending ++ op.storedIn r⟩

@[simp] theorem whole_filing (r : Path) (a : Account) (log : List (Write δ)) :
    (a.filing r log).whole = a.whole := by
  rw [filing]
  split
  · simp [whole]
  · rfl

/-- An operation that neither stores in the folder nor loses it only files. -/
theorem step_eq_filing {r : Path} {a : Account} {op : Op} {log : List (Write δ)} :
    op.storedIn r = [] → (op.evicts r && failed log r) = false →
      a.step r op log = a.filing r log := by
  intro hstored hlost
  simp [step, hstored, hlost]

end Account

namespace Session

/-- The writes that an operation makes. -/
def writesOf (v : Vault δ) (x : Session δ) : Op → List (Write δ)
  | .flushAll => x.store.writes v x.disk fun _ => true
  | .flushRoot root => x.store.writes v x.disk fun other => other.same root
  | .evict root => x.store.writes v x.disk fun other => other.same root
  | _ => []

/-- The account of a folder after some operations. -/
def account (v : Vault δ) (r : Path) (x : Session δ) (a : Account) : List Op → Account
  | [] => a
  | op :: rest => account v r (x.step v op) (a.step r op (x.writesOf v op)) rest

/-- No eviction of a folder fails to write it. -/
def SparesFolder (v : Vault δ) (r : Path) (x : Session δ) : List Op → Prop
  | [] => True
  | op :: rest => (op.evicts r = true → failed (x.writesOf v op) r = false) ∧
      SparesFolder v r (x.step v op) rest

theorem saved_mem_step (v : Vault δ) (x : Session δ) (op : Op) :
    ∀ w ∈ x.writesOf v op, .saved w ∈ (x.step v op).past := by
  intro w hw
  cases op with
  | lookup root key modified => simp [writesOf] at hw
  | put root key modified document => simp [writesOf] at hw
  | flushAll => exact List.mem_append_right _ (List.mem_map_of_mem hw)
  | flushRoot root => exact List.mem_append_right _ (List.mem_map_of_mem hw)
  | evict root => exact List.mem_append_right _ (List.mem_map_of_mem hw)

/-- Without such an eviction nothing is lost. -/
theorem whole_account {v : Vault δ} {r : Path} {x : Session δ} {a : Account} {ops : List Op} :
    x.SparesFolder v r ops → (x.account v r a ops).whole = a.whole ++ storedIn r ops := by
  induction ops generalizing x a with
  | nil =>
      intro _
      simp [account, storedIn]
  | cons op rest ih =>
      intro hspares
      rcases hspares with ⟨hop, hrest⟩
      -- An operation that evicts the folder writes it, and the others lose nothing.
      have hlost : (op.evicts r && failed (x.writesOf v op) r) = false := by
        cases hevicts : op.evicts r with
        | true => exact hop hevicts
        | false => rfl
      have hfiling := a.whole_filing r (x.writesOf v op)
      have hstep : (a.step r op (x.writesOf v op)).whole = a.whole ++ op.storedIn r := by
        rw [← hfiling]
        simp [Account.step, hlost, Account.whole]
      calc
        (x.account v r a (op :: rest)).whole
            = (a.step r op (x.writesOf v op)).whole ++ storedIn r rest := ih hrest
        _ = a.whole ++ storedIn r (op :: rest) := by
              rw [hstep]
              simp [storedIn]

end Session

/-! ## The invariant -/

/-- The file of a folder has what is filed, its table in memory has what is pending besides, and
nothing is pending without a marked table. -/
structure Keeps (v : Vault δ) (roots : Path → Prop) (r : Path) (s : Store) (d : δ) (a : Account) :
    Prop where
  proper : s.IsProper
  filed : ∀ q, roots q → q.same r = true → v.load d q = Table.empty.record a.filed
  found : ∀ slot, s.slot? r = some slot → slot.table = Table.empty.record a.whole
  settled : (∀ slot, s.slot? r = some slot → slot.dirty = false) → a.pending = []

namespace Keeps

variable {v : Vault δ} {roots : Path → Prop} {r : Path} {s : Store} {d : δ} {a : Account}

theorem start (hempty : ∀ q, roots q → v.load d q = .empty) :
    Keeps v roots r Store.empty d .nothing := by
  refine ⟨List.Pairwise.nil, ?_, ?_, ?_⟩
  · intro q hq _
    exact hempty q hq
  · intro slot hslot
    simp [Store.empty, Store.slot?] at hslot
  · intro _
    rfl

/-- What a folder has once it is opened. -/
theorem table_opened (h : Keeps v roots r s d a) {root : Path} (hroot : roots root) :
    root.same r = true → (s.opened v d root).table = Table.empty.record a.whole := by
  intro hsame
  have hslot := s.slot?_congr hsame
  cases hfound : s.slot? r with
  | some slot =>
      rw [hfound] at hslot
      simpa [Store.opened, hslot] using h.found slot hfound
  | none =>
      -- A folder that is not in memory has nothing pending.
      have hnone : a.pending = [] := h.settled (by simp [hfound])
      rw [hfound] at hslot
      simpa [Store.opened, hslot, Account.whole, hnone] using h.filed root hroot hsame

/-- What a folder has in memory and in its file is all that matters. -/
theorem congr (h : Keeps v roots r s d a) {s' : Store} {d' : δ} (hproper : s'.IsProper)
    (hslot : s'.slot? r = s.slot? r)
    (hload : ∀ q, roots q → q.same r = true → v.load d' q = v.load d q) :
    Keeps v roots r s' d' a := by
  refine ⟨hproper, ?_, ?_, ?_⟩
  · intro q hq hqr
    rw [hload q hq hqr]
    exact h.filed q hq hqr
  · rw [hslot]
    exact h.found
  · rw [hslot]
    exact h.settled

theorem opening (h : Keeps v roots r s d a) {root : Path} (hroot : roots root) :
    Keeps v roots r (s.open? v d root) d a := by
  have hslot := s.slot?_open? v d root r
  by_cases hsame : root.same r = true
  · rw [if_pos hsame] at hslot
    refine ⟨h.proper.open? v d root, h.filed, ?_, ?_⟩
    · intro slot hnew
      have heq : s.opened v d root = slot := Option.some.inj (hslot.symm.trans hnew)
      rw [← heq]
      exact h.table_opened hroot hsame
    · intro hclean
      refine h.settled ?_
      intro slot hold
      -- A folder in memory is not loaded again.
      have hopened : s.opened v d root = slot := by
        rw [Store.opened, s.slot?_congr hsame, hold, Option.getD_some]
      rw [← hopened]
      exact hclean _ hslot
  · rw [if_neg hsame] at hslot
    exact h.congr (h.proper.open? v d root) hslot fun _ _ _ => rfl

theorem storing (h : Keeps v roots r s d a) {root : Path} (hroot : roots root) (key : String)
    (modified : Nat) (document : Document) :
    Keeps v roots r (s.put v d root key modified document) d
      ⟨a.filed, a.pending ++ Op.storedIn r (.put root key modified document)⟩ := by
  have hopen := h.opening hroot
  have hslot := (s.open? v d root).slot?_modify root
    (f := fun slot => { slot with table := slot.table.insert key modified document, dirty := true })
    (fun _ => rfl) r
  have hproper : (s.put v d root key modified document).IsProper :=
    hopen.proper.modify root fun _ => rfl
  by_cases hsame : root.same r = true
  · have hstored : Op.storedIn r (.put root key modified document) =
        [(key, ⟨modified, document⟩)] := by simp [Op.storedIn, hsame]
    have hopened := s.slot?_open? v d root r
    rw [if_pos hsame] at hslot hopened
    rw [hopened, Option.map_some] at hslot
    rw [hstored]
    -- What is stored is pending, under a mark.
    refine ⟨hproper, h.filed, ?_, ?_⟩
    · intro slot hnew
      cases hslot.symm.trans hnew
      have hbefore := h.table_opened hroot hsame
      have hwhole : (⟨a.filed, a.pending ++ [(key, ⟨modified, document⟩)]⟩ : Account).whole =
          a.whole ++ [(key, ⟨modified, document⟩)] := by simp [Account.whole]
      rw [hwhole, Table.record_append, hbefore]
      rfl
    · intro hclean
      have hmark := hclean _ hslot
      exact Bool.noConfusion hmark
  · have hstored : Op.storedIn r (.put root key modified document) = [] := by
      simp [Op.storedIn, hsame]
    rw [if_neg hsame] at hslot
    rw [hstored, List.append_nil]
    exact hopen.congr hproper hslot fun _ _ _ => rfl

/-- A flush leaves the file of a folder as it was unless it writes it. -/
theorem load_flush_kept {chosen : Path → Bool} {q : Path} (hq : roots q) (hqr : q.same r = true)
    (hexact : ∀ w ∈ s.writes v d chosen, w.Exact v roots) :
    (s.writes v d chosen).any (fun w => w.written && w.root.same r) = false →
      v.load (s.flush v d chosen).2.2 q = v.load d q := by
  intro hnone
  rw [Store.disk_flush]
  apply load_diskAfter_kept hq hexact
  intro w hw hwritten
  have hother : w.root.same r = false := by
    simpa [hwritten] using List.any_eq_false.1 hnone w hw
  exact (Path.same_congr_right hqr w.root).trans hother

/-- A flush that does not write a folder, or fails to, leaves its account. The table of a failed
write is still in memory, so nothing is lost yet. -/
theorem flushing_unwritten (h : Keeps v roots r s d a) {chosen : Path → Bool}
    (hexact : ∀ w ∈ s.writes v d chosen, w.Exact v roots)
    (hnone : (s.writes v d chosen).any (fun w => w.written && w.root.same r) = false) :
    Keeps v roots r (s.flush v d chosen).2.1 (s.flush v d chosen).2.2 a := by
  have hproper := h.proper.flush v d chosen
  have hload : ∀ q, roots q → q.same r = true →
      v.load (s.flush v d chosen).2.2 q = v.load d q := fun q hq hqr =>
    load_flush_kept hq hqr hexact hnone
  rcases Store.flush_cases h.proper v d chosen r with
    ⟨_, hslot, _⟩ | ⟨slot, w, hfound, hw, hroot, _, _, _, hslot⟩
  · -- The folder is passed over.
    exact h.congr hproper hslot hload
  · -- Its write fails and leaves the mark.
    have hlost : w.written = false := by
      simpa [hroot] using List.any_eq_false.1 hnone w hw
    refine ⟨hproper, ?_, ?_, ?_⟩
    · intro q hq hqr
      rw [hload q hq hqr]
      exact h.filed q hq hqr
    · intro after hafter
      cases hslot.symm.trans hafter
      exact h.found slot hfound
    · intro hclean
      have hmark := hclean _ hslot
      simp [hlost] at hmark

/-- A flush that writes a folder files all of its account. -/
theorem flushing_written (h : Keeps v roots r s d a) {chosen : Path → Bool}
    (hexact : ∀ w ∈ s.writes v d chosen, w.Exact v roots)
    (hany : (s.writes v d chosen).any (fun w => w.written && w.root.same r) = true) :
    Keeps v roots r (s.flush v d chosen).2.1 (s.flush v d chosen).2.2 ⟨a.whole, []⟩ := by
  rcases List.any_eq_true.1 hany with ⟨w, hw, hboth⟩
  rcases Bool.and_eq_true_iff.1 hboth with ⟨hwritten, hroot⟩
  rcases Store.flush_cases h.proper v d chosen r with
    ⟨hother, _, _⟩ | ⟨slot, w', hfound, _, _, htable, _, honly, hslot⟩
  · -- A folder that is passed over is not written.
    have hnot := hother w hw
    rw [hroot] at hnot
    exact Bool.noConfusion hnot
  · have heq : w = w' := honly w hw hroot
    refine ⟨h.proper.flush v d chosen, ?_, ?_, fun _ => rfl⟩
    · intro q hq hqr
      have hback : v.load (s.flush v d chosen).2.2 q = w.table := by
        rw [Store.disk_flush]
        exact load_diskAfter_written hq hexact (Store.writes_pairwise h.proper v d chosen) hw
          hwritten (Path.same_trans hroot (Path.same_symm hqr))
      rw [hback, heq, htable]
      exact h.found slot hfound
    · intro after hafter
      cases hslot.symm.trans hafter
      simpa [Account.whole] using h.found slot hfound

/-- A flush files what it writes. -/
theorem flushing (h : Keeps v roots r s d a) (chosen : Path → Bool)
    (hexact : ∀ w ∈ s.writes v d chosen, w.Exact v roots) :
    Keeps v roots r (s.flush v d chosen).2.1 (s.flush v d chosen).2.2
      (a.filing r (s.writes v d chosen)) := by
  rw [Account.filing]
  cases hany : (s.writes v d chosen).any fun w => w.written && w.root.same r with
  | false =>
      rw [if_neg Bool.false_ne_true]
      exact h.flushing_unwritten hexact hany
  | true =>
      rw [if_pos rfl]
      exact h.flushing_written hexact hany

/-- Forgetting a folder loses what is pending. -/
theorem dropping (h : Keeps v roots r s d a) (root : Path) :
    Keeps v roots r (s.drop root) d (if root.same r then ⟨a.filed, []⟩ else a) := by
  have hslot := s.slot?_drop root r
  by_cases hsame : root.same r = true
  · rw [if_pos hsame] at hslot ⊢
    refine ⟨h.proper.drop root, h.filed, ?_, fun _ => rfl⟩
    intro slot hnew
    cases hslot.symm.trans hnew
  · rw [if_neg hsame] at hslot ⊢
    exact h.congr (h.proper.drop root) hslot fun _ _ _ => rfl

/-- An eviction whose write does not fail leaves nothing pending. -/
theorem pending_evict {x : Session δ} (h : Keeps v roots r x.store x.disk a) {root : Path}
    (hsame : root.same r = true) (hfine : failed (x.writesOf v (.evict root)) r = false) :
    (a.filing r (x.writesOf v (.evict root))).pending = [] := by
  rcases Store.flush_cases h.proper v x.disk (fun other => other.same root) r with
    ⟨hother, _, hclean⟩ | ⟨slot, w, _, hw, hw_same, _, _, _, _⟩
  · -- The folder is passed over, as it is not marked.
    have hnone : a.pending = [] := by
      refine h.settled ?_
      intro slot hslot
      exact hclean slot hslot
        (Path.same_trans (Store.root_of_slot? hslot) (Path.same_symm hsame))
    rw [Account.filing]
    split
    · rfl
    · exact hnone
  · -- Its table is written.
    have hwritten : w.written = true := by
      have hkept := List.any_eq_false.1 hfine w hw
      simpa [hw_same] using hkept
    have hany : (x.writesOf v (.evict root)).any (fun w => w.written && w.root.same r) = true :=
      List.any_eq_true.2 ⟨w, hw, by rw [hwritten, hw_same]; rfl⟩
    rw [Account.filing, if_pos hany]

/-- An eviction flushes the folder and forgets it. -/
theorem evicting {x : Session δ} (h : Keeps v roots r x.store x.disk a) (root : Path)
    (hexact : ∀ w ∈ x.writesOf v (.evict root), w.Exact v roots) :
    Keeps v roots r (x.step v (.evict root)).store (x.step v (.evict root)).disk
      (a.step r (.evict root) (x.writesOf v (.evict root))) := by
  have hgone := (h.flushing (fun other => other.same root) hexact).dropping root
  by_cases hsame : root.same r = true
  · rw [if_pos hsame] at hgone
    cases hlost : failed (x.writesOf v (.evict root)) r with
    | true =>
        -- The write failed, and the table goes with what was pending.
        have hevicts :
            (Op.evicts r (.evict root) && failed (x.writesOf v (.evict root)) r) = true := by
          rw [hlost]
          simpa [Op.evicts] using hsame
        rw [Account.step, if_pos hevicts]
        exact hgone
    | false =>
        -- Whatever was pending is written.
        have hfiled := h.pending_evict hsame hlost
        have hkept :
            (Op.evicts r (.evict root) && failed (x.writesOf v (.evict root)) r) = false := by
          rw [hlost, Bool.and_false]
        rw [Account.step_eq_filing rfl hkept]
        rw [← hfiled] at hgone
        exact hgone
  · -- Another folder is evicted.
    have hevicts :
        (Op.evicts r (.evict root) && failed (x.writesOf v (.evict root)) r) = false := by
      rw [Op.evicts, Bool.eq_false_iff.2 hsame, Bool.false_and]
    rw [if_neg hsame] at hgone
    rw [Account.step_eq_filing rfl hevicts]
    exact hgone

/-- Every operation keeps the account. -/
theorem step {x : Session δ} (h : Keeps v roots r x.store x.disk a) (op : Op)
    (hroot : ∀ q, op.root? = some q → roots q)
    (hexact : ∀ w ∈ x.writesOf v op, w.Exact v roots) :
    Keeps v roots r (x.step v op).store (x.step v op).disk (a.step r op (x.writesOf v op)) := by
  cases op with
  | lookup root key modified =>
      rw [Account.step_eq_filing rfl rfl]
      exact h.opening (hroot root rfl)
  | put root key modified document => exact h.storing (hroot root rfl) key modified document
  | flushAll =>
      rw [Account.step_eq_filing rfl rfl]
      exact h.flushing (fun _ => true) hexact
  | flushRoot root =>
      rw [Account.step_eq_filing rfl rfl]
      exact h.flushing (fun other => other.same root) hexact
  | evict root => exact h.evicting root hexact

/-- So does every run. -/
theorem run {x : Session δ} (h : Keeps v roots r x.store x.disk a) (ops : List Op) :
    (∀ op ∈ ops, ∀ q, op.root? = some q → roots q) →
    (∀ w, .saved w ∈ (x.run v ops).past → w.Exact v roots) →
      Keeps v roots r (x.run v ops).store (x.run v ops).disk (x.account v r a ops) := by
  induction ops generalizing x a with
  | nil =>
      intro _ _
      exact h
  | cons op rest ih =>
      intro hroots hexact
      rcases List.forall_mem_cons.1 hroots with ⟨hop, hrest⟩
      -- What was written stays in the past.
      have hpast := (x.step v op).past_run v rest
      have hstep := h.step op hop fun w hw =>
        hexact w (hpast.subset (x.saved_mem_step v op w hw))
      exact ih hstep hrest hexact

end Keeps

/-! ## What is found -/

/-- Whichever writes fail, a lookup finds exactly the latest document of those that were stored and
not lost by an eviction that could not write; without such an eviction none is lost. -/
theorem lookup_run (v : Vault δ) (d : δ) (ops : List Op) {roots : Path → Prop}
    (hempty : ∀ q, roots q → v.load d q = .empty)
    (hroots : ∀ op ∈ ops, ∀ q, op.root? = some q → roots q)
    (hexact : ∀ w, .saved w ∈ ((Session.start d).run v ops).past → w.Exact v roots)
    {root : Path} (hroot : roots root) (key : String) (modified : Nat) (document : Document) :
    let x := (Session.start d).run v ops
    let found := (x.store.lookup v x.disk root key modified).1
    let kept := ((Session.start d).account v root .nothing ops).whole
    (found = some document ↔ kept.latest? key = some ⟨modified, document⟩) ∧
    ((Session.start d).SparesFolder v root ops →
      (found = some document ↔ (storedIn root ops).latest? key = some ⟨modified, document⟩)) := by
  intro x found kept
  have h : Keeps v roots root x.store x.disk ((Session.start d).account v root .nothing ops) :=
    Keeps.run (Keeps.start hempty) ops hroots hexact
  have hfound : found = some document ↔ kept.latest? key = some ⟨modified, document⟩ := by
    have hlookup : found = (x.store.opened v x.disk root).table.get? key modified :=
      Store.lookup_eq v x.store x.disk root key modified
    rw [hlookup, h.table_opened hroot (Path.same_refl root)]
    exact Table.get?_record_empty kept key modified document
  refine ⟨hfound, ?_⟩
  intro hspares
  have hkept : kept = storedIn root ops := Session.whole_account hspares
  rw [← hkept]
  exact hfound

/-! ## A folder that is forgotten -/

/-- A document is stored and its folder is forgotten. -/
def forgettingOps : List Op := [.put ⟨"/p"⟩ "a.py" 7 Table.plain, .evict ⟨"/p"⟩]

theorem run_forgettingOps {d after : FileTree} {written : Bool}
    (hload : onFiles.load d ⟨"/p"⟩ = Table.empty)
    (hsave : onFiles.save d ⟨"/p"⟩ sample = (written, after)) :
    (Session.start d).run onFiles forgettingOps =
      ⟨Store.empty, after, [.opened ⟨"/p"⟩, .stored ⟨"/p"⟩,
        .saved ⟨d, ⟨"/p"⟩, sample, written, after⟩]⟩ := by
  have hself : (⟨"/p"⟩ : Path).same ⟨"/p"⟩ = true := Path.same_refl _
  have hsample : Table.empty.insert "a.py" 7 Table.plain = sample := by rw [sample]
  cases written <;>
  simp [forgettingOps, Session.run, Session.step, Session.start, Store.put, Store.open?,
    Store.slot?, Store.opening, Store.modify, Store.empty, Store.evict, Store.flushRoot,
    Store.flush, Store.takeDirty, Store.writeOut, Store.writeOne, Store.writes, Store.writeLog,
    Store.drop, hload, hsave, hself, hsample]

/-- Where the table can be written, it is found again. -/
theorem lookup_run_siblings :
    let x := (Session.start siblings).run onFiles forgettingOps
    (∀ q, q = ⟨"/p"⟩ → onFiles.load siblings q = .empty) ∧
    (∀ op ∈ forgettingOps, ∀ q, op.root? = some q → q = ⟨"/p"⟩) ∧
    (∀ w, .saved w ∈ x.past → w.Exact onFiles fun q => q = ⟨"/p"⟩) ∧
    (Session.start siblings).SparesFolder onFiles ⟨"/p"⟩ forgettingOps ∧
    (x.store.lookup onFiles x.disk ⟨"/p"⟩ "a.py" 7).1 = some Table.plain := by
  intro x
  have hx : x = _ := run_forgettingOps load_siblings onFiles_save_siblings
  have hempty : ∀ q, q = ⟨"/p"⟩ → onFiles.load siblings q = .empty := by
    intro q hq
    rw [hq]
    exact load_siblings
  have hroots : ∀ op ∈ forgettingOps, ∀ q, op.root? = some q → q = ⟨"/p"⟩ := by
    simp [forgettingOps, Op.root?]
  have hexact : ∀ w, .saved w ∈ x.past → w.Exact onFiles fun q => q = ⟨"/p"⟩ := by
    intro w hw
    rw [hx] at hw
    have hfiling : w = filing := by simpa [filing] using hw
    rw [hfiling]
    exact Write.exact_onFiles Table.stored_plain Table.isKept_plain onFiles_save_siblings
  -- Only the put leaves a mark behind, and the flush that comes next writes it.
  have hspares : (Session.start siblings).SparesFolder onFiles ⟨"/p"⟩ forgettingOps := by
    have hput : (Session.start siblings).step onFiles (.put ⟨"/p"⟩ "a.py" 7 Table.plain) =
        ⟨⟨[⟨⟨"/p"⟩, sample, true⟩]⟩, siblings, [.opened ⟨"/p"⟩, .stored ⟨"/p"⟩]⟩ := by
      simp [Session.step, Session.start, Store.put, Store.open?, Store.slot?, Store.opening,
        Store.modify, Store.empty, load_siblings, Path.same_refl, sample]
    refine ⟨fun h => by simp [Op.evicts] at h, ?_, trivial⟩
    intro _
    rw [hput]
    simp [Session.writesOf, Store.writes, Store.writeLog, Store.takeDirty, failed,
      onFiles_save_siblings, Path.same_refl]
  have hlatest : (storedIn ⟨"/p"⟩ forgettingOps).latest? "a.py" = some ⟨7, Table.plain⟩ := by
    simp [storedIn, forgettingOps, Op.storedIn, Ledger.latest?, Keyed.get?, Path.same_refl]
  refine ⟨hempty, hroots, hexact, hspares, ?_⟩
  exact ((lookup_run onFiles siblings forgettingOps hempty hroots hexact rfl "a.py" 7
    Table.plain).2 hspares).2 hlatest

/-- A tree in which a file lies where the settings of `p` belong. -/
def blocked : FileTree :=
  ((FileM.writeText ⟨"/p/.vscode"⟩ "in the way\n").on (FileTree.start ⟨"/p"⟩ 0)).2

theorem onFiles_save_blocked : onFiles.save blocked ⟨"/p"⟩ sample = (false, blocked) := by
  have hparent : Path.parent? (fileOf ⟨"/p"⟩) = some ⟨"/p/.vscode"⟩ := by decide +kernel
  simp only [onFiles, Table.save, hparent]
  rfl

/-- Where it cannot, it is lost with its folder: the failed write leaves everything as it was, and
the document that was stored last is not found. -/
theorem lookup_run_evicted :
    let x := (Session.start blocked).run onFiles forgettingOps
    onFiles.load blocked ⟨"/p"⟩ = .empty ∧
    (∀ w, .saved w ∈ x.past → w.Exact onFiles fun q => q = ⟨"/p"⟩) ∧
    (storedIn ⟨"/p"⟩ forgettingOps).latest? "a.py" = some ⟨7, Table.plain⟩ ∧
    (x.store.lookup onFiles x.disk ⟨"/p"⟩ "a.py" 7).1 = none := by
  have hnowhere : blocked.location? (fileOf ⟨"/p"⟩) = none := by decide +kernel
  have hload : onFiles.load blocked ⟨"/p"⟩ = Table.empty := by
    rw [onFiles_load, Table.load_of_location?_eq_none hnowhere]
  intro x
  have hx : x = _ := run_forgettingOps hload onFiles_save_blocked
  refine ⟨hload, ?_, ?_, ?_⟩
  · intro w hw
    rw [hx] at hw
    have hfailure : w = ⟨blocked, ⟨"/p"⟩, sample, false, blocked⟩ := by simpa using hw
    rw [hfailure]
    exact ⟨fun h => Bool.noConfusion h, fun _ _ _ => rfl⟩
  · simp [storedIn, forgettingOps, Op.storedIn, Ledger.latest?, Keyed.get?, Path.same_refl]
  · rw [hx, Store.lookup_eq, Store.opened_empty, hload]
    rfl

end Cache
end Testbench
