import Testbench.Proofs.Cache.Store
import Testbench.Proofs.Cache.Table

/-!
# Coherence — memory, marks and files of a store agree

A session is a store, a disk and what happened so far. Its events say when the table of a folder was
loaded, changed and written, so that a mark can be compared with the past.

- `Event`, `Session.step`, `Session.run` : operations in a row and the events they leave;
- `Write.Faithful`   : what is asked of a write, by its own folder and by the other folders;
- `Coherent`         : the invariant, preserved by every operation (`Coherent.step`);
- `coherent_run`     : it holds after every run.
-/

namespace Testbench
namespace Cache

open Outline (Document)
open Store (writes failed diskAfter writeLog)

variable {δ : Type}

/-! ## Events -/

/-- What happens to the table of a folder. -/
inductive Event (δ : Type) where
  | opened (root : Path)
  | stored (root : Path)
  | saved (w : Write δ)

/-- Whether the table of a folder agrees with its file after an event, whatever was before. -/
def Event.settles (r : Path) : Event δ → Bool
  | .opened root => root.same r
  | .stored _ => false
  | .saved w => w.written && w.root.same r

/-- Something was stored in a folder since its table was last loaded or written. -/
def Pending (past : List (Event δ)) (r : Path) : Prop :=
  ∃ before root after, past = before ++ .stored root :: after ∧ root.same r = true ∧
    ∀ e ∈ after, e.settles r = false

theorem Pending.append {past more : List (Event δ)} {r : Path} (h : Pending past r)
    (hmore : ∀ e ∈ more, e.settles r = false) : Pending (past ++ more) r := by
  rcases h with ⟨before, root, after, rfl, hsame, hafter⟩
  refine ⟨before, root, after ++ more, by simp, hsame, ?_⟩
  intro e he
  rcases List.mem_append.1 he with h | h
  · exact hafter e h
  · exact hmore e h

theorem Pending.stored (past : List (Event δ)) {root r : Path} (h : root.same r = true) :
    Pending (past ++ [.stored root]) r :=
  ⟨past, root, [], rfl, h, by simp⟩

/-! ## Sessions -/

inductive Op where
  | lookup (root : Path) (key : String) (modified : Nat)
  | put (root : Path) (key : String) (modified : Nat) (document : Document)
  | flushAll
  | flushRoot (root : Path)
  | evict (root : Path)

/-- A store with its disk and its past. -/
structure Session (δ : Type) where
  store : Store
  disk : δ
  past : List (Event δ)

/-- The event of opening a folder, unless it is open. -/
def Store.opening (s : Store) (root : Path) : List (Event δ) :=
  if (s.slot? root).isSome then [] else [.opened root]

namespace Session

def start (d : δ) : Session δ := ⟨.empty, d, []⟩

def step (v : Vault δ) (x : Session δ) : Op → Session δ
  | .lookup root key modified =>
    let (_, s) := x.store.lookup v x.disk root key modified
    ⟨s, x.disk, x.past ++ x.store.opening root⟩
  | .put root key modified document =>
    let s := x.store.put v x.disk root key modified document
    ⟨s, x.disk, x.past ++ x.store.opening root ++ [.stored root]⟩
  | .flushAll =>
    let (_, s, d) := x.store.flushAll v x.disk
    ⟨s, d, x.past ++ (x.store.writes v x.disk fun _ => true).map .saved⟩
  | .flushRoot root =>
    let (_, s, d) := x.store.flushRoot v x.disk root
    ⟨s, d, x.past ++ (x.store.writes v x.disk fun other => other.same root).map .saved⟩
  | .evict root =>
    let (s, d) := x.store.evict v x.disk root
    ⟨s, d, x.past ++ (x.store.writes v x.disk fun other => other.same root).map .saved⟩

def run (v : Vault δ) (x : Session δ) (ops : List Op) : Session δ := ops.foldl (step v) x

end Session

/-! ## Faithful writes -/

/-- A write of a folder's table decides what is loaded for that folder: the old table if it failed,
the written one if not. For the other folders it changes nothing. -/
structure Write.Faithful (v : Vault δ) (roots : Path → Prop) (w : Write δ) : Prop where
  kept : w.written = false → v.load w.after w.root = v.load w.before w.root
  readBack : w.written = true → v.load w.after w.root = w.table
  others : ∀ r, roots r → w.root.same r = false → v.load w.after r = v.load w.before r

/-- All writes so far were faithful to the folders that were opened. -/
def Session.IsFaithful (v : Vault δ) (x : Session δ) : Prop :=
  ∀ w, .saved w ∈ x.past → w.Faithful v fun r => .opened r ∈ x.past

section

variable {v : Vault δ} {roots : Path → Prop}

theorem load_diskAfter_other {d : δ} {snapshots : List Store.Snapshot} {r : Path} (hr : roots r)
    (hfaithful : ∀ w ∈ writeLog v d snapshots, w.Faithful v roots)
    (hother : ∀ snapshot ∈ snapshots, snapshot.1.same r = false) :
    v.load (diskAfter d (writeLog v d snapshots)) r = v.load d r := by
  induction snapshots generalizing d with
  | nil => rfl
  | cons snapshot rest ih =>
      rcases List.forall_mem_cons.1 hfaithful with ⟨hfirst, hrest⟩
      rcases List.forall_mem_cons.1 hother with ⟨hne, hothers⟩
      calc
        v.load (diskAfter d (writeLog v d (snapshot :: rest))) r
            = v.load (v.save d snapshot.1 snapshot.2).2 r := ih hrest hothers
        _ = v.load d r := hfirst.others r hr hne

theorem load_diskAfter {d : δ} {snapshots : List Store.Snapshot} {root : Path} {table : Table}
    (hroot : roots root) (hfaithful : ∀ w ∈ writeLog v d snapshots, w.Faithful v roots)
    (hpairwise : snapshots.Pairwise fun a b => a.1.same b.1 = false)
    (hmem : (root, table) ∈ snapshots) (hfine : failed (writeLog v d snapshots) root = false) :
    v.load (diskAfter d (writeLog v d snapshots)) root = table := by
  induction snapshots generalizing d with
  | nil => simp at hmem
  | cons snapshot rest ih =>
      rcases List.forall_mem_cons.1 hfaithful with ⟨hfirst, hrest⟩
      rcases List.pairwise_cons.1 hpairwise with ⟨hne, hpairs⟩
      simp only [writeLog, failed, List.any_cons, Bool.or_eq_false_iff] at hfine
      rcases hfine with ⟨hwritten, hlater⟩
      rcases List.mem_cons.1 hmem with heq | hmem
      · -- The later writes are of other folders.
        have hothers : ∀ other ∈ rest, other.1.same root = false := by
          intro other hin
          have hother := hne other hin
          rw [← heq] at hother
          refine Bool.eq_false_iff.2 fun hsame => ?_
          rw [Path.same_symm hsame] at hother
          exact Bool.noConfusion hother
        have hsaved : (v.save d snapshot.1 snapshot.2).1 = true := by
          rw [← heq] at hwritten ⊢
          simpa [Path.same_refl] using hwritten
        calc
          v.load (diskAfter d (writeLog v d (snapshot :: rest))) root
              = v.load (v.save d snapshot.1 snapshot.2).2 root :=
                load_diskAfter_other hroot hrest hothers
          _ = table := by
                have hback := hfirst.readBack hsaved
                rw [← heq] at hback ⊢
                exact hback
      · exact ih hrest hpairs hmem hlater

/-- A flush leaves the files of folders that it does not write. -/
theorem load_flush_other {s : Store} {d : δ} {chosen : Path → Bool} {r : Path} (hr : roots r)
    (hfaithful : ∀ w ∈ s.writes v d chosen, w.Faithful v roots)
    (hother : ∀ w ∈ s.writes v d chosen, w.root.same r = false) :
    v.load (s.flush v d chosen).2.2 r = v.load d r := by
  rw [Store.disk_flush]
  refine load_diskAfter_other hr hfaithful ?_
  intro snapshot hsnapshot
  rcases Store.mem_takeDirty.1 hsnapshot with ⟨slot, hslot, hdirty, hchosen, rfl⟩
  rcases Store.exists_mem_writes d hslot hdirty hchosen with ⟨w, hw, hroot, _⟩
  rw [← hroot]
  exact hother w hw

/-- After a flush the file of a folder that was written holds its table. -/
theorem load_flush {s : Store} (hs : s.IsProper) {d : δ} {chosen : Path → Bool} {slot : Slot}
    (hroot : roots slot.root) (hfaithful : ∀ w ∈ s.writes v d chosen, w.Faithful v roots)
    (hslot : slot ∈ s.slots) (hdirty : slot.dirty = true) (hchosen : chosen slot.root = true)
    (hfine : failed (s.writes v d chosen) slot.root = false) :
    v.load (s.flush v d chosen).2.2 slot.root = slot.table := by
  rw [Store.disk_flush]
  have hpairwise : (s.takeDirty chosen).1.Pairwise fun a b => a.1.same b.1 = false :=
    List.pairwise_map.2 (hs.filter _)
  exact load_diskAfter hroot hfaithful hpairwise
    (Store.mem_takeDirty.2 ⟨slot, hslot, hdirty, hchosen, rfl⟩) hfine

end

/-! ## The invariant -/

/-- Tables that are not marked agree with their files, and a mark has a reason. -/
structure Coherent (v : Vault δ) (x : Session δ) : Prop where
  proper : x.store.IsProper
  opened : ∀ slot ∈ x.store.slots, .opened slot.root ∈ x.past
  clean : ∀ slot ∈ x.store.slots, slot.dirty = false → v.load x.disk slot.root = slot.table
  pending : ∀ slot ∈ x.store.slots, slot.dirty = true → Pending x.past slot.root

namespace Coherent

variable {v : Vault δ} {s : Store} {d : δ} {past : List (Event δ)} {roots : Path → Prop}

theorem start (v : Vault δ) (d : δ) : Coherent v (Session.start d) := by
  refine ⟨List.Pairwise.nil, ?_, ?_, ?_⟩ <;>
  · intro slot hslot
    simp [Session.start, Store.empty] at hslot

/-- Opening a folder loads its table if there is none in memory. -/
theorem opening (h : Coherent v ⟨s, d, past⟩) (root : Path) :
    Coherent v ⟨s.open? v d root, d, past ++ s.opening root⟩ := by
  cases hfound : s.slot? root with
  | some slot =>
      have hsame : s.open? v d root = s := by rw [Store.open?, hfound]
      have hquiet : s.opening root = ([] : List (Event δ)) := by simp [Store.opening, hfound]
      rw [hsame, hquiet, List.append_nil]
      exact h
  | none =>
      have hnew : s.open? v d root = ⟨s.slots ++ [⟨root, v.load d root, false⟩]⟩ := by
        rw [Store.open?, hfound]
      have hevent : s.opening root = [(.opened root : Event δ)] := by simp [Store.opening, hfound]
      have hproper := h.proper.open? v d root
      rw [hevent]
      rw [hnew] at hproper ⊢
      refine ⟨hproper, ?_, ?_, ?_⟩
      · intro slot hslot
        rcases List.mem_append.1 hslot with hold | hlast
        · exact List.mem_append_left _ (h.opened slot hold)
        · rw [List.mem_singleton.1 hlast]
          simp
      · intro slot hslot hclean
        rcases List.mem_append.1 hslot with hold | hlast
        · exact h.clean slot hold hclean
        · rw [List.mem_singleton.1 hlast]
      · intro slot hslot hdirty
        rcases List.mem_append.1 hslot with hold | hlast
        · refine (h.pending slot hold hdirty).append ?_
          -- The folder that is opened had no slot, so it is not this one.
          have hother : root.same slot.root = false := by
            refine Bool.eq_false_iff.2 fun hsame => ?_
            have hnone := List.find?_eq_none.1 hfound slot hold
            exact hnone (Path.same_symm hsame)
          simpa [Event.settles] using hother
        · rw [List.mem_singleton.1 hlast] at hdirty
          exact absurd hdirty (by simp)

/-- Storing marks the folder. -/
theorem storing (h : Coherent v ⟨s, d, past⟩) (root : Path) (change : Table → Table) :
    Coherent v ⟨s.modify root fun slot => { slot with table := change slot.table, dirty := true },
      d, past ++ [.stored root]⟩ := by
  -- Only the slot of the folder is changed, and it gets the mark.
  refine ⟨h.proper.modify root fun _ => rfl, ?_, ?_, ?_⟩
  · intro slot hslot
    rcases List.mem_map.1 hslot with ⟨old, hold, rfl⟩
    have hopened := List.mem_append_left [Event.stored root] (h.opened old hold)
    by_cases hroot : old.root.same root = true
    · rwa [if_pos hroot]
    · rwa [if_neg hroot]
  · intro slot hslot hclean
    rcases List.mem_map.1 hslot with ⟨old, hold, rfl⟩
    by_cases hroot : old.root.same root = true
    · rw [if_pos hroot] at hclean
      exact absurd hclean (by simp)
    · rw [if_neg hroot] at hclean ⊢
      exact h.clean old hold hclean
  · intro slot hslot hdirty
    rcases List.mem_map.1 hslot with ⟨old, hold, rfl⟩
    by_cases hroot : old.root.same root = true
    · rw [if_pos hroot]
      exact Pending.stored past (Path.same_symm hroot)
    · rw [if_neg hroot] at hdirty ⊢
      refine (h.pending old hold hdirty).append ?_
      simp [Event.settles]

/-- Forgetting a folder leaves the others. -/
theorem dropping (h : Coherent v ⟨s, d, past⟩) (root : Path) :
    Coherent v ⟨s.drop root, d, past⟩ := by
  have hmem : ∀ slot ∈ (s.drop root).slots, slot ∈ s.slots := by
    intro slot hslot
    exact (List.mem_filter.1 hslot).1
  exact ⟨h.proper.drop root, fun slot hslot => h.opened slot (hmem slot hslot),
    fun slot hslot => h.clean slot (hmem slot hslot),
    fun slot hslot => h.pending slot (hmem slot hslot)⟩

/-- Writes that fail, and writes of other folders, leave a reason for a mark. -/
theorem pending_saved {r : Path} (hpending : Pending past r) {writes : List (Write δ)}
    (hwrites : ∀ w ∈ writes, w.root.same r = true → w.written = false) :
    Pending (past ++ writes.map .saved) r := by
  refine hpending.append ?_
  intro e he
  rcases List.mem_map.1 he with ⟨w, hw, rfl⟩
  cases hsame : w.root.same r with
  | false => simp [Event.settles, hsame]
  | true => simp [Event.settles, hwrites w hw hsame]

/-- A flush leaves marked exactly what it could not write. -/
theorem flushing (h : Coherent v ⟨s, d, past⟩) (chosen : Path → Bool)
    (hroots : ∀ r, .opened r ∈ past → roots r)
    (hfaithful : ∀ w ∈ s.writes v d chosen, w.Faithful v roots) :
    Coherent v ⟨(s.flush v d chosen).2.1, (s.flush v d chosen).2.2,
      past ++ (s.writes v d chosen).map .saved⟩ := by
  have hroot : ∀ old ∈ s.slots, roots old.root := fun old hold => hroots _ (h.opened old hold)
  refine ⟨h.proper.flush v d chosen, ?_, ?_, ?_⟩
  · intro slot hslot
    rcases Store.mem_flush h.proper hslot with ⟨old, hold, rfl⟩
    have hopened := List.mem_append_left ((s.writes v d chosen).map Event.saved) (h.opened old hold)
    by_cases htaken : (old.dirty && chosen old.root) = true
    · rwa [if_pos htaken]
    · rwa [if_neg htaken]
  · intro slot hslot hclean
    rcases Store.mem_flush h.proper hslot with ⟨old, hold, rfl⟩
    by_cases htaken : (old.dirty && chosen old.root) = true
    · rw [if_pos htaken] at hclean ⊢
      rcases Bool.and_eq_true_iff.1 htaken with ⟨hdirty, hchosen⟩
      have hback := load_flush h.proper (hroot old hold) hfaithful hold hdirty hchosen hclean
      exact hback
    · rw [if_neg htaken] at hclean ⊢
      have hother : ∀ w ∈ s.writes v d chosen, w.root.same old.root = false := fun w hw =>
        Bool.eq_false_iff.2 fun hsame => htaken (Store.same_of_mem_writes h.proper hold hw hsame)
      calc
        v.load (s.flush v d chosen).2.2 old.root
            = v.load d old.root := load_flush_other (hroot old hold) hfaithful hother
        _ = old.table := h.clean old hold hclean
  · intro slot hslot hdirty
    rcases Store.mem_flush h.proper hslot with ⟨old, hold, rfl⟩
    -- No write of the flush settles a folder that is still marked.
    by_cases htaken : (old.dirty && chosen old.root) = true
    · rw [if_pos htaken] at hdirty ⊢
      refine pending_saved (h.pending old hold (Bool.and_eq_true_iff.1 htaken).1) ?_
      intro w hw hsame
      rcases List.any_eq_true.1 hdirty with ⟨w', hw', hboth⟩
      rcases Bool.and_eq_true_iff.1 hboth with ⟨hlost, hsame'⟩
      have heq : w = w' :=
        Store.eq_of_mem_writes h.proper hw hw' (Path.same_trans hsame (Path.same_symm hsame'))
      rw [heq]
      simpa using hlost
    · rw [if_neg htaken] at hdirty ⊢
      refine pending_saved (h.pending old hold hdirty) ?_
      intro w hw hsame
      exact absurd (Store.same_of_mem_writes h.proper hold hw hsame) htaken

/-- What is loaded for open folders is all that matters of a disk. -/
theorem congr_disk {d' : δ} (h : Coherent v ⟨s, d, past⟩)
    (hload : ∀ r, .opened r ∈ past → v.load d' r = v.load d r) : Coherent v ⟨s, d', past⟩ := by
  refine ⟨h.proper, h.opened, ?_, h.pending⟩
  intro slot hslot hclean
  have hsame := hload slot.root (h.opened slot hslot)
  exact hsame.trans (h.clean slot hslot hclean)

/-- A flush does not change what a folder has once it is opened. -/
theorem table_opened_flush (h : Coherent v ⟨s, d, past⟩) (chosen : Path → Bool) {r : Path}
    (hr : roots r) (hfaithful : ∀ w ∈ s.writes v d chosen, w.Faithful v roots) :
    ((s.flush v d chosen).2.1.opened v (s.flush v d chosen).2.2 r).table =
      (s.opened v d r).table := by
  have hslot := Store.slot?_flush h.proper v d chosen r
  -- A slot keeps its table. Without one the table is loaded again, and no write went to that
  -- folder.
  cases hfound : s.slot? r with
  | some slot =>
      rw [hfound, Option.map_some] at hslot
      rw [Store.opened, hslot, Store.opened, hfound]
      simp only [Option.getD_some]
      split <;> rfl
  | none =>
      rw [hfound, Option.map_none] at hslot
      have hother : ∀ w ∈ s.writes v d chosen, w.root.same r = false := by
        intro w hw
        refine Bool.eq_false_iff.2 fun hsame => ?_
        rcases Store.exists_of_mem_writes hw with ⟨slot, hmem, _, _, hroot, _⟩
        rw [← hroot] at hsame
        rw [Store.slot?_of_mem h.proper hmem hsame] at hfound
        exact absurd hfound (by simp)
      rw [Store.opened, hslot, Store.opened, hfound]
      exact load_flush_other hr hfaithful hother

/-- Nor does forgetting a table that is not marked. -/
theorem table_opened_drop (h : Coherent v ⟨s, d, past⟩) {root r : Path}
    (hclean : ∀ slot ∈ s.slots, slot.root.same root = true → slot.dirty = false)
    (hr : ∀ slot ∈ s.slots, slot.root.same r = true → slot.root = r) :
    ((s.drop root).opened v d r).table = (s.opened v d r).table := by
  have hslot := Store.slot?_drop s root r
  by_cases hsame : root.same r = true
  · rw [if_pos hsame] at hslot
    cases hfound : s.slot? r with
    | some slot =>
        have hmem := Store.mem_of_slot? hfound
        have hroot := Store.root_of_slot? hfound
        have hloaded := h.clean slot hmem
          (hclean slot hmem (Path.same_trans hroot (Path.same_symm hsame)))
        rw [hr slot hmem hroot] at hloaded
        rw [Store.opened, hslot, Store.opened, hfound]
        exact hloaded
    | none => rw [Store.opened, hslot, Store.opened, hfound]
  · rw [if_neg hsame] at hslot
    rw [Store.opened, hslot, Store.opened]

/-- Every operation preserves coherence. -/
theorem step {x : Session δ} (h : Coherent v x) (op : Op)
    (hroots : ∀ r, .opened r ∈ (x.step v op).past → roots r)
    (hfaithful : ∀ w, .saved w ∈ (x.step v op).past → w.Faithful v roots) :
    Coherent v (x.step v op) := by
  rcases x with ⟨s, d, past⟩
  -- A lookup only opens, a put opens and stores, and an eviction flushes before it drops.
  cases op with
  | lookup root key modified => exact h.opening root
  | put root key modified document =>
      exact (h.opening root).storing root fun t => t.insert key modified document
  | flushAll =>
      refine h.flushing (fun _ => true) (fun r hr => hroots r (List.mem_append_left _ hr)) ?_
      intro w hw
      exact hfaithful w (List.mem_append_right _ (List.mem_map_of_mem hw))
  | flushRoot root =>
      refine h.flushing (fun other => other.same root)
        (fun r hr => hroots r (List.mem_append_left _ hr)) ?_
      intro w hw
      exact hfaithful w (List.mem_append_right _ (List.mem_map_of_mem hw))
  | evict root =>
      have hflushed := h.flushing (fun other => other.same root)
        (fun r hr => hroots r (List.mem_append_left _ hr)) ?_
      · exact hflushed.dropping root
      · intro w hw
        exact hfaithful w (List.mem_append_right _ (List.mem_map_of_mem hw))

end Coherent

/-! ## Runs -/

theorem Session.past_step (v : Vault δ) (x : Session δ) (op : Op) :
    x.past <+: (x.step v op).past := by
  cases op with
  | lookup root key modified => exact List.prefix_append _ _
  | put root key modified document =>
      exact (List.prefix_append _ _).trans (List.prefix_append _ _)
  | flushAll => exact List.prefix_append _ _
  | flushRoot root => exact List.prefix_append _ _
  | evict root => exact List.prefix_append _ _

theorem Session.past_run (v : Vault δ) (x : Session δ) (ops : List Op) :
    x.past <+: (x.run v ops).past := by
  induction ops generalizing x with
  | nil => exact List.prefix_rfl
  | cons op rest ih => exact (x.past_step v op).trans (ih (x.step v op))

theorem Coherent.run {v : Vault δ} {x : Session δ} (h : Coherent v x) (ops : List Op)
    {roots : Path → Prop} (hroots : ∀ r, .opened r ∈ (x.run v ops).past → roots r)
    (hfaithful : ∀ w, .saved w ∈ (x.run v ops).past → w.Faithful v roots) :
    Coherent v (x.run v ops) := by
  induction ops generalizing x with
  | nil => exact h
  | cons op rest ih =>
      have hpast := (x.step v op).past_run v rest
      have hstep : Coherent v (x.step v op) :=
        h.step op (fun r hr => hroots r (hpast.subset hr)) fun w hw => hfaithful w (hpast.subset hw)
      exact ih hstep hroots hfaithful

/-! ## Flushes of a session -/

/-- What a flush of everything does: it writes dirty folders only, counts what it wrote and leaves
marked what it could not write. -/
structure Session.FlushesAll (v : Vault δ) (x : Session δ) : Prop where
  marks : ∀ r, (x.step v .flushAll).store.isDirty r = true ↔ x.store.isDirty r = true ∧
    ∃ w ∈ x.store.writes v x.disk fun _ => true, w.root.same r = true ∧ w.written = false
  count : (x.store.flushAll v x.disk).1 =
    (x.store.writes v x.disk fun _ => true).countP (·.written)
  writesDirty : ∀ w ∈ x.store.writes v x.disk fun _ => true, x.store.isDirty w.root = true
  files : ∀ r, .opened r ∈ x.past → x.store.isDirty r = false →
    v.load (x.step v .flushAll).disk r = v.load x.disk r

/-- What a flush of one folder leaves alone. -/
structure Session.FlushesOnly (v : Vault δ) (x : Session δ) (root : Path) : Prop where
  marks : ∀ r, root.same r = false →
    (x.step v (.flushRoot root)).store.isDirty r = x.store.isDirty r
  writesOnly : ∀ w ∈ x.store.writes v x.disk fun other => other.same root, w.root.same root = true
  files : ∀ r, .opened r ∈ x.past → root.same r = false →
    v.load (x.step v (.flushRoot root)).disk r = v.load x.disk r

theorem Store.isDirty_eq_true_iff {s : Store} {r : Path} :
    s.isDirty r = true ↔ ∃ slot, s.slot? r = some slot ∧ slot.dirty = true := by
  cases h : s.slot? r <;> simp [Store.isDirty, h]

theorem Store.isDirty_of_mem_writes {v : Vault δ} {s : Store} (hs : s.IsProper) {d : δ}
    {chosen : Path → Bool} {w : Write δ} (hw : w ∈ s.writes v d chosen) :
    s.isDirty w.root = true := by
  rcases exists_of_mem_writes hw with ⟨slot, hslot, hdirty, _, hroot, _⟩
  refine isDirty_eq_true_iff.2 ⟨slot, slot?_of_mem hs hslot ?_, hdirty⟩
  rw [hroot]
  exact Path.same_refl _

theorem Coherent.flushesAll {v : Vault δ} {x : Session δ} (h : Coherent v x)
    (hfaithful : (x.step v .flushAll).IsFaithful v) : x.FlushesAll v := by
  refine ⟨?_, Store.count_flush v _ _ _, fun w hw => Store.isDirty_of_mem_writes h.proper hw, ?_⟩
  · intro r
    have hslot : (x.step v .flushAll).store.slot? r = _ :=
      Store.slot?_flush h.proper v x.disk (fun _ => true) r
    have hfailed : failed (x.store.writes v x.disk fun _ => true) r = true ↔
        ∃ w ∈ x.store.writes v x.disk fun _ => true, w.root.same r = true ∧ w.written = false := by
      simp [failed, and_comm]
    rw [← hfailed, Store.isDirty, Store.isDirty, hslot]
    cases x.store.slot? r with
    | none => simp
    | some slot => cases hdirty : slot.dirty <;> simp [hdirty]
  · intro r hopened hclean
    have hopened' : Event.opened r ∈ (x.step v .flushAll).past := List.mem_append_left _ hopened
    have hwrites : ∀ w ∈ x.store.writes v x.disk fun _ => true,
        w.Faithful v fun r => Event.opened r ∈ (x.step v .flushAll).past := fun w hw =>
      hfaithful w (List.mem_append_right _ (List.mem_map_of_mem hw))
    -- Only marked folders are written, so none of the writes went to this one.
    have hother : ∀ w ∈ x.store.writes v x.disk fun _ => true, w.root.same r = false := by
      intro w hw
      refine Bool.eq_false_iff.2 fun hsame => ?_
      have hdirty := Store.isDirty_of_mem_writes h.proper hw
      rw [Store.isDirty, Store.slot?_congr _ hsame] at hdirty
      rw [Store.isDirty, hdirty] at hclean
      exact Bool.noConfusion hclean
    have hload := load_flush_other hopened' hwrites hother
    exact hload

theorem Coherent.flushesOnly {v : Vault δ} {x : Session δ} (h : Coherent v x) (root : Path)
    (hfaithful : (x.step v (.flushRoot root)).IsFaithful v) : x.FlushesOnly v root := by
  have honly : ∀ w ∈ x.store.writes v x.disk fun other => other.same root,
      w.root.same root = true := by
    intro w hw
    rcases Store.exists_of_mem_writes hw with ⟨slot, _, _, hchosen, hroot, _⟩
    rw [← hroot]
    exact hchosen
  refine ⟨?_, honly, ?_⟩
  · intro r hr
    have hslot : (x.step v (.flushRoot root)).store.slot? r = _ :=
      Store.slot?_flush h.proper v x.disk (fun other => other.same root) r
    rw [Store.isDirty, Store.isDirty, hslot]
    cases hfound : x.store.slot? r with
    | none => rfl
    | some slot =>
        -- Every write went to the folder that was asked for, which is another one.
        have hother : slot.root.same root = false := by
          rw [Path.same_congr (Store.root_of_slot? hfound), Path.same_comm]
          exact hr
        simp [hother]
  · intro r hopened hr
    have hopened' : Event.opened r ∈ (x.step v (.flushRoot root)).past :=
      List.mem_append_left _ hopened
    have hwrites : ∀ w ∈ x.store.writes v x.disk fun other => other.same root,
        w.Faithful v fun r => Event.opened r ∈ (x.step v (.flushRoot root)).past := fun w hw =>
      hfaithful w (List.mem_append_right _ (List.mem_map_of_mem hw))
    have hother : ∀ w ∈ x.store.writes v x.disk fun other => other.same root,
        w.root.same r = false := by
      intro w hw
      rw [Path.same_congr (honly w hw)]
      exact hr
    have hload := load_flush_other hopened' hwrites hother
    exact hload

/-- Whatever the disk held at first, and whichever writes fail: tables without a mark are what their
files hold, marks have a reason, and flushes touch what they should only. -/
theorem coherent_run (v : Vault δ) (d : δ) (ops : List Op)
    (hfaithful : ((Session.start d).run v ops).IsFaithful v) :
    let x := (Session.start d).run v ops
    (∀ r slot, x.store.slot? r = some slot → slot.dirty = false →
      v.load x.disk slot.root = slot.table) ∧
    (∀ r, x.store.isDirty r = true → Pending x.past r) ∧
    ((x.step v .flushAll).IsFaithful v → x.FlushesAll v) ∧
    (∀ root, (x.step v (.flushRoot root)).IsFaithful v → x.FlushesOnly v root) := by
  intro x
  have h : Coherent v x := (Coherent.start v d).run ops (fun _ hr => hr) hfaithful
  refine ⟨?_, ?_, h.flushesAll, fun root => h.flushesOnly root⟩
  · intro r slot hslot hclean
    exact h.clean slot (Store.mem_of_slot? hslot) hclean
  · intro r hdirty
    rcases Store.isDirty_eq_true_iff.1 hdirty with ⟨slot, hslot, hmark⟩
    rcases h.pending slot (Store.mem_of_slot? hslot) hmark with
      ⟨before, root, after, hpast, hsame, hafter⟩
    have hroot := Store.root_of_slot? hslot
    refine ⟨before, root, after, hpast, Path.same_trans hsame hroot, ?_⟩
    intro e he
    have hquiet := hafter e he
    -- What settles a mark sees the components of a folder only, not how it is spelled.
    cases e with
    | opened other => simpa only [Event.settles, Path.same, Path.same_iff.1 hroot] using hquiet
    | stored other => rfl
    | saved w => simpa only [Event.settles, Path.same, Path.same_iff.1 hroot] using hquiet

/-! ## Two folders side by side -/

/-- A tree that has the folders `p` and `q` only. -/
def siblings : FileTree := ((FileM.createDirs ⟨"/q"⟩).on (FileTree.start ⟨"/p"⟩ 0)).2

def sample : Table := Table.empty.insert "a.py" 7 Table.plain

/-- The tree once the table of `p` is written. -/
def filed : FileTree := ((sample.save (fileOf ⟨"/p"⟩)).on siblings).2

theorem save_siblings :
    (sample.save (fileOf ⟨"/p"⟩)).on siblings = (.ok (), filed) := by
  have hsaved : ((sample.save (fileOf ⟨"/p"⟩)).on siblings).1 = .ok () := rfl
  rw [filed, ← hsaved]

theorem onFiles_save_siblings : onFiles.save siblings ⟨"/p"⟩ sample = (true, filed) := by
  simp only [onFiles, save_siblings]
  rfl

theorem load_siblings : onFiles.load siblings ⟨"/p"⟩ = Table.empty := by
  have hnowhere : siblings.location? (fileOf ⟨"/p"⟩) = none := by decide +kernel
  rw [onFiles_load, Table.load_of_location?_eq_none hnowhere]

theorem load_filed : onFiles.load filed ⟨"/p"⟩ = sample := by
  have hstored : Table.Stored sample := Table.stored_plain
  have hkept : sample.IsKept := Table.isKept_plain
  rw [onFiles_load, Table.load_of_save hstored.sorted hstored.sound save_siblings, if_pos hkept]

/-- The writing of `sample`. -/
def filing : Write FileTree := ⟨siblings, ⟨"/p"⟩, sample, true, filed⟩

/-- Another folder is opened and the sample is stored. -/
def sampleOps (other : Path) : List Op :=
  [.lookup other "a.py" 7, .put ⟨"/p"⟩ "a.py" 7 Table.plain]

theorem run_sampleOps (other : Path) (hother : other.same ⟨"/p"⟩ = false)
    (hload : onFiles.load siblings other = Table.empty) :
    (Session.start siblings).run onFiles (sampleOps other) =
      ⟨⟨[⟨other, Table.empty, false⟩, ⟨⟨"/p"⟩, sample, true⟩]⟩, siblings,
        [.opened other, .opened ⟨"/p"⟩, .stored ⟨"/p"⟩]⟩ := by
  have hself : (⟨"/p"⟩ : Path).same ⟨"/p"⟩ = true := Path.same_refl _
  have hsample : Table.empty.insert "a.py" 7 Table.plain = sample := by rw [sample]
  simp [sampleOps, Session.run, Session.step, Session.start, Store.lookup, Store.put, Store.open?,
    Store.slot?, Store.opening, Store.modify, Store.empty, hload, hother, load_siblings, hself,
    hsample]

/-- The sample is written. -/
theorem run_flush_sampleOps (other : Path) (hother : other.same ⟨"/p"⟩ = false)
    (hload : onFiles.load siblings other = Table.empty) :
    (Session.start siblings).run onFiles (sampleOps other ++ [.flushAll]) =
      ⟨⟨[⟨other, Table.empty, false⟩, ⟨⟨"/p"⟩, sample, false⟩]⟩, filed,
        [.opened other, .opened ⟨"/p"⟩, .stored ⟨"/p"⟩, .saved filing]⟩ := by
  have hrun := run_sampleOps other hother hload
  rw [Session.run] at hrun ⊢
  rw [List.foldl_append, hrun]
  simp [Session.step, Store.flushAll, Store.flush, Store.takeDirty, Store.writeOut, Store.writeOne,
    Store.writes, Store.writeLog, onFiles_save_siblings, filing]

/-- A run whose writes are faithful, before and after the sample is written. -/
theorem coherent_run_siblings :
    (let x := (Session.start siblings).run onFiles (sampleOps ⟨"/q"⟩);
      x.IsFaithful onFiles ∧ (x.step onFiles .flushAll).IsFaithful onFiles ∧
        x.FlushesAll onFiles) ∧
    (let x := (Session.start siblings).run onFiles (sampleOps ⟨"/q"⟩ ++ [.flushAll]);
      x.IsFaithful onFiles ∧ ∀ r slot, x.store.slot? r = some slot → slot.dirty = false →
        onFiles.load x.disk slot.root = slot.table) := by
  have hq : siblings.location? (fileOf ⟨"/q"⟩) = none := by decide +kernel
  have hq' : filed.location? (fileOf ⟨"/q"⟩) = none := by decide +kernel
  have hload : onFiles.load siblings ⟨"/q"⟩ = Table.empty := by
    rw [onFiles_load, Table.load_of_location?_eq_none hq]
  have hrun := run_sampleOps ⟨"/q"⟩ (by decide) hload
  have hflushed := run_flush_sampleOps ⟨"/q"⟩ (by decide) hload
  have hunwritten :
      ((Session.start siblings).run onFiles (sampleOps ⟨"/q"⟩)).IsFaithful onFiles := by
    intro w hw
    simp [hrun] at hw
  have hfaithful : ((Session.start siblings).run onFiles
      (sampleOps ⟨"/q"⟩ ++ [.flushAll])).IsFaithful onFiles := by
    intro w hw
    rw [hflushed] at hw ⊢
    -- The run writes once. The table is read back, and the other folder has none before or after.
    have hfiling : w = filing := by simpa using hw
    rw [hfiling]
    refine ⟨fun h => by simp [filing] at h, fun _ => load_filed, ?_⟩
    intro r hr hne
    have hroot : r = ⟨"/q"⟩ ∨ r = ⟨"/p"⟩ := by simpa using hr
    rcases hroot with rfl | rfl
    · calc
        onFiles.load filed ⟨"/q"⟩ = Table.empty := by
          rw [onFiles_load, Table.load_of_location?_eq_none hq']
        _ = onFiles.load siblings ⟨"/q"⟩ := hload.symm
    · exact absurd hne (by decide)
  refine ⟨⟨hunwritten, hfaithful, ?_⟩, ⟨hfaithful, ?_⟩⟩
  · exact (coherent_run onFiles siblings _ hunwritten).2.2.1 hfaithful
  · exact (coherent_run onFiles siblings _ hfaithful).1

/-- One folder under two spellings: the write of one leaves the other without a mark and with a
table that its file no longer holds. -/
theorem not_coherent_of_alias :
    let x := (Session.start siblings).run onFiles (sampleOps ⟨"/q/../p"⟩ ++ [.flushAll])
    (∀ w, .saved w ∈ x.past → w.written = true ∧ onFiles.load w.after w.root = w.table) ∧
    ∃ slot, x.store.slot? ⟨"/q/../p"⟩ = some slot ∧ slot.dirty = false ∧
      onFiles.load x.disk slot.root ≠ slot.table := by
  have hnowhere : siblings.location? (fileOf ⟨"/q/../p"⟩) = none := by decide +kernel
  have hload : onFiles.load siblings ⟨"/q/../p"⟩ = Table.empty := by
    rw [onFiles_load, Table.load_of_location?_eq_none hnowhere]
  have hrun := run_flush_sampleOps ⟨"/q/../p"⟩ (by decide) hload
  have hhere : filed.location? (fileOf ⟨"/p"⟩) = some ["p", ".vscode", "python.cache"] := by
    decide +kernel
  -- Both spellings lead to one file, and the write under the other one left the sample in it.
  have halias : filed.location? (fileOf ⟨"/q/../p"⟩) = some ["p", ".vscode", "python.cache"] := by
    decide +kernel
  have hsample : onFiles.load filed ⟨"/q/../p"⟩ = sample := by
    rw [onFiles_load, Table.load_congr halias hhere, ← onFiles_load, load_filed]
  intro x
  have hx : x = _ := hrun
  rw [hx]
  refine ⟨?_, ⟨⟨"/q/../p"⟩, Table.empty, false⟩, ?_, rfl, ?_⟩
  · intro w hw
    have hfiling : w = filing := by simpa using hw
    rw [hfiling]
    exact ⟨rfl, load_filed⟩
  · simp [Store.slot?, Path.same_refl]
  · rw [hsample]
    simp [sample, Table.empty, Table.insert, Table.insertEntry]

end Cache
end Testbench
