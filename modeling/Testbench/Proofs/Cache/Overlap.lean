import Testbench.Proofs.Cache.Coherence
import Testbench.Proofs.Cache.Ledger

/-!
# Overlap — flushes that are under way at the same time

A flush pass takes the marked tables and clears their marks in one step, then writes the tables one
by one, and forgets its folder in the end if it evicts it. Between these steps anything may happen:
lookups, stores, and the steps of other passes. A table that waits to be written may be older than
the file by then.

- `Pass`, `Traffic`  : the passes under way;
- `Move`, `Reached`  : their steps in any interleaving;
- `Orderly`          : no table is written while an older one of its folder waits, and no folder is
  forgotten that is marked or waits;
- `Traffic.Carries`  : the invariant: the newest table on the way has all that was stored;
- `Reached.latest_filed` : after an orderly run the files have all that was stored;
- `reached_stale`, `reached_forgotten`, `reached_respelled` : what is lost otherwise.
-/

namespace Testbench
namespace Cache

open Outline (Document)
open Store (Snapshot)

variable {δ : Type}

/-! ## Passes -/

/-- What a pass is asked for. -/
inductive Request where
  | all
  | folder (root : Path)
  | eviction (root : Path)

def Request.chooses : Request → Path → Bool
  | .all, _ => true
  | .folder root, other => other.same root
  | .eviction root, other => other.same root

/-- The folder that is forgotten in the end. -/
def Request.forgets? : Request → Option Path
  | .eviction root => some root
  | _ => none

/-- A pass under way, with the tables that it took and has not written yet. -/
structure Pass where
  left : List Snapshot
  forgets? : Option Path

/-- The tables of a folder that a pass has to write. -/
def Pass.tablesOf (r : Path) (pass : Pass) : List Table :=
  (pass.left.filter fun snapshot => snapshot.1.same r).map (·.2)

/-- A store and its disk, with the passes under way in the order in which they began. -/
structure Traffic (δ : Type) where
  store : Store
  disk : δ
  passes : List Pass

/-- The tables of a folder that wait to be written, those of older passes first. -/
def Traffic.waiting (x : Traffic δ) (r : Path) : List Table := x.passes.flatMap (Pass.tablesOf r)

/-! ## Moves -/

/-- What is done in one step. A write is kept with the passes that began before its own. -/
inductive Deed (δ : Type) where
  | opened (root : Path)
  | stored (root : Path) (key : String) (entry : Entry)
  | took (request : Request)
  | wrote (older : List Pass) (w : Write δ)
  | finished (forgets? : Option Path)

/-- One step of anybody. A pass may write its tables in any order. -/
inductive Move (v : Vault δ) : Traffic δ → Deed δ → Traffic δ → Prop where
  | lookup (x : Traffic δ) (root : Path) (key : String) (modified : Nat) :
      Move v x (.opened root) { x with store := (x.store.lookup v x.disk root key modified).2 }
  | put (x : Traffic δ) (root : Path) (key : String) (modified : Nat) (document : Document) :
      Move v x (.stored root key ⟨modified, document⟩)
        { x with store := x.store.put v x.disk root key modified document }
  | take (x : Traffic δ) (request : Request) :
      Move v x (.took request)
        ⟨(x.store.takeDirty request.chooses).2, x.disk,
          x.passes ++ [⟨(x.store.takeDirty request.chooses).1, request.forgets?⟩]⟩
  | write (s : Store) (d : δ) (older newer : List Pass) (front back : List Snapshot)
      (snapshot : Snapshot) (forgets? : Option Path) :
      Move v ⟨s, d, older ++ ⟨front ++ snapshot :: back, forgets?⟩ :: newer⟩
        (.wrote older ⟨d, snapshot.1, snapshot.2, (v.save d snapshot.1 snapshot.2).1,
          (v.save d snapshot.1 snapshot.2).2⟩)
        ⟨(s.writeOne v d snapshot).2.1, (s.writeOne v d snapshot).2.2,
          older ++ ⟨front ++ back, forgets?⟩ :: newer⟩
  | finish (s : Store) (d : δ) (older newer : List Pass) (forgets? : Option Path) :
      Move v ⟨s, d, older ++ ⟨[], forgets?⟩ :: newer⟩ (.finished forgets?)
        ⟨forgets?.elim s s.drop, d, older ++ newer⟩

/-- What can be reached from a disk, with each deed and the state in which it was done. -/
inductive Reached (v : Vault δ) (d : δ) : List (Traffic δ × Deed δ) → Traffic δ → Prop where
  | start : Reached v d [] ⟨.empty, d, []⟩
  | move {past : List (Traffic δ × Deed δ)} {x y : Traffic δ} {e : Deed δ} :
      Reached v d past x → Move v x e y → Reached v d (past ++ [(x, e)]) y

def Deed.storedIn (r : Path) : Deed δ → Ledger
  | .stored root key entry => if root.same r then [(key, entry)] else []
  | _ => []

/-- What was stored in a folder. -/
def ledgerOf (r : Path) (past : List (Traffic δ × Deed δ)) : Ledger :=
  past.flatMap fun m => m.2.storedIn r

theorem ledgerOf_append (r : Path) (past more : List (Traffic δ × Deed δ)) :
    ledgerOf r (past ++ more) = ledgerOf r past ++ ledgerOf r more :=
  List.flatMap_append

/-- A deed that names folders in use only, and whose write, if it is one, succeeds and is exact. -/
def Deed.IsFine (v : Vault δ) (roots : Path → Prop) : Deed δ → Prop
  | .opened root => roots root
  | .stored root _ _ => roots root
  | .wrote _ w => w.written = true ∧ w.Exact v roots
  | _ => True

/-- A table is not written while an older one of its folder waits. A folder is not forgotten while
it is marked or one of its tables waits. -/
def Orderly (x : Traffic δ) : Deed δ → Prop
  | .wrote older w => ∀ pass ∈ older, pass.tablesOf w.root = []
  | .finished forgets? => ∀ root, forgets? = some root →
      x.store.isDirty root = false ∧ x.waiting root = []
  | _ => True

/-! ## Tables that wait -/

theorem Pass.tablesOf_congr {p q : Path} (h : p.same q = true) :
    Pass.tablesOf p = Pass.tablesOf q := by
  funext pass
  simp only [tablesOf, Path.same_congr_right h]

/-- What waits of a folder, around one table of one pass. -/
theorem Traffic.waiting_split (s : Store) (d : δ) (older newer : List Pass)
    (front back : List Snapshot) (snapshot : Snapshot) (forgets? : Option Path) (r : Path) :
    Traffic.waiting ⟨s, d, older ++ ⟨front ++ snapshot :: back, forgets?⟩ :: newer⟩ r =
      older.flatMap (Pass.tablesOf r) ++ (Pass.tablesOf r ⟨front, forgets?⟩ ++
        ((if snapshot.1.same r then [snapshot.2] else []) ++ Pass.tablesOf r ⟨back, forgets?⟩)) ++
          newer.flatMap (Pass.tablesOf r) := by
  cases hsame : snapshot.1.same r <;> simp [waiting, Pass.tablesOf, hsame]

/-- What waits of a folder once that table is written. -/
theorem Traffic.waiting_rest (s : Store) (d : δ) (older newer : List Pass)
    (front back : List Snapshot) (forgets? : Option Path) (r : Path) :
    Traffic.waiting ⟨s, d, older ++ ⟨front ++ back, forgets?⟩ :: newer⟩ r =
      older.flatMap (Pass.tablesOf r) ++ (Pass.tablesOf r ⟨front, forgets?⟩ ++
        Pass.tablesOf r ⟨back, forgets?⟩) ++ newer.flatMap (Pass.tablesOf r) := by
  simp [waiting, Pass.tablesOf]

theorem Traffic.waiting_congr (x : Traffic δ) {p q : Path} (h : p.same q = true) :
    x.waiting p = x.waiting q := by
  rw [waiting, waiting, Pass.tablesOf_congr h]

theorem Pass.tablesOf_eq_nil {snapshots : List Snapshot} {forgets? : Option Path} {r : Path} :
    (∀ snapshot ∈ snapshots, snapshot.1.same r = false) →
      Pass.tablesOf r ⟨snapshots, forgets?⟩ = [] := by
  intro h
  have hnone : snapshots.filter (fun snapshot => snapshot.1.same r) = [] := by
    apply List.filter_eq_nil_iff.2
    intro snapshot hsnapshot
    simp [h snapshot hsnapshot]
  rw [tablesOf, hnone]
  rfl

/-- Of a folder there is its own slot and no other. -/
theorem Store.filter_slots {s : Store} (hs : s.IsProper) (r : Path) :
    s.slots.filter (fun slot => slot.root.same r) = (s.slot? r).toList := by
  rcases s with ⟨slots⟩
  simp only [IsProper, slot?] at hs ⊢
  induction slots with
  | nil => rfl
  | cons slot rest ih =>
      rcases List.pairwise_cons.1 hs with ⟨hother, hrest⟩
      cases hsame : slot.root.same r with
      | true =>
          -- The slots are of different folders, so no later one is of this folder too.
          have hnone : rest.filter (fun slot => slot.root.same r) = [] := by
            apply List.filter_eq_nil_iff.2
            intro other hmem hclash
            have hapart := hother other hmem
            rw [Path.same_trans hsame (Path.same_symm hclash)] at hapart
            exact Bool.noConfusion hapart
          simp [hsame, hnone]
      | false => simpa [hsame] using ih hrest

/-- Of a folder a pass takes its table if it is marked and asked for. -/
theorem tablesOf_takeDirty {s : Store} (hs : s.IsProper) (chosen : Path → Bool)
    (forgets? : Option Path) (r : Path) :
    Pass.tablesOf r ⟨(s.takeDirty chosen).1, forgets?⟩ =
      ((s.slot? r).toList.filter fun slot => slot.dirty && chosen slot.root).map (·.table) := by
  rw [← Store.filter_slots hs r, List.filter_filter]
  simp only [Pass.tablesOf, Store.takeDirty, List.filter_map, List.map_map, List.filter_filter]
  have hcomm : ∀ slot : Slot, ((slot.dirty && chosen slot.root) && slot.root.same r) =
      (slot.root.same r && (slot.dirty && chosen slot.root)) := fun slot => Bool.and_comm _ _
  simp only [hcomm, Function.comp_def]

/-! ## The invariant -/

/-- A table has the latest entry of every key of a ledger. -/
def Table.Covers (table : Table) (puts : Ledger) : Prop :=
  ∀ key e, puts.latest? key = some e → table.find? key = some e

theorem Table.covers_nil (table : Table) : table.Covers [] := by
  intro key e h
  simp [Ledger.latest?] at h

theorem Table.Covers.insert {table : Table} {puts : Ledger} (h : table.Covers puts) (key : String)
    (modified : Nat) (document : Document) :
    (table.insert key modified document).Covers (puts ++ [(key, ⟨modified, document⟩)]) := by
  intro other e hlatest
  rw [Ledger.latest?_append] at hlatest
  rw [Table.find?_insert]
  by_cases hkey : key = other
  · simpa [Ledger.latest?, Keyed.get?_cons, hkey] using hlatest
  · have hold : puts.latest? other = some e := by
      simpa [Ledger.latest?, Keyed.get?_cons, hkey] using hlatest
    simpa [hkey] using h other e hold

/-- What will be loaded for a folder once everything that waits is written in order. -/
def Traffic.newest (v : Vault δ) (x : Traffic δ) (q : Path) : Table :=
  (x.waiting q).getLast?.getD (v.load x.disk q)

/-- All that was stored in a folder is in its table in memory, and unless that is marked also in the
newest table on its way to the file. Nothing waits of a folder that is not in memory. -/
structure Traffic.Carries (v : Vault δ) (roots : Path → Prop) (r : Path) (x : Traffic δ)
    (puts : Ledger) : Prop where
  proper : x.store.IsProper
  apart : ∀ pass ∈ x.passes, pass.left.Pairwise fun a b => a.1.same b.1 = false
  found : ∀ slot, x.store.slot? r = some slot → slot.table.Covers puts
  newest : (∀ slot, x.store.slot? r = some slot → slot.dirty = false) →
    ∀ q, roots q → q.same r = true → (x.newest v q).Covers puts
  gone : x.store.slot? r = none → x.waiting r = []

namespace Traffic
namespace Carries

variable {v : Vault δ} {roots : Path → Prop} {r : Path} {x : Traffic δ} {puts : Ledger}

theorem start (v : Vault δ) (roots : Path → Prop) (r : Path) (d : δ) :
    Carries v roots r ⟨.empty, d, []⟩ [] := by
  refine ⟨List.Pairwise.nil, ?_, ?_, ?_, fun _ => rfl⟩
  · intro pass hpass
    cases hpass
  · intro slot _
    exact slot.table.covers_nil
  · intro _ q _ _
    exact Table.covers_nil _

/-- What a folder has once it is opened. -/
theorem table_opened (h : Carries v roots r x puts) {root : Path} (hroot : roots root) :
    root.same r = true → (x.store.opened v x.disk root).table.Covers puts := by
  intro hsame
  have hslot := x.store.slot?_congr hsame
  cases hfound : x.store.slot? r with
  | some slot =>
      rw [hfound] at hslot
      simpa [Store.opened, hslot] using h.found slot hfound
  | none =>
      -- Nothing waits of the folder, so its file is the newest.
      have hwaiting : x.waiting root = [] := (x.waiting_congr hsame).trans (h.gone hfound)
      have hnewest := h.newest (by simp [hfound]) root hroot hsame
      rw [hfound] at hslot
      simpa [Store.opened, hslot, Traffic.newest, hwaiting] using hnewest

/-- What a folder has in memory, on its way and in its file is all that matters. -/
theorem congr (h : Carries v roots r x puts) {y : Traffic δ} (hproper : y.store.IsProper)
    (hapart : ∀ pass ∈ y.passes, pass.left.Pairwise fun a b => a.1.same b.1 = false)
    (hslot : y.store.slot? r = x.store.slot? r)
    (hwaiting : ∀ q, q.same r = true → y.waiting q = x.waiting q)
    (hload : ∀ q, roots q → q.same r = true → v.load y.disk q = v.load x.disk q) :
    Carries v roots r y puts := by
  refine ⟨hproper, hapart, ?_, ?_, ?_⟩
  · intro slot hnew
    exact h.found slot (hslot.symm.trans hnew)
  · intro hclean q hq hqr
    have hnewest : y.newest v q = x.newest v q := by
      rw [Traffic.newest, Traffic.newest, hwaiting q hqr, hload q hq hqr]
    rw [hnewest]
    apply h.newest _ q hq hqr
    intro slot hold
    exact hclean slot (hslot.trans hold)
  · intro hnone
    rw [hwaiting r (Path.same_refl r)]
    exact h.gone (hslot.symm.trans hnone)

theorem opening (h : Carries v roots r x puts) {root : Path} (hroot : roots root) :
    Carries v roots r { x with store := x.store.open? v x.disk root } puts := by
  have hslot := x.store.slot?_open? v x.disk root r
  have hproper := h.proper.open? v x.disk root
  by_cases hsame : root.same r = true
  · rw [if_pos hsame] at hslot
    refine ⟨hproper, h.apart, ?_, ?_, ?_⟩
    · intro slot hnew
      cases hslot.symm.trans hnew
      exact h.table_opened hroot hsame
    · intro hclean
      apply h.newest
      intro slot hold
      -- A folder in memory is not loaded again.
      have hopened : x.store.opened v x.disk root = slot := by
        simp [Store.opened, x.store.slot?_congr hsame, hold]
      rw [← hopened]
      exact hclean _ hslot
    · intro hnone
      cases hslot.symm.trans hnone
  · rw [if_neg hsame] at hslot
    exact h.congr hproper h.apart hslot (fun _ _ => rfl) fun _ _ _ => rfl

theorem storing (h : Carries v roots r x puts) {root : Path} (hroot : roots root) (key : String)
    (modified : Nat) (document : Document) :
    Carries v roots r { x with store := x.store.put v x.disk root key modified document }
      (puts ++ Deed.storedIn r (.stored root key ⟨modified, document⟩ : Deed δ)) := by
  have hopen := h.opening hroot
  have hslot := (x.store.open? v x.disk root).slot?_modify root
    (f := fun slot => { slot with table := slot.table.insert key modified document, dirty := true })
    (fun _ => rfl) r
  have hproper : (x.store.put v x.disk root key modified document).IsProper :=
    hopen.proper.modify root fun _ => rfl
  by_cases hsame : root.same r = true
  · have hstored : Deed.storedIn r (.stored root key ⟨modified, document⟩ : Deed δ) =
        [(key, ⟨modified, document⟩)] := by simp [Deed.storedIn, hsame]
    have hopened := x.store.slot?_open? v x.disk root r
    rw [if_pos hsame] at hslot hopened
    rw [hopened, Option.map_some] at hslot
    rw [hstored]
    -- The table is marked, so nothing is asked of what is on its way.
    refine ⟨hproper, h.apart, ?_, ?_, ?_⟩
    · intro slot hnew
      cases hslot.symm.trans hnew
      exact (h.table_opened hroot hsame).insert key modified document
    · intro hclean
      have hmark := hclean _ hslot
      exact Bool.noConfusion hmark
    · intro hnone
      cases hslot.symm.trans hnone
  · have hstored : Deed.storedIn r (.stored root key ⟨modified, document⟩ : Deed δ) = [] := by
      simp [Deed.storedIn, hsame]
    rw [if_neg hsame] at hslot
    rw [hstored, List.append_nil]
    exact hopen.congr hproper h.apart hslot (fun _ _ => rfl) fun _ _ _ => rfl

/-- What waits of a folder once a pass has begun. -/
theorem waiting_take (hproper : x.store.IsProper) (chosen : Path → Bool) (forgets? : Option Path)
    (q : Path) : Traffic.waiting (δ := δ) ⟨(x.store.takeDirty chosen).2, x.disk,
      x.passes ++ [⟨(x.store.takeDirty chosen).1, forgets?⟩]⟩ q =
      x.waiting q ++ ((x.store.slot? q).toList.filter fun slot =>
        slot.dirty && chosen slot.root).map (·.table) := by
  rw [← tablesOf_takeDirty hproper chosen forgets? q]
  simp [Traffic.waiting]

/-- A pass that begins takes the table with all that was stored. -/
theorem taking (h : Carries v roots r x puts) (chosen : Path → Bool) (forgets? : Option Path) :
    Carries v roots r ⟨(x.store.takeDirty chosen).2, x.disk,
      x.passes ++ [⟨(x.store.takeDirty chosen).1, forgets?⟩]⟩ puts := by
  have hslot := x.store.slot?_takeDirty chosen r
  have hproper := h.proper.takeDirty chosen
  have hwaiting := waiting_take h.proper chosen forgets?
  have hapart : ∀ pass ∈ x.passes ++ [⟨(x.store.takeDirty chosen).1, forgets?⟩],
      pass.left.Pairwise fun a b => a.1.same b.1 = false := by
    intro pass hpass
    rcases List.mem_append.1 hpass with hold | hnew
    · exact h.apart pass hold
    · rw [List.mem_singleton.1 hnew]
      exact List.pairwise_map.2 (h.proper.filter _)
  cases hfound : x.store.slot? r with
  | none =>
      rw [hfound, Option.map_none, ← hfound] at hslot
      refine h.congr hproper hapart hslot ?_ ?_
      · intro q hqr
        simp [hwaiting, x.store.slot?_congr hqr, hfound]
      · intro q _ _
        rfl
  | some slot =>
      rw [hfound, Option.map_some] at hslot
      refine ⟨hproper, hapart, ?_, ?_, ?_⟩
      · intro after hnew
        cases hslot.symm.trans hnew
        have htable := h.found slot hfound
        split <;> exact htable
      · intro hclean q hq hqr
        have hmark := hclean _ hslot
        by_cases htaken : (slot.dirty && chosen slot.root) = true
        · -- The newest table is the one that was just taken.
          have hlast : Traffic.newest v ⟨(x.store.takeDirty chosen).2, x.disk,
              x.passes ++ [⟨(x.store.takeDirty chosen).1, forgets?⟩]⟩ q = slot.table := by
            simp [Traffic.newest, hwaiting, x.store.slot?_congr hqr, hfound, htaken]
          rw [hlast]
          exact h.found slot hfound
        · -- Nothing was taken; the table had no mark before.
          have hunmarked : slot.dirty = false := by simpa [htaken] using hmark
          have hbefore := h.newest (by simp [hfound, hunmarked]) q hq hqr
          simpa [Traffic.newest, hwaiting, x.store.slot?_congr hqr, hfound, htaken] using hbefore
      · intro hnone
        cases hslot.symm.trans hnone

section

variable {older newer : List Pass} {front back : List Snapshot} {snapshot : Snapshot}
  {forgets? : Option Path}

/-- A pass has at most one table of a folder, after a write as before. -/
theorem apart_write (h : ∀ pass ∈ older ++ ⟨front ++ snapshot :: back, forgets?⟩ :: newer,
      pass.left.Pairwise fun a b => a.1.same b.1 = false) :
    ∀ pass ∈ older ++ ⟨front ++ back, forgets?⟩ :: newer,
      pass.left.Pairwise fun a b => a.1.same b.1 = false := by
  intro pass hmem
  rcases List.mem_append.1 hmem with hold | hnew
  · exact h pass (List.mem_append_left _ hold)
  · rcases List.mem_cons.1 hnew with rfl | hnew
    · have hpass := h ⟨front ++ snapshot :: back, forgets?⟩ (by simp)
      exact hpass.sublist ((List.sublist_cons_self _ _).append_left front)
    · exact h pass (List.mem_append_right _ (List.mem_cons_of_mem _ hnew))

/-- Where no older pass waits with a table of its folder, the table that is written is the first
that waits, and those of newer passes wait on. -/
theorem waiting_write
    (hpass : (front ++ snapshot :: back).Pairwise fun a b => a.1.same b.1 = false)
    (holder : ∀ pass ∈ older, pass.tablesOf snapshot.1 = []) (s : Store) (d after : δ) {q : Path}
    (hq : snapshot.1.same q = true) :
    Traffic.waiting (δ := δ) ⟨s, d, older ++ ⟨front ++ snapshot :: back, forgets?⟩ :: newer⟩ q =
        snapshot.2 :: newer.flatMap (Pass.tablesOf q) ∧
      Traffic.waiting (δ := δ) ⟨s, after, older ++ ⟨front ++ back, forgets?⟩ :: newer⟩ q =
        newer.flatMap (Pass.tablesOf q) := by
  have hfront : ∀ other ∈ front, other.1.same snapshot.1 = false := by
    intro other hmem
    exact (List.pairwise_append.1 hpass).2.2 other hmem snapshot (by simp)
  have hback : ∀ other ∈ back, other.1.same snapshot.1 = false := by
    intro other hmem
    have hlater := List.pairwise_cons.1 (List.pairwise_append.1 hpass).2.1
    rw [Path.same_comm]
    exact hlater.1 other hmem
  have hnone : older.flatMap (Pass.tablesOf snapshot.1) = [] := List.flatMap_eq_nil_iff.2 holder
  have hsame := Pass.tablesOf_congr hq
  refine ⟨?_, ?_⟩
  · rw [waiting_split, ← hsame, hnone, Pass.tablesOf_eq_nil hfront, Pass.tablesOf_eq_nil hback, hq]
    rfl
  · rw [waiting_rest, ← hsame, hnone, Pass.tablesOf_eq_nil hfront, Pass.tablesOf_eq_nil hback]
    rfl

/-- The oldest table of a folder that waits is written. -/
theorem writing {s : Store} {d after : δ}
    (h : Carries v roots r ⟨s, d, older ++ ⟨front ++ snapshot :: back, forgets?⟩ :: newer⟩ puts)
    (hexact : (⟨d, snapshot.1, snapshot.2, true, after⟩ : Write δ).Exact v roots)
    (horderly : ∀ pass ∈ older, pass.tablesOf snapshot.1 = []) :
    Carries v roots r ⟨s, after, older ++ ⟨front ++ back, forgets?⟩ :: newer⟩ puts := by
  have hapart := apart_write h.apart
  have hpass := h.apart ⟨front ++ snapshot :: back, forgets?⟩ (by simp)
  cases hsame : snapshot.1.same r with
  | true =>
      have hwaiting : ∀ q : Path, q.same r = true → snapshot.1.same q = true := fun q hqr =>
        Path.same_trans hsame (Path.same_symm hqr)
      -- If it was the newest that waited, the file has it now.
      refine ⟨h.proper, hapart, h.found, ?_, ?_⟩
      · intro hclean q hq hqr
        rcases waiting_write hpass horderly s d after (hwaiting q hqr) with ⟨hbefore, hafter⟩
        have hnewest := h.newest hclean q hq hqr
        rw [Traffic.newest, hbefore, List.getLast?_cons] at hnewest
        rw [Traffic.newest, hafter, hexact.readBack rfl q hq (hwaiting q hqr)]
        exact hnewest
      · intro hnone
        have hgone := h.gone hnone
        rw [(waiting_write hpass horderly s d after (hwaiting r (Path.same_refl r))).1] at hgone
        cases hgone
  | false =>
      -- Neither what waits of the folder nor its file changes.
      have hother : ∀ q, q.same r = true → snapshot.1.same q = false := by
        intro q hqr
        exact (Path.same_congr_right hqr snapshot.1).trans hsame
      refine h.congr h.proper hapart rfl ?_ ?_
      · intro q hqr
        rw [waiting_split, waiting_rest, hother q hqr]
        rfl
      · intro q hq hqr
        exact hexact.kept q hq fun _ => hother q hqr

end

/-- A pass that has written all it took is over. -/
theorem finishing {s : Store} {d : δ} {older newer : List Pass} {forgets? : Option Path}
    (h : Carries v roots r ⟨s, d, older ++ ⟨[], forgets?⟩ :: newer⟩ puts)
    (horderly : Orderly ⟨s, d, older ++ ⟨[], forgets?⟩ :: newer⟩ (.finished forgets?)) :
    Carries v roots r ⟨forgets?.elim s s.drop, d, older ++ newer⟩ puts := by
  have hapart : ∀ pass ∈ older ++ newer,
      pass.left.Pairwise fun a b => a.1.same b.1 = false := by
    intro pass hmem
    apply h.apart pass
    rcases List.mem_append.1 hmem with hold | hnew
    · exact List.mem_append_left _ hold
    · exact List.mem_append_right _ (List.mem_cons_of_mem _ hnew)
  have hwaiting : ∀ (t : Store) (q : Path), Traffic.waiting (δ := δ) ⟨t, d, older ++ newer⟩ q =
      Traffic.waiting (δ := δ) ⟨s, d, older ++ ⟨[], forgets?⟩ :: newer⟩ q := by
    intro t q
    simp [Traffic.waiting, Pass.tablesOf]
  have hkept : ∀ t : Store, t.IsProper → t.slot? r = s.slot? r →
      Carries v roots r ⟨t, d, older ++ newer⟩ puts := by
    intro t hproper hslot
    exact h.congr hproper hapart hslot (fun q _ => hwaiting t q) fun _ _ _ => rfl
  cases forgets? with
  | none => exact hkept s h.proper rfl
  | some root =>
      have hslot := s.slot?_drop root r
      have hproper : (s.drop root).IsProper := h.proper.drop root
      by_cases hsame : root.same r = true
      · -- The folder is forgotten; the newest table is its file, which has everything.
        rcases horderly root rfl with ⟨hunmarked, hempty⟩
        have hclean : ∀ slot, s.slot? r = some slot → slot.dirty = false := by
          intro slot hfound
          have hmark : ((s.slot? root).map (·.dirty)).getD false = false := hunmarked
          simpa [s.slot?_congr hsame, hfound] using hmark
        rw [if_pos hsame] at hslot
        refine ⟨hproper, hapart, ?_, ?_, ?_⟩
        · intro slot hnew
          cases hslot.symm.trans hnew
        · intro _ q hq hqr
          rw [Traffic.newest, hwaiting]
          exact h.newest hclean q hq hqr
        · intro _
          rw [hwaiting, ← Traffic.waiting_congr _ hsame]
          exact hempty
      · rw [if_neg hsame] at hslot
        exact hkept (s.drop root) hproper hslot

/-- A deed that stores nothing in the folder adds nothing to its ledger. -/
theorem quiet {e : Deed δ} (h : Carries v roots r x puts) :
    e.storedIn r = [] → Carries v roots r x (puts ++ e.storedIn r) := by
  intro hnone
  rw [hnone, List.append_nil]
  exact h

/-- Every orderly move carries on what was stored. -/
theorem move {y : Traffic δ} {e : Deed δ} (h : Carries v roots r x puts) (hmove : Move v x e y)
    (hfine : e.IsFine v roots) (horderly : Orderly x e) :
    Carries v roots r y (puts ++ e.storedIn r) := by
  cases hmove with
  | lookup _ root key modified => exact (h.opening hfine).quiet rfl
  | put _ root key modified document => exact h.storing hfine key modified document
  | take _ request => exact (h.taking request.chooses request.forgets?).quiet rfl
  | write s d older newer front back snapshot forgets? =>
      -- A fine write succeeds, so the mark stays as it is.
      rcases hfine with ⟨hwritten, hexact⟩
      rcases hsave : v.save d snapshot.1 snapshot.2 with ⟨written, after⟩
      rw [hsave] at hwritten hexact
      cases hwritten
      simp only [Store.writeOne, hsave, if_true]
      exact (h.writing hexact horderly).quiet rfl
  | finish s d older newer forgets? => exact (h.finishing horderly).quiet rfl

end Carries
end Traffic

/-! ## Runs -/

theorem Reached.carries {v : Vault δ} {roots : Path → Prop} {d : δ}
    {past : List (Traffic δ × Deed δ)} {x : Traffic δ} (h : Reached v d past x) (r : Path) :
    (∀ m ∈ past, m.2.IsFine v roots) → (∀ m ∈ past, Orderly m.1 m.2) →
      x.Carries v roots r (ledgerOf r past) := by
  induction h with
  | start =>
      intro _ _
      exact Traffic.Carries.start v roots r d
  | move _ hmove ih =>
      intro hfine horderly
      rcases List.forall_mem_append.1 hfine with ⟨hfine, hlast⟩
      rcases List.forall_mem_append.1 horderly with ⟨horderly, hnow⟩
      have hbefore := ih hfine horderly
      have hafter := hbefore.move hmove (hlast _ (List.mem_singleton_self _))
        (hnow _ (List.mem_singleton_self _))
      simpa [ledgerOf_append, ledgerOf] using hafter

/-- Once no pass is under way, a folder that is not marked, or not in memory, has in its file the
latest of what was stored under each key, however passes, lookups and stores overlapped: if every
write succeeded and none overtook an older one of its folder, and if no folder was forgotten that
was marked or had a table waiting. -/
theorem Reached.latest_filed {v : Vault δ} {roots : Path → Prop} {d : δ}
    {past : List (Traffic δ × Deed δ)} {x : Traffic δ} (h : Reached v d past x)
    (hfine : ∀ m ∈ past, m.2.IsFine v roots) (horderly : ∀ m ∈ past, Orderly m.1 m.2)
    (hdone : x.passes = []) {r : Path} (hr : roots r) (hclean : x.store.isDirty r = false)
    {key : String} {e : Entry} (hlatest : (ledgerOf r past).latest? key = some e) :
    (v.load x.disk r).find? key = some e := by
  have hcarries := h.carries r hfine horderly
  have hunmarked : ∀ slot, x.store.slot? r = some slot → slot.dirty = false := by
    intro slot hslot
    simpa [Store.isDirty, hslot] using hclean
  have hcovers := hcarries.newest hunmarked r hr (Path.same_refl r)
  have hnewest : x.newest v r = v.load x.disk r := by
    simp [Traffic.newest, Traffic.waiting, hdone]
  -- Nothing waits any more, so the newest table is the one in the file.
  rw [hnewest] at hcovers
  exact hcovers key e hlatest

/-! ## Two passes and a store between them -/

/-- One folder in memory. -/
def alone (table : Table) (dirty : Bool) : Store := ⟨[⟨⟨"/p"⟩, table, dirty⟩]⟩

/-- A pass with one table to write, and the pass after that. -/
def Pass.one (request : Request) (root : Path) (table : Table) : Pass :=
  ⟨[(root, table)], request.forgets?⟩

def Pass.over (request : Request) : Pass := ⟨[], request.forgets?⟩

theorem move_put (table : Table) (dirty : Bool) (d : FileTree) (passes : List Pass) (key : String) :
    Move onFiles ⟨alone table dirty, d, passes⟩ (.stored ⟨"/p"⟩ key ⟨7, Table.plain⟩)
      ⟨alone (table.insert key 7 Table.plain) true, d, passes⟩ := by
  have hput : (alone table dirty).put onFiles d ⟨"/p"⟩ key 7 Table.plain =
      alone (table.insert key 7 Table.plain) true := by
    simp [alone, Store.put, Store.open?, Store.slot?, Store.modify, Path.same_refl]
  rw [← hput]
  exact .put ⟨alone table dirty, d, passes⟩ ⟨"/p"⟩ key 7 Table.plain

theorem move_take (table : Table) (d : FileTree) (passes : List Pass) :
    Move onFiles ⟨alone table true, d, passes⟩ (.took .all)
      ⟨alone table false, d, passes ++ [.one .all ⟨"/p"⟩ table]⟩ :=
  .take ⟨alone table true, d, passes⟩ .all

theorem move_write (s : Store) {d after : FileTree} {root : Path} {table : Table}
    (request : Request) (older newer : List Pass) :
    onFiles.save d root table = (true, after) →
      Move onFiles ⟨s, d, older ++ .one request root table :: newer⟩
        (.wrote older ⟨d, root, table, true, after⟩)
        ⟨s, after, older ++ .over request :: newer⟩ := by
  intro hsave
  have hmove : Move onFiles ⟨s, d, older ++ .one request root table :: newer⟩ _ _ :=
    .write s d older newer [] [] (root, table) request.forgets?
  simpa [Store.writeOne, hsave, Pass.over] using hmove

theorem move_finish (s : Store) (d : FileTree) (newer : List Pass) :
    Move onFiles ⟨s, d, .over .all :: newer⟩ (.finished none) ⟨s, d, newer⟩ :=
  .finish s d [] newer none

/-- The sample with one more document. -/
def fuller : Table := sample.insert "b.py" 7 Table.plain

theorem stored_fuller : Table.Stored fuller := by
  have hkey : ProjectFiles.cacheKey? ⟨"/p"⟩ (Path.joinText ⟨"/p"⟩ "b.py") = some "b.py" := by decide
  exact Table.stored_plain.insert (Table.storable_plain hkey)

theorem isKept_fuller : fuller.IsKept := by decide +kernel

/-- The trees in which the fuller table is written, alone and after the sample, and the one in which
the sample is written after it. -/
def filedFuller : FileTree := ((fuller.save (fileOf ⟨"/p"⟩)).on siblings).2

def filedBoth : FileTree := ((fuller.save (fileOf ⟨"/p"⟩)).on filed).2

def filedBack : FileTree := ((sample.save (fileOf ⟨"/p"⟩)).on filedFuller).2

theorem save_fuller : onFiles.save siblings ⟨"/p"⟩ fuller = (true, filedFuller) := rfl

theorem save_both : onFiles.save filed ⟨"/p"⟩ fuller = (true, filedBoth) := rfl

theorem save_back : onFiles.save filedFuller ⟨"/p"⟩ sample = (true, filedBack) := rfl

theorem move_first : Move onFiles ⟨.empty, siblings, []⟩ (.stored ⟨"/p"⟩ "a.py" ⟨7, Table.plain⟩)
    ⟨alone sample true, siblings, []⟩ := by
  have hput : Store.empty.put onFiles siblings ⟨"/p"⟩ "a.py" 7 Table.plain = alone sample true := by
    simp [alone, Store.put, Store.open?, Store.slot?, Store.modify, Store.empty, load_siblings,
      Path.same_refl, sample]
  rw [← hput]
  exact .put ⟨.empty, siblings, []⟩ ⟨"/p"⟩ "a.py" 7 Table.plain

/-- A document is stored, a pass begins, another document is stored, another pass begins. -/
theorem reached_both : ∃ past,
    Reached onFiles siblings past
      ⟨alone fuller false, siblings, [.one .all ⟨"/p"⟩ sample, .one .all ⟨"/p"⟩ fuller]⟩ ∧
    (∀ m ∈ past, m.2.IsFine onFiles (fun q => q = ⟨"/p"⟩) ∧ Orderly m.1 m.2) ∧
    ledgerOf ⟨"/p"⟩ past = [("a.py", ⟨7, Table.plain⟩), ("b.py", ⟨7, Table.plain⟩)] := by
  have hsecond : Move onFiles ⟨alone sample false, siblings, [.one .all ⟨"/p"⟩ sample]⟩
      (.stored ⟨"/p"⟩ "b.py" ⟨7, Table.plain⟩)
        ⟨alone fuller true, siblings, [.one .all ⟨"/p"⟩ sample]⟩ :=
    move_put sample false siblings [.one .all ⟨"/p"⟩ sample] "b.py"
  refine ⟨_,
    (((Reached.start.move move_first).move (move_take sample siblings [])).move hsecond).move
    (move_take fuller siblings [.one .all ⟨"/p"⟩ sample]), ?_, ?_⟩
  · simp [Deed.IsFine, Orderly]
  · simp [ledgerOf, Deed.storedIn, Path.same_refl]

/-- Both passes write, the older one first. -/
theorem reached_in_order :
    ∃ past, Reached onFiles siblings past ⟨alone fuller false, filedBoth, []⟩ ∧
    (∀ m ∈ past, m.2.IsFine onFiles (fun q => q = ⟨"/p"⟩) ∧ Orderly m.1 m.2) ∧
    (ledgerOf ⟨"/p"⟩ past).latest? "b.py" = some ⟨7, Table.plain⟩ := by
  rcases reached_both with ⟨past, hboth, hgood, hledger⟩
  have hfirst := Write.exact_onFiles Table.stored_plain Table.isKept_plain onFiles_save_siblings
  have hsecond := Write.exact_onFiles stored_fuller isKept_fuller save_both
  refine ⟨_,
    (((hboth.move (move_write _ .all [] [.one .all ⟨"/p"⟩ fuller] onFiles_save_siblings)).move
    (move_write _ .all [.over .all] [] save_both)).move (move_finish _ filedBoth [.over .all])).move
    (move_finish _ filedBoth []), ?_, ?_⟩
  · intro m hm
    simp only [List.mem_append, List.mem_singleton, or_assoc] at hm
    rcases hm with hm | rfl | rfl | rfl | rfl
    · exact hgood m hm
    · exact ⟨⟨rfl, hfirst⟩, by simp [Orderly]⟩
    · refine ⟨⟨rfl, hsecond⟩, ?_⟩
      simp [Orderly, Pass.over, Pass.tablesOf]
    · exact ⟨trivial, by simp [Orderly]⟩
    · exact ⟨trivial, by simp [Orderly]⟩
  · simp only [List.append_assoc, ledgerOf_append, hledger]
    rfl

/-- So both documents are in the file. -/
theorem latest_filed_both : ∃ past x, Reached onFiles siblings past x ∧
    (∀ m ∈ past, m.2.IsFine onFiles fun q => q = ⟨"/p"⟩) ∧ (∀ m ∈ past, Orderly m.1 m.2) ∧
    x.passes = [] ∧ x.store.isDirty ⟨"/p"⟩ = false ∧
    (ledgerOf ⟨"/p"⟩ past).latest? "b.py" = some ⟨7, Table.plain⟩ ∧
    (onFiles.load x.disk ⟨"/p"⟩).find? "b.py" = some ⟨7, Table.plain⟩ := by
  rcases reached_in_order with ⟨past, hreached, hgood, hlatest⟩
  have hfine := fun m hm => (hgood m hm).1
  have horderly := fun m hm => (hgood m hm).2
  exact ⟨past, _, hreached, hfine, horderly, rfl, rfl, hlatest,
    hreached.latest_filed hfine horderly rfl rfl rfl hlatest⟩

/-- Where the older one writes last, every write succeeds and is read back, and the document that
was stored between the passes is in memory only, without a mark. -/
theorem reached_stale : ∃ past x, Reached onFiles siblings past x ∧
    (∀ m ∈ past, m.2.IsFine onFiles fun q => q = ⟨"/p"⟩) ∧
    x.passes = [] ∧ x.store.isDirty ⟨"/p"⟩ = false ∧
    (ledgerOf ⟨"/p"⟩ past).latest? "b.py" = some ⟨7, Table.plain⟩ ∧
    (onFiles.load x.disk ⟨"/p"⟩).find? "b.py" = none := by
  rcases reached_both with ⟨past, hboth, hgood, hledger⟩
  have hfirst := Write.exact_onFiles stored_fuller isKept_fuller save_fuller
  have hsecond := Write.exact_onFiles Table.stored_plain Table.isKept_plain save_back
  refine ⟨_, _, (((hboth.move (move_write _ .all [.one .all ⟨"/p"⟩ sample] [] save_fuller)).move
    (move_write _ .all [] [.over .all] save_back)).move (move_finish _ filedBack [.over .all])).move
    (move_finish _ filedBack []), ?_, rfl, rfl, ?_, ?_⟩
  · intro m hm
    simp only [List.mem_append, List.mem_singleton, or_assoc] at hm
    rcases hm with hm | rfl | rfl | rfl | rfl
    · exact (hgood m hm).1
    · exact ⟨rfl, hfirst⟩
    · exact ⟨rfl, hsecond⟩
    · trivial
    · trivial
  · simp only [List.append_assoc, ledgerOf_append, hledger]
    rfl
  -- The older snapshot was written last, and it is what the file holds.
  · have hload : onFiles.load filedBack ⟨"/p"⟩ = sample :=
      hsecond.readBack rfl ⟨"/p"⟩ rfl (Path.same_refl _)
    rw [hload]
    rfl

/-- Where a document is stored between the write and the end of an eviction, it is in no table at
all. -/
theorem reached_forgotten : ∃ past x, Reached onFiles siblings past x ∧
    (∀ m ∈ past, m.2.IsFine onFiles fun q => q = ⟨"/p"⟩) ∧
    x.passes = [] ∧ x.store.slot? ⟨"/p"⟩ = none ∧
    (ledgerOf ⟨"/p"⟩ past).latest? "b.py" = some ⟨7, Table.plain⟩ ∧
    (onFiles.load x.disk ⟨"/p"⟩).find? "b.py" = none := by
  have hwrite := Write.exact_onFiles Table.stored_plain Table.isKept_plain onFiles_save_siblings
  have htake : Move onFiles ⟨alone sample true, siblings, []⟩ (.took (.eviction ⟨"/p"⟩))
      ⟨alone sample false, siblings, [.one (.eviction ⟨"/p"⟩) ⟨"/p"⟩ sample]⟩ :=
    .take ⟨alone sample true, siblings, []⟩ (.eviction ⟨"/p"⟩)
  -- The document comes after the snapshot was taken and written, and before the slot goes.
  have hput : Move onFiles ⟨alone sample false, filed, [.over (.eviction ⟨"/p"⟩)]⟩
      (.stored ⟨"/p"⟩ "b.py" ⟨7, Table.plain⟩)
      ⟨alone fuller true, filed, [.over (.eviction ⟨"/p"⟩)]⟩ :=
    move_put sample false filed [.over (.eviction ⟨"/p"⟩)] "b.py"
  have hforget : Move onFiles ⟨alone fuller true, filed, [.over (.eviction ⟨"/p"⟩)]⟩
      (.finished (some ⟨"/p"⟩)) ⟨(alone fuller true).drop ⟨"/p"⟩, filed, []⟩ :=
    .finish (alone fuller true) filed [] [] (some ⟨"/p"⟩)
  refine ⟨_, _, ((((Reached.start.move move_first).move htake).move
    (move_write _ (.eviction ⟨"/p"⟩) [] [] onFiles_save_siblings)).move hput).move hforget,
    ?_, rfl, ?_, ?_, ?_⟩
  · intro m hm
    simp only [List.nil_append, List.cons_append, List.mem_cons, List.not_mem_nil, or_false] at hm
    rcases hm with rfl | rfl | rfl | rfl | rfl
    · rfl
    · trivial
    · exact ⟨rfl, hwrite⟩
    · rfl
    · trivial
  · rw [Store.slot?_drop, if_pos (Path.same_refl _)]
  · simp [ledgerOf, Deed.storedIn, Path.same_refl, Ledger.latest?, Keyed.get?]
  · rw [load_filed]
    rfl

/-! ## One folder under two names -/

/-- Another name of `p`, with its table and that of `p` in memory. -/
def nickname : Path := ⟨"/q/../p"⟩

def both (other : Table) (marked : Bool) (table : Table) (dirty : Bool) : Store :=
  ⟨[⟨nickname, other, marked⟩, ⟨⟨"/p"⟩, table, dirty⟩]⟩

def nicknamed : Table := Table.empty.insert "b.py" 7 Table.plain

theorem stored_nicknamed : Table.Stored nicknamed := by
  have hkey : ProjectFiles.cacheKey? ⟨"/p"⟩ (Path.joinText ⟨"/p"⟩ "b.py") = some "b.py" := by decide
  exact Table.Stored.empty.insert (Table.storable_plain hkey)

def filedNicknamed : FileTree := ((nicknamed.save (fileOf nickname)).on filed).2

theorem save_nicknamed : onFiles.save filed nickname nicknamed = (true, filedNicknamed) := rfl

theorem nickname_apart : nickname.same ⟨"/p"⟩ = false := by decide

theorem apart_nickname : Path.same ⟨"/p"⟩ nickname = false := by decide

/-- The folder is opened under its other name. -/
theorem move_nickname : Move onFiles ⟨.empty, siblings, []⟩ (.opened nickname)
    ⟨⟨[⟨nickname, Table.empty, false⟩]⟩, siblings, []⟩ := by
  have hnowhere : siblings.location? (fileOf nickname) = none := by decide +kernel
  have hload : onFiles.load siblings nickname = Table.empty := by
    rw [onFiles_load, Table.load_of_location?_eq_none hnowhere]
  have hopened : (Store.empty.lookup onFiles siblings nickname "b.py" 7).2 =
      ⟨[⟨nickname, Table.empty, false⟩]⟩ := by
    simp [Store.lookup, Store.open?, Store.slot?, Store.empty, hload]
  rw [← hopened]
  exact .lookup ⟨.empty, siblings, []⟩ nickname "b.py" 7

/-- A document is stored under the first name. -/
theorem move_put_beside : Move onFiles ⟨⟨[⟨nickname, Table.empty, false⟩]⟩, siblings, []⟩
    (.stored ⟨"/p"⟩ "a.py" ⟨7, Table.plain⟩)
    ⟨both Table.empty false sample true, siblings, []⟩ := by
  have hstored : Store.put onFiles ⟨[⟨nickname, Table.empty, false⟩]⟩ siblings ⟨"/p"⟩ "a.py" 7
      Table.plain = both Table.empty false sample true := by
    simp [both, Store.put, Store.open?, Store.slot?, Store.modify, nickname_apart, load_siblings,
      Path.same_refl, sample]
  rw [← hstored]
  exact .put ⟨⟨[⟨nickname, Table.empty, false⟩]⟩, siblings, []⟩ ⟨"/p"⟩ "a.py" 7 Table.plain

/-- Another one is stored under the other name. -/
theorem move_put_nickname : Move onFiles ⟨both Table.empty false sample false, filed, []⟩
    (.stored nickname "b.py" ⟨7, Table.plain⟩) ⟨both nicknamed true sample false, filed, []⟩ := by
  have hstored : (both Table.empty false sample false).put onFiles filed nickname "b.py" 7
      Table.plain = both nicknamed true sample false := by
    simp [both, Store.put, Store.open?, Store.slot?, Store.modify, apart_nickname, Path.same_refl,
      nicknamed]
  rw [← hstored]
  exact .put ⟨both Table.empty false sample false, filed, []⟩ nickname "b.py" 7 Table.plain

/-- Both names lead to one file. -/
theorem load_filedNicknamed (h : onFiles.load filedNicknamed nickname = nicknamed) :
    onFiles.load filedNicknamed ⟨"/p"⟩ = nicknamed := by
  have hhere : filedNicknamed.location? (fileOf ⟨"/p"⟩) =
      some ["p", ".vscode", "python.cache"] := by decide +kernel
  have hthere : filedNicknamed.location? (fileOf nickname) =
      some ["p", ".vscode", "python.cache"] := by decide +kernel
  rw [onFiles_load, Table.load_congr hhere hthere, ← onFiles_load]
  exact h

/-- Passes that do not overlap at all lose a document where a folder has two names: each name has
its own table, and both are written to one file. -/
theorem reached_respelled : ∃ past x, Reached onFiles siblings past x ∧
    (∀ m ∈ past, Orderly m.1 m.2) ∧
    (∀ m ∈ past, ∀ older w, m.2 = .wrote older w →
      w.written = true ∧ onFiles.load w.after w.root = w.table) ∧
    x.passes = [] ∧ x.store.isDirty ⟨"/p"⟩ = false ∧
    (ledgerOf ⟨"/p"⟩ past).latest? "a.py" = some ⟨7, Table.plain⟩ ∧
    (onFiles.load x.disk ⟨"/p"⟩).find? "a.py" = none := by
  have hfirst := Write.exact_onFiles Table.stored_plain Table.isKept_plain onFiles_save_siblings
  have hsecond := Write.exact_onFiles stored_nicknamed (by decide +kernel) save_nicknamed
  have htake : Move onFiles ⟨both Table.empty false sample true, siblings, []⟩ (.took .all)
      ⟨both Table.empty false sample false, siblings, [.one .all ⟨"/p"⟩ sample]⟩ :=
    .take ⟨both Table.empty false sample true, siblings, []⟩ .all
  have htake' : Move onFiles ⟨both nicknamed true sample false, filed, []⟩ (.took .all)
      ⟨both nicknamed false sample false, filed, [.one .all nickname nicknamed]⟩ :=
    .take ⟨both nicknamed true sample false, filed, []⟩ .all
  -- One pass writes under the first name and is over before the other begins.
  refine ⟨_, _, ((((((((Reached.start.move move_nickname).move move_put_beside).move htake).move
    (move_write _ .all [] [] onFiles_save_siblings)).move (move_finish _ filed [])).move
    move_put_nickname).move htake').move (move_write _ .all [] [] save_nicknamed)).move
    (move_finish _ filedNicknamed []), ?_, ?_, rfl, ?_, ?_, ?_⟩
  · simp [Orderly]
  · intro m hm older w hwrote
    simp only [List.nil_append, List.cons_append, List.mem_cons, List.not_mem_nil, or_false] at hm
    rcases hm with rfl | rfl | rfl | rfl | rfl | rfl | rfl | rfl | rfl <;> cases hwrote
    · exact ⟨rfl, hfirst.readBack rfl _ rfl (Path.same_refl _)⟩
    · exact ⟨rfl, hsecond.readBack rfl _ rfl (Path.same_refl _)⟩
  · simp [both, Store.isDirty, Store.slot?, nickname_apart, Path.same_refl]
  · simp [ledgerOf, Deed.storedIn, nickname_apart, Path.same_refl, Ledger.latest?, Keyed.get?]
  · rw [load_filedNicknamed (hsecond.readBack rfl _ rfl (Path.same_refl _))]
    rfl

end Cache
end Testbench
