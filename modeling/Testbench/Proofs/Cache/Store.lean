import Testbench.Cache.Store

/-!
# Store — what each operation does to the slot of a folder

A store is used as a partial function from folders to slots. Every operation is described by what it
does to the slot of an arbitrary folder, and a flush besides by the writes it makes.

- `Store.IsProper`   : each folder has one slot at most;
- `slot?_open?`, `slot?_modify`, `slot?_drop`, `slot?_takeDirty` : the parts of an operation;
- `Write`, `writeLog` : the writes of a flush, in order;
- `slot?_flush`, `count_flush`, `disk_flush` : a whole flush.
-/

namespace Testbench

theorem Path.same_iff {p q : Path} : p.same q = true ↔ p.components = q.components := by
  simp [Path.same]

theorem Path.same_refl (p : Path) : p.same p = true := Path.same_iff.2 rfl

theorem Path.same_symm {p q : Path} (h : p.same q = true) : q.same p = true :=
  Path.same_iff.2 (Path.same_iff.1 h).symm

theorem Path.same_comm (p q : Path) : p.same q = q.same p := by
  simp only [Path.same, Bool.beq_comm]

theorem Path.same_trans {p q r : Path} (h : p.same q = true) (h' : q.same r = true) :
    p.same r = true :=
  Path.same_iff.2 ((Path.same_iff.1 h).trans (Path.same_iff.1 h'))

/-- Two spellings of one folder are the same as the same paths. -/
theorem Path.same_congr {p q : Path} (h : p.same q = true) (r : Path) : p.same r = q.same r := by
  simp only [Path.same, Path.same_iff.1 h]

theorem Path.same_congr_right {p q : Path} (h : p.same q = true) (r : Path) :
    r.same p = r.same q := by
  rw [Path.same_comm r p, Path.same_comm r q, Path.same_congr h]

namespace Cache

/-- A write of a table, with the disk before and after. -/
structure Write (δ : Type) where
  before : δ
  root : Path
  table : Table
  written : Bool
  after : δ

namespace Store

variable {δ : Type}

/-- Each folder has one slot at most. -/
def IsProper (s : Store) : Prop :=
  s.slots.Pairwise fun a b => a.root.same b.root = false

/-! ## The slot of a folder -/

theorem root_of_slot? {s : Store} {r : Path} {slot : Slot} (h : s.slot? r = some slot) :
    slot.root.same r = true := by
  simpa using List.find?_some h

theorem mem_of_slot? {s : Store} {r : Path} {slot : Slot} (h : s.slot? r = some slot) :
    slot ∈ s.slots :=
  List.mem_of_find?_eq_some h

theorem slot?_of_mem {s : Store} (hs : s.IsProper) {slot : Slot} (h : slot ∈ s.slots) {r : Path}
    (hr : slot.root.same r = true) : s.slot? r = some slot := by
  rcases s with ⟨slots⟩
  simp only [IsProper, slot?] at hs h ⊢
  induction slots with
  | nil => simp at h
  | cons other rest ih =>
      rcases List.pairwise_cons.1 hs with ⟨hother, hrest⟩
      rcases List.mem_cons.1 h with rfl | hmem
      · simp [hr]
      · have hne : other.root.same r = false := by
          rw [← hother slot hmem]
          simp only [Path.same, Path.same_iff.1 hr]
        simp only [List.find?_cons, hne]
        exact ih hrest hmem

/-- Slots of folders that are the same are one slot. -/
theorem slot?_congr (s : Store) {p q : Path} (h : p.same q = true) : s.slot? p = s.slot? q := by
  simp only [slot?, Path.same, Path.same_iff.1 h]

theorem slot?_append (a b : List Slot) (r : Path) :
    (⟨a ++ b⟩ : Store).slot? r = ((⟨a⟩ : Store).slot? r).or ((⟨b⟩ : Store).slot? r) := by
  simp [slot?, List.find?_append]

theorem slot?_map (slots : List Slot) {f : Slot → Slot} (hf : ∀ slot, (f slot).root = slot.root)
    (r : Path) : (⟨slots.map f⟩ : Store).slot? r = ((⟨slots⟩ : Store).slot? r).map f := by
  simp only [slot?, List.find?_map, Function.comp_def, hf]

theorem IsProper.map {s : Store} (hs : s.IsProper) {f : Slot → Slot}
    (hf : ∀ slot, (f slot).root = slot.root) : IsProper ⟨s.slots.map f⟩ := by
  refine List.pairwise_map.2 (hs.imp ?_)
  intro a b h
  simpa only [hf] using h

/-! ## Opening -/

/-- The slot that a folder has once it is opened. -/
def opened (v : Vault δ) (s : Store) (d : δ) (root : Path) : Slot :=
  (s.slot? root).getD ⟨root, v.load d root, false⟩

theorem slot?_open? (v : Vault δ) (s : Store) (d : δ) (root r : Path) :
    (s.open? v d root).slot? r =
      if root.same r then some (s.opened v d root) else s.slot? r := by
  cases h : s.slot? root with
  | some slot =>
      by_cases hr : root.same r = true
      · rw [open?, h, if_pos hr, ← slot?_congr s hr, h, opened, h, Option.getD_some]
      · rw [open?, h, if_neg hr]
  | none =>
      have hnew : (s.open? v d root) = ⟨s.slots ++ [⟨root, v.load d root, false⟩]⟩ := by
        rw [open?, h]
      rw [hnew, slot?_append]
      by_cases hr : root.same r = true
      · have hold : s.slot? r = none := by rw [← slot?_congr s hr, h]
        have hlast : (⟨[⟨root, v.load d root, false⟩]⟩ : Store).slot? r =
            some ⟨root, v.load d root, false⟩ := by simp [slot?, hr]
        rw [if_pos hr, hlast, opened, h, Option.getD_none]
        simp only [hold, Option.none_or]
      · have hlast : (⟨[⟨root, v.load d root, false⟩]⟩ : Store).slot? r = none := by
          simp [slot?, hr]
        rw [if_neg hr, hlast, Option.or_none]

theorem IsProper.open? {s : Store} (hs : s.IsProper) (v : Vault δ) (d : δ) (root : Path) :
    (s.open? v d root).IsProper := by
  cases h : s.slot? root with
  | some slot => rwa [Store.open?, h]
  | none =>
      rw [Store.open?, h]
      refine List.pairwise_append.2 ⟨hs, List.pairwise_singleton _ _, ?_⟩
      intro slot hslot new hnew
      rw [List.mem_singleton.1 hnew]
      have hall := List.find?_eq_none.1 h slot hslot
      simpa using hall

/-- What is in memory once a folder is opened was there before, or was loaded. -/
theorem mem_open? {v : Vault δ} {s : Store} {d : δ} {root : Path} {slot : Slot}
    (h : slot ∈ (s.open? v d root).slots) :
    slot ∈ s.slots ∨ slot = ⟨root, v.load d root, false⟩ := by
  cases hfound : s.slot? root with
  | some old =>
      rw [open?, hfound] at h
      exact Or.inl h
  | none =>
      rw [open?, hfound] at h
      rcases List.mem_append.1 h with hold | hnew
      · exact Or.inl hold
      · exact Or.inr (List.mem_singleton.1 hnew)

/-- What is loaded is all that matters of the disk. -/
theorem open?_congr {v : Vault δ} (s : Store) {d d' : δ} {root : Path}
    (h : v.load d root = v.load d' root) : s.open? v d root = s.open? v d' root := by
  rw [open?, open?, h]

/-- A folder that is in memory is not loaded again. -/
theorem open?_of_slot? {v : Vault δ} {s : Store} {d : δ} {root : Path} {slot : Slot}
    (h : s.slot? root = some slot) : s.open? v d root = s := by
  rw [open?, h]

theorem open?_open? (v : Vault δ) (s : Store) (d d' : δ) (root : Path) :
    (s.open? v d root).open? v d' root = s.open? v d root := by
  have hslot := slot?_open? v s d root root
  rw [if_pos (Path.same_refl root)] at hslot
  exact open?_of_slot? hslot

/-! ## Changing and dropping -/

theorem slot?_modify (s : Store) (root : Path) {f : Slot → Slot}
    (hf : ∀ slot, (f slot).root = slot.root) (r : Path) :
    (s.modify root f).slot? r =
      if root.same r then (s.slot? r).map f else s.slot? r := by
  have hkeep : ∀ slot : Slot, (if slot.root.same root then f slot else slot).root = slot.root := by
    intro slot
    by_cases h : slot.root.same root = true
    · rw [if_pos h, hf]
    · rw [if_neg h]
  rw [modify, slot?_map s.slots hkeep]
  cases h : s.slot? r with
  | none => simp
  | some slot =>
      have hslot : slot.root.same root = root.same r := by
        rw [Path.same_congr (root_of_slot? h)]
        simp only [Path.same, Bool.beq_comm]
      rw [Option.map_some, Option.map_some, hslot]
      by_cases hr : root.same r = true
      · rw [if_pos hr, if_pos hr]
      · rw [if_neg hr, if_neg hr]

theorem IsProper.modify {s : Store} (hs : s.IsProper) (root : Path) {f : Slot → Slot}
    (hf : ∀ slot, (f slot).root = slot.root) : (s.modify root f).IsProper := by
  refine hs.map ?_
  intro slot
  by_cases h : slot.root.same root = true
  · rw [if_pos h, hf]
  · rw [if_neg h]

theorem slot?_drop (s : Store) (root r : Path) :
    (s.drop root).slot? r = if root.same r then none else s.slot? r := by
  by_cases hr : root.same r = true
  · rw [if_pos hr, slot?, List.find?_eq_none]
    intro slot hslot hsame
    rcases List.mem_filter.1 hslot with ⟨_, hother⟩
    have hroot : slot.root.same root = true := Path.same_trans hsame (Path.same_symm hr)
    simp [hroot] at hother
  · rw [if_neg hr]
    simp only [slot?, drop, List.find?_filter]
    congr 1
    funext slot
    by_cases hsame : slot.root.same r = true
    -- A slot of the folder that is looked for is none of the dropped folder.
    · have hne : slot.root.same root = false := by
        refine Bool.eq_false_iff.2 fun hroot => hr ?_
        exact Path.same_trans (Path.same_symm hroot) hsame
      simp [hsame, hne]
    · simp [hsame]

theorem IsProper.drop {s : Store} (hs : s.IsProper) (root : Path) : (s.drop root).IsProper :=
  hs.filter _

/-! ## What is found in a folder -/

/-- Opening a folder does not change what a folder has once it is opened. -/
theorem opened_open? (v : Vault δ) (s : Store) (d : δ) {root r : Path}
    (hr : root.same r = true → root = r) :
    (s.open? v d root).opened v d r = s.opened v d r := by
  by_cases hsame : root.same r = true
  · rw [← hr hsame, opened, slot?_open?, if_pos (Path.same_refl root), Option.getD_some]
  · rw [opened, slot?_open?, if_neg hsame, opened]

/-- The slot of a folder once a document is put there. -/
theorem slot?_put (v : Vault δ) (s : Store) (d : δ) (root : Path) (key : String) (modified : Nat)
    (document : Outline.Document) (r : Path) :
    (s.put v d root key modified document).slot? r =
      if root.same r then
        some { s.opened v d root with
          table := (s.opened v d root).table.insert key modified document, dirty := true }
      else s.slot? r := by
  have hslot := slot?_modify (s.open? v d root) root
    (f := fun slot => { slot with table := slot.table.insert key modified document, dirty := true })
    (fun _ => rfl) r
  rw [put, hslot, slot?_open?]
  by_cases hsame : root.same r = true
  · rw [if_pos hsame, if_pos hsame, if_pos hsame, Option.map_some]
  · rw [if_neg hsame, if_neg hsame, if_neg hsame]

/-- A document that is put goes into the table of its folder, and into no other. -/
theorem table_opened_put (v : Vault δ) (s : Store) (d : δ) {root r : Path} (key : String)
    (modified : Nat) (document : Outline.Document) (hr : root.same r = true → root = r) :
    ((s.put v d root key modified document).opened v d r).table =
      if root.same r then (s.opened v d r).table.insert key modified document
      else (s.opened v d r).table := by
  rw [opened, slot?_put]
  by_cases hsame : root.same r = true
  · rw [if_pos hsame, if_pos hsame, Option.getD_some, hr hsame]
  · rw [if_neg hsame, if_neg hsame, opened]

/-- A folder that was opened before a document is put there need not be opened again. -/
theorem put_open? (v : Vault δ) (s : Store) (d d' : δ) (root : Path) (key : String)
    (modified : Nat) (document : Outline.Document) :
    (s.open? v d root).put v d' root key modified document =
      s.put v d root key modified document := by
  rw [put, open?_open?, put]

theorem open?_put (v : Vault δ) (s : Store) (d d' : δ) (root : Path) (key : String)
    (modified : Nat) (document : Outline.Document) :
    (s.put v d root key modified document).open? v d' root =
      s.put v d root key modified document := by
  have hslot := slot?_put v s d root key modified document root
  rw [if_pos (Path.same_refl root)] at hslot
  exact open?_of_slot? hslot

theorem lookup_eq (v : Vault δ) (s : Store) (d : δ) (root : Path) (key : String) (modified : Nat) :
    (s.lookup v d root key modified).1 = (s.opened v d root).table.get? key modified := by
  have hslot := slot?_open? v s d root root
  rw [if_pos (Path.same_refl root)] at hslot
  rw [lookup, hslot]
  rfl

/-- What cannot be in memory is loaded. -/
theorem opened_empty (v : Vault δ) (d : δ) (root : Path) :
    ((empty.opened v d root).table) = v.load d root := rfl

/-! ## The writes of a flush -/

/-- The writes of some tables, in order. -/
def writeLog (v : Vault δ) (d : δ) : List Snapshot → List (Write δ)
  | [] => []
  | (root, table) :: rest =>
    let (written, after) := v.save d root table
    ⟨d, root, table, written, after⟩ :: writeLog v after rest

/-- The writes of a flush. -/
def writes (v : Vault δ) (s : Store) (d : δ) (chosen : Path → Bool) : List (Write δ) :=
  writeLog v d (s.takeDirty chosen).1

/-- The disk after some writes. -/
def diskAfter (d : δ) : List (Write δ) → δ
  | [] => d
  | w :: rest => diskAfter w.after rest

/-- Whether the write of a folder failed. -/
def failed (log : List (Write δ)) (r : Path) : Bool :=
  log.any fun w => !w.written && w.root.same r

theorem map_writeLog (v : Vault δ) (d : δ) (snapshots : List Snapshot) :
    (writeLog v d snapshots).map (fun w => (w.root, w.table)) = snapshots := by
  induction snapshots generalizing d with
  | nil => rfl
  | cons snapshot rest ih => simp only [writeLog, List.map_cons, ih]

/-- What every write of a row preserves holds of the disk after them all. -/
theorem diskAfter_induction {v : Vault δ} {P : δ → Prop} {d : δ} {snapshots : List Snapshot}
    (h : P d) (hstep : ∀ w ∈ writeLog v d snapshots, P w.before → P w.after) :
    P (diskAfter d (writeLog v d snapshots)) := by
  induction snapshots generalizing d with
  | nil => exact h
  | cons snapshot rest ih =>
      rcases List.forall_mem_cons.1 hstep with ⟨hfirst, hrest⟩
      exact ih (hfirst h) hrest

theorem writeOut_eq (v : Vault δ) (s : Store) (d : δ) (snapshots : List Snapshot) :
    (s.writeOut v d snapshots).1 = (writeLog v d snapshots).countP (·.written) ∧
    (s.writeOut v d snapshots).2.2 = diskAfter d (writeLog v d snapshots) := by
  induction snapshots generalizing s d with
  | nil => exact ⟨rfl, rfl⟩
  | cons snapshot rest ih =>
      rcases hsave : v.save d snapshot.1 snapshot.2 with ⟨written, after⟩
      cases written with
      | true =>
          have hrest := ih s after
          simp only [writeOut, writeOne, writeLog, hsave, if_true, List.countP_cons, diskAfter,
            hrest.1, hrest.2, and_true]
          omega
      | false =>
          have hrest := ih (s.modify snapshot.1 fun slot => { slot with dirty := true }) after
          simp [writeOut, writeOne, writeLog, hsave, diskAfter, hrest.1, hrest.2]

theorem slot?_writeOut (v : Vault δ) (s : Store) (d : δ) (snapshots : List Snapshot) (r : Path) :
    (s.writeOut v d snapshots).2.1.slot? r = (s.slot? r).map fun slot =>
      if failed (writeLog v d snapshots) r then { slot with dirty := true } else slot := by
  induction snapshots generalizing s d with
  | nil => simp [writeOut, writeLog, failed]
  | cons snapshot rest ih =>
      rcases hsave : v.save d snapshot.1 snapshot.2 with ⟨written, after⟩
      cases written with
      | true =>
          have hrest := ih s after
          simpa [writeOut, writeOne, writeLog, hsave, failed] using hrest
      -- The mark of a write that failed stays, whatever comes of the later ones.
      | false =>
          have hrest := ih (s.modify snapshot.1 fun slot => { slot with dirty := true }) after
          have hmarked := slot?_modify s snapshot.1
            (f := fun slot => { slot with dirty := true }) (fun _ => rfl) r
          rw [hmarked] at hrest
          simp only [writeOut, writeOne, writeLog, hsave, Bool.false_eq_true, if_false, hrest]
          by_cases hr : snapshot.1.same r = true
          · cases s.slot? r <;> simp [failed, hr]
          · simp [failed, hr]

theorem IsProper.writeOut {s : Store} (hs : s.IsProper) (v : Vault δ) (d : δ)
    (snapshots : List Snapshot) : (s.writeOut v d snapshots).2.1.IsProper := by
  induction snapshots generalizing s d with
  | nil => exact hs
  | cons snapshot rest ih =>
      rcases hsave : v.save d snapshot.1 snapshot.2 with ⟨written, after⟩
      cases written with
      | true => simpa only [Store.writeOut, writeOne, hsave, if_true] using ih hs after
      | false =>
          have hmarked : (s.modify snapshot.1 fun slot => { slot with dirty := true }).IsProper :=
            hs.modify _ fun _ => rfl
          simpa only [Store.writeOut, writeOne, hsave, Bool.false_eq_true, if_false] using
            ih hmarked after

/-! ## Taking what is dirty -/

theorem mem_takeDirty {s : Store} {chosen : Path → Bool} {snapshot : Snapshot} :
    snapshot ∈ (s.takeDirty chosen).1 ↔ ∃ slot ∈ s.slots, slot.dirty = true ∧
      chosen slot.root = true ∧ (slot.root, slot.table) = snapshot := by
  simp only [takeDirty, List.mem_map, List.mem_filter, Bool.and_eq_true, and_assoc]

theorem root_ite_dirty (slot : Slot) (b : Bool) :
    (if b then { slot with dirty := false } else slot : Slot).root = slot.root := by
  cases b <;> rfl

theorem slot?_takeDirty (s : Store) (chosen : Path → Bool) (r : Path) :
    (s.takeDirty chosen).2.slot? r = (s.slot? r).map fun slot =>
      if slot.dirty && chosen slot.root then { slot with dirty := false } else slot :=
  slot?_map s.slots (fun slot => root_ite_dirty slot _) r

theorem IsProper.takeDirty {s : Store} (hs : s.IsProper) (chosen : Path → Bool) :
    (s.takeDirty chosen).2.IsProper :=
  hs.map fun slot => root_ite_dirty slot _

/-- What a flush writes are the tables of the dirty folders it was asked for. -/
theorem exists_of_mem_writes {v : Vault δ} {s : Store} {d : δ} {chosen : Path → Bool}
    {w : Write δ} (h : w ∈ s.writes v d chosen) :
    ∃ slot ∈ s.slots, slot.dirty = true ∧ chosen slot.root = true ∧ slot.root = w.root ∧
      slot.table = w.table := by
  have hmap : (w.root, w.table) ∈ (s.takeDirty chosen).1 := by
    rw [← map_writeLog v d (s.takeDirty chosen).1]
    exact List.mem_map_of_mem h
  rcases mem_takeDirty.1 hmap with ⟨slot, hslot, hdirty, hchosen, heq⟩
  exact ⟨slot, hslot, hdirty, hchosen, congrArg Prod.fst heq, congrArg Prod.snd heq⟩

/-- Every such table is written. -/
theorem exists_mem_writes {v : Vault δ} {s : Store} (d : δ) {chosen : Path → Bool} {slot : Slot}
    (hslot : slot ∈ s.slots) (hdirty : slot.dirty = true) (hchosen : chosen slot.root = true) :
    ∃ w ∈ s.writes v d chosen, w.root = slot.root ∧ w.table = slot.table := by
  have hmem : (slot.root, slot.table) ∈ (s.takeDirty chosen).1 :=
    mem_takeDirty.2 ⟨slot, hslot, hdirty, hchosen, rfl⟩
  rw [← map_writeLog v d (s.takeDirty chosen).1] at hmem
  rcases List.mem_map.1 hmem with ⟨w, hw, heq⟩
  exact ⟨w, hw, congrArg Prod.fst heq, congrArg Prod.snd heq⟩

/-- A folder in memory that is written was dirty and asked for. -/
theorem same_of_mem_writes {v : Vault δ} {s : Store} (hs : s.IsProper) {d : δ}
    {chosen : Path → Bool} {slot : Slot} (hslot : slot ∈ s.slots) {w : Write δ}
    (hw : w ∈ s.writes v d chosen) (hsame : w.root.same slot.root = true) :
    (slot.dirty && chosen slot.root) = true := by
  rcases exists_of_mem_writes hw with ⟨other, hother, hdirty, hchosen, hroot, _⟩
  have heq : slot = other := by
    have hfound := slot?_of_mem hs hother (r := slot.root) (by rw [hroot]; exact hsame)
    exact Option.some.inj ((slot?_of_mem hs hslot (Path.same_refl _)).symm.trans hfound)
  rw [heq, hdirty, hchosen]
  rfl

/-- No folder is written twice. -/
theorem writes_pairwise {s : Store} (hs : s.IsProper) (v : Vault δ) (d : δ) (chosen : Path → Bool) :
    (s.writes v d chosen).Pairwise fun a b => a.root.same b.root = false := by
  have hsnapshots : (s.takeDirty chosen).1.Pairwise fun a b => a.1.same b.1 = false :=
    List.pairwise_map.2 (hs.filter _)
  rw [← map_writeLog v d (s.takeDirty chosen).1] at hsnapshots
  exact List.pairwise_map.1 hsnapshots

theorem eq_of_mem_writes {v : Vault δ} {s : Store} (hs : s.IsProper) {d : δ}
    {chosen : Path → Bool} {w w' : Write δ} (hw : w ∈ s.writes v d chosen)
    (hw' : w' ∈ s.writes v d chosen) (hsame : w.root.same w'.root = true) : w = w' := by
  have hpairs := writes_pairwise hs v d chosen
  have hone := List.Pairwise.forall_of_forall_of_flip
    (R := fun a b : Write δ => a.root.same b.root = true → a = b) (l := s.writes v d chosen)
    (fun _ _ _ => rfl)
    (hpairs.imp fun {a b} hapart h => absurd h (Bool.eq_false_iff.1 hapart))
    (hpairs.imp fun {a b} hapart h =>
      absurd (Path.same_symm h) (Bool.eq_false_iff.1 hapart))
  exact hone hw hw' hsame

/-! ## Whole flushes -/

theorem slot?_flush {s : Store} (hs : s.IsProper) (v : Vault δ) (d : δ) (chosen : Path → Bool)
    (r : Path) : (s.flush v d chosen).2.1.slot? r = (s.slot? r).map fun slot =>
      if slot.dirty && chosen slot.root then
        { slot with dirty := failed (s.writes v d chosen) r }
      else slot := by
  have hflush : (s.flush v d chosen).2.1 =
      ((s.takeDirty chosen).2.writeOut v d (s.takeDirty chosen).1).2.1 := rfl
  rw [hflush, slot?_writeOut, slot?_takeDirty, Option.map_map]
  cases h : s.slot? r with
  | none => rfl
  | some slot =>
      simp only [Option.map_some, Function.comp_apply, writes]
      by_cases htaken : (slot.dirty && chosen slot.root) = true
      · rw [if_pos htaken, if_pos htaken]
        cases failed (writeLog v d (s.takeDirty chosen).1) r <;> rfl
      · -- A slot that is not taken is not written, so its write cannot fail.
        have hother := @same_of_mem_writes _ v s hs d chosen slot (mem_of_slot? h)
        have hfine : failed (writeLog v d (s.takeDirty chosen).1) r = false := by
          refine Bool.eq_false_iff.2 fun hfailed => htaken ?_
          rcases List.any_eq_true.1 hfailed with ⟨w, hw, hboth⟩
          have hsame : w.root.same slot.root = true :=
            Path.same_trans (Bool.and_eq_true_iff.1 hboth).2 (Path.same_symm (root_of_slot? h))
          exact hother hw hsame
        rw [if_neg htaken, if_neg htaken, hfine]
        rfl

theorem IsProper.flush {s : Store} (hs : s.IsProper) (v : Vault δ) (d : δ)
    (chosen : Path → Bool) : (s.flush v d chosen).2.1.IsProper :=
  (hs.takeDirty chosen).writeOut v d _

theorem mem_flush {s : Store} (hs : s.IsProper) {v : Vault δ} {d : δ} {chosen : Path → Bool}
    {slot : Slot} (h : slot ∈ (s.flush v d chosen).2.1.slots) :
    ∃ old ∈ s.slots, slot = if old.dirty && chosen old.root then
      { old with dirty := failed (s.writes v d chosen) old.root } else old := by
  have hfound := slot?_of_mem (hs.flush v d chosen) h (Path.same_refl slot.root)
  rw [slot?_flush hs] at hfound
  rcases Option.map_eq_some_iff.1 hfound with ⟨old, hold, heq⟩
  have hroot : old.root = slot.root := by
    rw [← heq]
    cases old.dirty && chosen old.root <;> rfl
  refine ⟨old, mem_of_slot? hold, ?_⟩
  rw [hroot]
  rw [hroot] at heq
  exact heq.symm

/-- Writing out leaves the tables in memory as they are. A write that fails only marks its table. -/
theorem exists_of_mem_writeOut {v : Vault δ} {s : Store} {d : δ} {snapshots : List Snapshot}
    {slot : Slot} (h : slot ∈ (s.writeOut v d snapshots).2.1.slots) :
    ∃ old ∈ s.slots, old.root = slot.root ∧ old.table = slot.table := by
  induction snapshots generalizing s d with
  | nil => exact ⟨slot, h, rfl, rfl⟩
  | cons snapshot rest ih =>
      rcases hsave : v.save d snapshot.1 snapshot.2 with ⟨written, after⟩
      cases written with
      | true =>
          simp only [writeOut, writeOne, hsave, if_true] at h
          exact ih h
      | false =>
          simp only [writeOut, writeOne, hsave, Bool.false_eq_true, if_false] at h
          rcases ih h with ⟨marked, hmarked, hroot, htable⟩
          rcases List.mem_map.1 hmarked with ⟨old, hold, rfl⟩
          refine ⟨old, hold, ?_, ?_⟩
          · rw [← hroot]
            split <;> rfl
          · rw [← htable]
            split <;> rfl

/-- A flush leaves the tables in memory as they are. -/
theorem exists_of_mem_flush {v : Vault δ} {s : Store} {d : δ} {chosen : Path → Bool} {slot : Slot}
    (h : slot ∈ (s.flush v d chosen).2.1.slots) :
    ∃ old ∈ s.slots, old.root = slot.root ∧ old.table = slot.table := by
  rcases exists_of_mem_writeOut h with ⟨taken, htaken, hroot, htable⟩
  rcases List.mem_map.1 htaken with ⟨old, hold, rfl⟩
  refine ⟨old, hold, ?_, ?_⟩
  · rw [← hroot]
    split <;> rfl
  · rw [← htable]
    split <;> rfl

/-- Where every write succeeds, a flush leaves no marks. -/
theorem clean_flush {v : Vault δ} {s : Store} (hs : s.IsProper) {d : δ} {chosen : Path → Bool}
    (hwritten : ∀ w ∈ s.writes v d chosen, w.written = true) {slot : Slot}
    (h : slot ∈ (s.flush v d chosen).2.1.slots) (hchosen : chosen slot.root = true) :
    slot.dirty = false := by
  rcases mem_flush hs h with ⟨old, _, hslot⟩
  by_cases htaken : (old.dirty && chosen old.root) = true
  · rw [if_pos htaken] at hslot
    rw [hslot, failed, List.any_eq_false]
    intro w hw hlost
    simp [hwritten w hw] at hlost
  · rw [if_neg htaken] at hslot
    rw [hslot] at hchosen ⊢
    simpa [hchosen] using htaken

theorem count_flush (v : Vault δ) (s : Store) (d : δ) (chosen : Path → Bool) :
    (s.flush v d chosen).1 = (s.writes v d chosen).countP (·.written) :=
  (writeOut_eq v (s.takeDirty chosen).2 d (s.takeDirty chosen).1).1

theorem disk_flush (v : Vault δ) (s : Store) (d : δ) (chosen : Path → Bool) :
    (s.flush v d chosen).2.2 = diskAfter d (s.writes v d chosen) :=
  (writeOut_eq v (s.takeDirty chosen).2 d (s.takeDirty chosen).1).2

end Store
end Cache
end Testbench
