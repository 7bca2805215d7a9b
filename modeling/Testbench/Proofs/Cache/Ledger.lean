import Testbench.Proofs.Cache.Store
import Testbench.Proofs.Cache.Table

/-!
# Ledger — what was stored in a folder, against the tables kept of it

A ledger lists what was stored in a folder, oldest first. A table kept of the folder is compared
with it: the table is an earlier one with a part of the ledger entered.

- `Ledger.latest?`  : what was stored last under a key;
- `Table.record`    : a table with a ledger entered;
- `Write.Exact`     : a write decides what is loaded for its own folder and for no other;
- `load_diskAfter_kept`, `load_diskAfter_written` : what is loaded after a row of exact writes;
- `Store.flush_cases` : what a flush does to one folder, with the write that it makes of it.
-/

namespace Testbench
namespace Cache

open Outline (Document)
open Store (Snapshot writes failed diskAfter writeLog)

variable {δ : Type}

/-! ## Ledgers -/

/-- What was stored in one folder under which keys, oldest first. -/
abbrev Ledger := List (String × Entry)

namespace Ledger

/-- The entry that was stored last under a key. -/
def latest? (puts : Ledger) (key : String) : Option Entry := Keyed.get? puts.reverse key

theorem latest?_append (puts more : Ledger) (key : String) :
    (puts ++ more).latest? key = (more.latest? key).or (puts.latest? key) := by
  rw [latest?, List.reverse_append, Keyed.get?_append]
  rfl

end Ledger

namespace Table

/-- A table with a ledger entered, entry after entry. -/
def record (table : Table) (puts : Ledger) : Table :=
  puts.foldl (fun t p => t.insert p.1 p.2.modified p.2.document) table

theorem record_append (table : Table) (puts more : Ledger) :
    table.record (puts ++ more) = (table.record puts).record more :=
  List.foldl_append

/-- In a table with a ledger entered the latest entry of a key is found. -/
theorem find?_record (table : Table) (puts : Ledger) (key : String) :
    (table.record puts).find? key = (puts.latest? key).or (table.find? key) := by
  induction puts generalizing table with
  | nil => rfl
  | cons p rest ih =>
      have hhead : Ledger.latest? [p] key = if p.1 = key then some p.2 else none := by
        simp [Ledger.latest?, Keyed.get?_cons]
      have hfirst := find?_insert table p.1 key p.2.modified p.2.document
      calc
        (table.record (p :: rest)).find? key
            = (Ledger.latest? rest key).or
                ((table.insert p.1 p.2.modified p.2.document).find? key) := ih _
        _ = (Ledger.latest? rest key).or ((Ledger.latest? [p] key).or (table.find? key)) := by
              -- The first entry is entered first, so a later one of its key wins.
              rw [hfirst, hhead]
              by_cases hkey : p.1 = key <;> simp [hkey]
        _ = (Ledger.latest? (p :: rest) key).or (table.find? key) := by
              have hsplit := Ledger.latest?_append [p] rest key
              rw [List.singleton_append] at hsplit
              rw [hsplit, Option.or_assoc]

/-- A document is found at a time exactly if it is the latest one and was stored with that time. -/
theorem get?_record_empty (puts : Ledger) (key : String) (modified : Nat) (document : Document) :
    (empty.record puts).get? key modified = some document ↔
      puts.latest? key = some ⟨modified, document⟩ := by
  have hnothing : empty.find? key = none := rfl
  have hfound : (empty.record puts).find? key = puts.latest? key := by
    rw [find?_record, hnothing, Option.or_none]
  rw [get?, hfound]
  cases puts.latest? key with
  | none => simp
  | some e =>
      rcases e with ⟨time, d⟩
      by_cases htime : time = modified <;> simp [htime]

end Table

/-! ## Exact writes -/

/-- A write decides what is loaded for its own folder, in every spelling of it that is in use, and
only if it succeeds. What is loaded for other folders stays. -/
structure Write.Exact (v : Vault δ) (roots : Path → Prop) (w : Write δ) : Prop where
  readBack : w.written = true → ∀ r, roots r → w.root.same r = true → v.load w.after r = w.table
  kept : ∀ r, roots r → (w.written = true → w.root.same r = false) →
    v.load w.after r = v.load w.before r

section

variable {v : Vault δ} {roots : Path → Prop} {r : Path}

/-- A row of writes leaves a folder alone of which none of them succeeds. -/
theorem load_diskAfter_kept (hr : roots r) {d : δ} {snapshots : List Snapshot} :
    (∀ w ∈ writeLog v d snapshots, w.Exact v roots) →
    (∀ w ∈ writeLog v d snapshots, w.written = true → w.root.same r = false) →
      v.load (diskAfter d (writeLog v d snapshots)) r = v.load d r := by
  induction snapshots generalizing d with
  | nil =>
      intro _ _
      rfl
  | cons snapshot rest ih =>
      intro hexact hother
      rcases List.forall_mem_cons.1 hexact with ⟨hfirst, hrest⟩
      rcases List.forall_mem_cons.1 hother with ⟨hnot, hothers⟩
      calc
        v.load (diskAfter d (writeLog v d (snapshot :: rest))) r
            = v.load (v.save d snapshot.1 snapshot.2).2 r := ih hrest hothers
        _ = v.load d r := hfirst.kept r hr hnot

/-- After a row of writes, no two of one folder, a folder that was written has what was written. -/
theorem load_diskAfter_written (hr : roots r) {d : δ} {snapshots : List Snapshot} {w : Write δ} :
    (∀ w ∈ writeLog v d snapshots, w.Exact v roots) →
    (writeLog v d snapshots).Pairwise (fun a b => a.root.same b.root = false) →
    w ∈ writeLog v d snapshots → w.written = true → w.root.same r = true →
      v.load (diskAfter d (writeLog v d snapshots)) r = w.table := by
  induction snapshots generalizing d with
  | nil =>
      intro _ _ hw
      simp [writeLog] at hw
  | cons snapshot rest ih =>
      intro hexact hapart hw hwritten hsame
      rcases List.forall_mem_cons.1 hexact with ⟨hfirst, hrest⟩
      rcases List.pairwise_cons.1 hapart with ⟨hne, hpairs⟩
      rcases List.mem_cons.1 hw with heq | hlater
      · -- The later writes are of other folders, so this one stays.
        rw [← heq] at hne
        have hothers : ∀ other ∈ writeLog v (v.save d snapshot.1 snapshot.2).2 rest,
            other.written = true → other.root.same r = false := by
          intro other hother _
          calc
            other.root.same r = other.root.same w.root := (Path.same_congr_right hsame _).symm
            _ = w.root.same other.root := Path.same_comm _ _
            _ = false := hne other hother
        have hkept := load_diskAfter_kept hr hrest hothers
        have hback := hfirst.readBack (heq ▸ hwritten) r hr (heq ▸ hsame)
        calc
          v.load (diskAfter d (writeLog v d (snapshot :: rest))) r
              = v.load (v.save d snapshot.1 snapshot.2).2 r := hkept
          _ = snapshot.2 := hback
          _ = w.table := by rw [heq]
      · exact ih hrest hpairs hlater hwritten hsame

end

/-- A file that takes a whole table is an exact write, as far as its folder alone is concerned. -/
theorem Write.exact_onFiles {table : Table} (hstored : table.Stored) (hkept : table.IsKept)
    {t t' : FileTree} {root : Path} :
    onFiles.save t root table = (true, t') →
      (⟨t, root, table, true, t'⟩ : Write FileTree).Exact onFiles fun q => q = root := by
  intro hsave
  have hload : onFiles.load t' root = table := by
    rcases hon : (table.save (fileOf root)).on t with ⟨outcome, after⟩
    simp only [onFiles, hon, Prod.mk.injEq] at hsave
    rcases hsave with ⟨hok, rfl⟩
    cases outcome with
    | error cause => cases hok
    | ok _ =>
        have hback := Table.load_of_save hstored.sorted hstored.sound hon
        simpa [onFiles_load, hkept] using hback
  refine ⟨?_, ?_⟩
  · rintro _ q rfl _
    exact hload
  · rintro q rfl hother
    have hself := hother rfl
    rw [Path.same_refl] at hself
    exact Bool.noConfusion hself

/-! ## One folder in a flush -/

namespace Store

/-- A folder that is not in memory is not written. -/
theorem not_written_of_slot?_eq_none {s : Store} (hs : s.IsProper) (v : Vault δ) (d : δ)
    (chosen : Path → Bool) {r : Path} (hnone : s.slot? r = none) :
    ∀ w ∈ s.writes v d chosen, w.root.same r = false := by
  intro w hw
  refine Bool.eq_false_iff.2 fun hsame => ?_
  rcases exists_of_mem_writes hw with ⟨slot, hslot, _, _, hroot, _⟩
  have hthere := slot?_of_mem hs hslot (r := r) (by rw [hroot]; exact hsame)
  rw [hnone] at hthere
  cases hthere

/-- The one write of a folder decides whether its mark stays. -/
theorem failed_eq_of_unique {writes : List (Write δ)} {r : Path} {w : Write δ} (hw : w ∈ writes)
    (hsame : w.root.same r = true)
    (honly : ∀ other ∈ writes, other.root.same r = true → other = w) :
    failed writes r = !w.written := by
  cases hwritten : w.written with
  | true =>
      refine List.any_eq_false.2 ?_
      intro other hother hlost
      rcases Bool.and_eq_true_iff.1 hlost with ⟨hunwritten, hclash⟩
      rw [honly other hother hclash, hwritten] at hunwritten
      exact Bool.noConfusion hunwritten
  | false => exact List.any_eq_true.2 ⟨w, hw, by rw [hwritten, hsame]; rfl⟩

/-- A flush passes a folder over and leaves its slot as it is, or it writes the table of the folder
once and leaves the mark if the write fails. -/
theorem flush_cases {s : Store} (hs : s.IsProper) (v : Vault δ) (d : δ) (chosen : Path → Bool)
    (r : Path) :
    ((∀ w ∈ s.writes v d chosen, w.root.same r = false) ∧
      (s.flush v d chosen).2.1.slot? r = s.slot? r ∧
      ∀ slot, s.slot? r = some slot → chosen slot.root = true → slot.dirty = false) ∨
    ∃ slot w, s.slot? r = some slot ∧ w ∈ s.writes v d chosen ∧ w.root.same r = true ∧
      w.table = slot.table ∧ chosen slot.root = true ∧
      (∀ other ∈ s.writes v d chosen, other.root.same r = true → other = w) ∧
      (s.flush v d chosen).2.1.slot? r = some { slot with dirty := !w.written } := by
  have hflush := slot?_flush hs v d chosen r
  cases hfound : s.slot? r with
  | none =>
      refine Or.inl ⟨not_written_of_slot?_eq_none hs v d chosen hfound, ?_, ?_⟩
      · rw [hflush, hfound]
        rfl
      · intro slot hslot
        cases hslot
  | some slot =>
      have hmem := mem_of_slot? hfound
      have hroot := root_of_slot? hfound
      rw [hfound, Option.map_some] at hflush
      by_cases htaken : (slot.dirty && chosen slot.root) = true
      · rcases Bool.and_eq_true_iff.1 htaken with ⟨hdirty, hchosen⟩
        rcases exists_mem_writes (v := v) d hmem hdirty hchosen with ⟨w, hw, hw_root, hw_table⟩
        have hsame : w.root.same r = true := by
          rw [hw_root]
          exact hroot
        have honly : ∀ other ∈ s.writes v d chosen, other.root.same r = true → other = w := by
          intro other hother hclash
          exact eq_of_mem_writes hs hother hw (Path.same_trans hclash (Path.same_symm hsame))
        refine Or.inr ⟨slot, w, rfl, hw, hsame, hw_table, hchosen, honly, ?_⟩
        rw [hflush, if_pos htaken, failed_eq_of_unique hw hsame honly]
      · -- It is not asked for, or has no mark.
        rw [if_neg htaken] at hflush
        refine Or.inl ⟨?_, hflush, ?_⟩
        · intro w hw
          refine Bool.eq_false_iff.2 fun hsame => htaken ?_
          exact same_of_mem_writes hs hmem hw (Path.same_trans hsame (Path.same_symm hroot))
        · intro other hother hchosen
          cases hother
          refine Bool.eq_false_iff.2 fun hdirty => htaken ?_
          rw [hdirty, hchosen]
          rfl

end Store
end Cache
end Testbench
