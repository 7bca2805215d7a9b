import Testbench.Json.Value
import Testbench.Cache.Table
import Mathlib.Data.List.Sort
import Mathlib.Data.List.Forall2

/-!
# Keyed — lists sorted by key

The fields of an object and the entries of a cache table are lists of pairs that are kept sorted by
key while they are built. This file treats both at once.

- `Keyed.Sorted`, `Keyed.get?`, `Keyed.insert`, `Keyed.ofList` : the common form;
- `get?_insert`, `sorted_insert` : what an insertion does;
- `Sorted.ext`                   : a sorted list is determined by what is found in it;
- `ofList_eq_self`               : a sorted list is rebuilt as it was;
- `Reads`                        : a list that is read from another, value by value.
-/

namespace Testbench
namespace Keyed

variable {α β : Type}

/-- Sorted by key, each key once. -/
def Sorted (l : List (String × α)) : Prop :=
  l.Pairwise fun a b => a.1 < b.1

instance (l : List (String × α)) : Decidable (Sorted l) :=
  inferInstanceAs (Decidable (l.Pairwise fun a b => a.1 < b.1))

/-- The first value of a key. -/
def get? (l : List (String × α)) (key : String) : Option α :=
  (l.find? fun f => f.1 == key).map (·.2)

/-- Set a key of a sorted list. -/
def insert (key : String) (value : α) : List (String × α) → List (String × α)
  | [] => [(key, value)]
  | f :: rest =>
    if key < f.1 then (key, value) :: f :: rest
    else if key == f.1 then (key, value) :: rest
    else f :: insert key value rest

/-- Insert pair after pair; of two pairs of one key the later stays. -/
def ofList (l : List (String × α)) : List (String × α) :=
  l.foldl (fun acc f => insert f.1 f.2 acc) []

/-! ## Looking up -/

@[simp] theorem get?_nil (key : String) : get? ([] : List (String × α)) key = none := rfl

theorem get?_cons (f : String × α) (rest : List (String × α)) (key : String) :
    get? (f :: rest) key = if f.1 = key then some f.2 else get? rest key := by
  by_cases h : f.1 = key <;> simp [get?, h]

theorem get?_append (l m : List (String × α)) (key : String) :
    get? (l ++ m) key = (get? l key).or (get? m key) := by
  induction l with
  | nil => simp
  | cons f rest ih =>
      by_cases h : f.1 = key <;> simp [get?_cons, h, ih]

theorem mem_of_get? {l : List (String × α)} {key : String} {value : α}
    (h : get? l key = some value) : (key, value) ∈ l := by
  induction l with
  | nil => simp at h
  | cons f rest ih =>
      rcases f with ⟨other, v⟩
      by_cases hk : other = key
      · subst hk
        have hv : v = value := by simpa [get?_cons] using h
        simp [hv]
      · have hrest : get? rest key = some value := by simpa [get?_cons, hk] using h
        exact List.mem_cons_of_mem _ (ih hrest)

theorem get?_eq_none_iff {l : List (String × α)} {key : String} :
    get? l key = none ↔ ∀ f ∈ l, f.1 ≠ key := by
  simp [get?, List.find?_eq_none]

theorem get?_map (g : α → β) (l : List (String × α)) (key : String) :
    get? (l.map fun f => (f.1, g f.2)) key = (get? l key).map g := by
  induction l with
  | nil => rfl
  | cons f rest ih =>
      by_cases h : f.1 = key <;> simp [get?_cons, h, ih]

theorem get?_filter_ne (l : List (String × α)) (name key : String) :
    get? (l.filter fun f => f.1 != name) key = if key = name then none else get? l key := by
  induction l with
  | nil => simp
  | cons f rest ih =>
      by_cases hf : f.1 = name
      · have hdrop : (f :: rest).filter (fun f => f.1 != name) =
            rest.filter fun f => f.1 != name := by simp [hf]
        by_cases hk : key = name
        · rw [hdrop, ih, if_pos hk, if_pos hk]
        · rw [hdrop, ih, if_neg hk, if_neg hk, get?_cons, if_neg (by rw [hf]; exact Ne.symm hk)]
      · by_cases hk : key = name
        · subst hk
          simp [hf, ih, get?_cons]
        · simp [hf, ih, hk, get?_cons]

/-! ## Sorted lists -/

theorem Sorted.tail {f : String × α} {rest : List (String × α)} (h : Sorted (f :: rest)) :
    Sorted rest :=
  (List.pairwise_cons.1 h).2

theorem Sorted.head_lt {f : String × α} {rest : List (String × α)} (h : Sorted (f :: rest)) :
    ∀ g ∈ rest, f.1 < g.1 :=
  (List.pairwise_cons.1 h).1

theorem ne_of_lt {a b : String} (h : a < b) : a ≠ b := by
  intro heq
  subst heq
  exact String.lt_irrefl a h

theorem lt_of_not_lt_of_ne {a b : String} (h : ¬ a < b) (hne : a ≠ b) : b < a := by
  by_cases hba : b < a
  · exact hba
  · exact absurd (String.le_antisymm (String.not_lt.1 hba) (String.not_lt.1 h)) hne

theorem Sorted.get?_eq_some_iff {l : List (String × α)} (h : Sorted l) {key : String} {value : α} :
    get? l key = some value ↔ (key, value) ∈ l := by
  refine ⟨mem_of_get?, ?_⟩
  intro hmem
  induction l with
  | nil => simp at hmem
  | cons f rest ih =>
      rcases List.mem_cons.1 hmem with heq | hrest
      · simp [get?_cons, ← heq]
      · have hne : f.1 ≠ key := ne_of_lt (h.head_lt _ hrest)
        simpa [get?_cons, hne] using ih h.tail hrest

/-- Sorted lists in which the same is found are the same. -/
theorem Sorted.ext {l m : List (String × α)} (hl : Sorted l) (hm : Sorted m)
    (h : ∀ key, get? l key = get? m key) : l = m := by
  have hmem : ∀ f, f ∈ l ↔ f ∈ m := by
    intro f
    rcases f with ⟨key, value⟩
    rw [← hl.get?_eq_some_iff, ← hm.get?_eq_some_iff, h key]
  have hirrefl : Std.Irrefl fun a b : String × α => a.1 < b.1 :=
    ⟨fun a => String.lt_irrefl a.1⟩
  have hantisymm : Std.Antisymm fun a b : String × α => a.1 < b.1 :=
    ⟨fun a b hab hba => absurd hba (String.lt_asymm hab)⟩
  exact List.Pairwise.eq_of_mem_iff hl hm hmem

/-! ## Inserting -/

theorem mem_insert {key : String} {value : α} {l : List (String × α)} {f : String × α}
    (h : f ∈ insert key value l) : f = (key, value) ∨ f ∈ l := by
  induction l with
  | nil => simpa [insert] using h
  | cons g rest ih =>
      unfold insert at h
      split at h
      · simpa using h
      · split at h
        · rcases List.mem_cons.1 h with heq | hrest
          · exact Or.inl heq
          · exact Or.inr (List.mem_cons_of_mem _ hrest)
        · rcases List.mem_cons.1 h with heq | hrest
          · exact Or.inr (by simp [heq])
          · rcases ih hrest with heq | hmem
            · exact Or.inl heq
            · exact Or.inr (List.mem_cons_of_mem _ hmem)

theorem sorted_insert (key : String) (value : α) {l : List (String × α)} (h : Sorted l) :
    Sorted (insert key value l) := by
  -- Before the first key, in its place, or somewhere behind it.
  induction l with
  | nil => simp [insert, Sorted]
  | cons g rest ih =>
      unfold insert
      split
      · rename_i hlt
        refine List.pairwise_cons.2 ⟨?_, h⟩
        intro f hf
        rcases List.mem_cons.1 hf with heq | hrest
        · simpa [heq] using hlt
        · exact String.lt_trans hlt (h.head_lt f hrest)
      · rename_i hlt
        split
        · rename_i heq
          have hkey : key = g.1 := by simpa using heq
          refine List.pairwise_cons.2 ⟨?_, h.tail⟩
          intro f hf
          simpa [hkey] using h.head_lt f hf
        · rename_i hne
          have hgt : g.1 < key := lt_of_not_lt_of_ne hlt (by simpa using hne)
          refine List.pairwise_cons.2 ⟨?_, ih h.tail⟩
          intro f hf
          rcases mem_insert hf with heq | hrest
          · simpa [heq] using hgt
          · exact h.head_lt f hrest

/-- An insertion changes what is found under its own key only. -/
theorem get?_insert (key other : String) (value : α) (l : List (String × α)) :
    get? (insert key value l) other = if key = other then some value else get? l other := by
  -- Before the first key, in its place, or somewhere behind it.
  induction l with
  | nil => simp [insert, get?_cons]
  | cons g rest ih =>
      unfold insert
      split
      · simp [get?_cons]
      · split
        · rename_i heq
          have hkey : key = g.1 := by simpa using heq
          by_cases h : key = other
          · simp [get?_cons, h]
          · simp [get?_cons, h, ← hkey]
        · rename_i hne
          have hkey : key ≠ g.1 := by simpa using hne
          by_cases h : key = other
          · subst h
            simp [get?_cons, ih, Ne.symm hkey]
          · simp [get?_cons, ih, h]

/-! ## Inserting pair after pair -/

theorem get?_foldl_insert (l acc : List (String × α)) (key : String) :
    get? (l.foldl (fun acc f => insert f.1 f.2 acc) acc) key =
      (get? l.reverse key).or (get? acc key) := by
  induction l generalizing acc with
  | nil => simp
  | cons f rest ih =>
      rw [List.foldl_cons, ih, List.reverse_cons, get?_append, get?_insert, get?_cons, get?_nil]
      by_cases h : f.1 = key
      · simp [h]
      · simp [h]

theorem sorted_foldl_insert (l : List (String × α)) {acc : List (String × α)} (h : Sorted acc) :
    Sorted (l.foldl (fun acc f => insert f.1 f.2 acc) acc) := by
  induction l generalizing acc with
  | nil => exact h
  | cons f rest ih => exact ih (sorted_insert f.1 f.2 h)

theorem sorted_ofList (l : List (String × α)) : Sorted (ofList l) :=
  sorted_foldl_insert l List.Pairwise.nil

/-- The last value of a key is found. -/
theorem get?_ofList (l : List (String × α)) (key : String) :
    get? (ofList l) key = get? l.reverse key := by
  simp [ofList, get?_foldl_insert]

/-- Keys that occur once are found in either direction. -/
theorem get?_reverse {l : List (String × α)} (h : (l.map (·.1)).Nodup) (key : String) :
    get? l.reverse key = get? l key := by
  induction l with
  | nil => rfl
  | cons f rest ih =>
      have hnodup := List.nodup_cons.1 (by simpa using h : (f.1 :: rest.map (·.1)).Nodup)
      rw [List.reverse_cons, get?_append, ih hnodup.2, get?_cons, get?_cons, get?_nil]
      by_cases hk : f.1 = key
      · have hnone : get? rest key = none := by
          rw [get?_eq_none_iff]
          intro g hg heq
          exact hnodup.1 (List.mem_map.2 ⟨g, hg, by rw [heq, hk]⟩)
        simp [hk, hnone]
      · simp [hk]

theorem Sorted.nodup_keys {l : List (String × α)} (h : Sorted l) : (l.map (·.1)).Nodup := by
  refine List.pairwise_map.2 (List.Pairwise.imp ?_ h)
  intro a b hab
  exact ne_of_lt hab

theorem ofList_eq_self {l : List (String × α)} (h : Sorted l) : ofList l = l := by
  refine Sorted.ext (sorted_ofList l) h ?_
  intro key
  rw [get?_ofList, get?_reverse h.nodup_keys]

/-! ## Lists that are read value by value -/

theorem mapM_eq_some_iff {f : α → Option β} {l : List α} {m : List β} :
    l.mapM f = some m ↔ List.Forall₂ (fun x y => f x = some y) l m := by
  induction l generalizing m with
  | nil => cases m <;> simp
  | cons x l ih =>
      simp only [List.mapM_cons, Option.bind_eq_bind, Option.bind_eq_some_iff, Option.pure_def,
        Option.some.injEq]
      constructor
      · rintro ⟨y, hy, ys, hys, rfl⟩
        exact .cons hy (ih.1 hys)
      · rintro (_ | ⟨hy, hys⟩)
        exact ⟨_, hy, _, ih.2 hys, rfl⟩

/-- One list has the keys of another, and the values that are read from those there. -/
abbrev Reads (read : α → Option β) : List (String × α) → List (String × β) → Prop :=
  List.Forall₂ fun f g => f.1 = g.1 ∧ read f.2 = some g.2

section

variable {read : α → Option β} {l : List (String × α)} {m : List (String × β)}

theorem Reads.keys (h : Reads read l m) : m.map (·.1) = l.map (·.1) := by
  induction h with
  | nil => rfl
  | cons hfg _ ih => simp only [List.map_cons, hfg.1, ih]

theorem Reads.get? (h : Reads read l m) (key : String) :
    get? m key = (get? l key).bind read := by
  induction h with
  | nil => rfl
  | @cons f g _ _ hfg _ ih =>
      rw [get?_cons, get?_cons, hfg.1, ih]
      split
      · exact hfg.2.symm
      · rfl

/-- Every value can be read. -/
theorem exists_reads (h : ∀ f ∈ l, (read f.2).isSome = true) : ∃ m, Reads read l m := by
  induction l with
  | nil => exact ⟨[], .nil⟩
  | cons f l ih =>
      rcases ih fun g hg => h g (List.mem_cons_of_mem _ hg) with ⟨m, hm⟩
      rcases Option.isSome_iff_exists.1 (h f List.mem_cons_self) with ⟨y, hy⟩
      exact ⟨(f.1, y) :: m, .cons ⟨rfl, hy⟩ hm⟩

theorem sorted_iff_keys : Sorted l ↔ (l.map (·.1)).Pairwise (· < ·) :=
  List.pairwise_map.symm

theorem Sorted.of_reads (hl : Sorted l) (h : Reads read l m) : Sorted m := by
  rw [sorted_iff_keys, h.keys]
  exact sorted_iff_keys.1 hl

theorem mem_keys_iff {key : String} : key ∈ l.map (·.1) ↔ (get? l key).isSome = true := by
  rw [Option.isSome_iff_ne_none, ne_eq, get?_eq_none_iff, List.mem_map]
  push Not
  rfl

end

end Keyed

/-! ## Fields and entries -/

namespace Json

theorem Fields.insert_eq (fields : Fields) (key : String) (value : Json) :
    fields.insert key value = Keyed.insert key value fields := by
  induction fields with
  | nil => rfl
  | cons f rest ih => simp [Fields.insert, Keyed.insert, ih]

theorem Fields.ofList_eq (fields : List (String × Json)) :
    Fields.ofList fields = Keyed.ofList fields := by
  simp [Fields.ofList, Keyed.ofList, Fields.insert_eq]

theorem Fields.get?_eq (fields : Fields) (key : String) :
    fields.get? key = Keyed.get? fields key := rfl

end Json

namespace Cache
namespace Table

theorem insertEntry_eq (key : String) (entry : Entry) (entries : List (String × Entry)) :
    insertEntry key entry entries = Keyed.insert key entry entries := by
  induction entries with
  | nil => rfl
  | cons e rest ih => simp [insertEntry, Keyed.insert, ih]

theorem find?_eq (table : Table) (key : String) :
    table.find? key = Keyed.get? table.entries key := rfl

end Table
end Cache
end Testbench
