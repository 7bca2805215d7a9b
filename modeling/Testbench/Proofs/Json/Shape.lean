import Testbench.Json.Draft
import Testbench.Proofs.Keyed
import Mathlib.Algebra.Group.Int.Defs
import Mathlib.Algebra.Group.Nat.Defs

/-!
# Shape — depth, order and numbers of JSON values

What a reader builds is not any value: the fields of its objects are sorted by key, and it nests
only so deep. This file names these properties.

- `Json.depth`     : how deep arrays and objects nest;
- `Json.arrange`   : the value with the fields of all objects sorted as a reader sorts them;
- `Json.IsOrdered` : the fields of all objects are sorted already;
- `Json.IsWhole`   : all numbers are integers of 64 bits.

Main statements: arranging leaves ordered values alone (`arrange_eq_self`), and what is arranged is
ordered (`isOrdered_arrange`). What goes from the parts of a value to the value holds of all that a
reader builds (`Draft.Grows.of_value?`), so this is ordered (`Draft.isOrdered_of_value?`) and nests
no deeper than it may (`Draft.depth_le_of_value?`).
-/

namespace Testbench
namespace Json

/-! ## Depth -/

mutual

/-- How deep arrays and objects nest in a value. -/
def depth : Json → Nat
  | .array items => depthItems items + 1
  | .object fields => depthFields fields + 1
  | _ => 0

def depthItems : List Json → Nat
  | [] => 0
  | j :: rest => max (depth j) (depthItems rest)

def depthFields : List (String × Json) → Nat
  | [] => 0
  | (_, j) :: rest => max (depth j) (depthFields rest)

end

theorem depthItems_le_iff (items : List Json) {levels : Nat} :
    depthItems items ≤ levels ↔ ∀ j ∈ items, j.depth ≤ levels := by
  induction items with
  | nil => simp [depthItems]
  | cons j rest ih => simp [depthItems, ih]

theorem depthFields_le_iff (fields : List (String × Json)) {levels : Nat} :
    depthFields fields ≤ levels ↔ ∀ f ∈ fields, f.2.depth ≤ levels := by
  induction fields with
  | nil => simp [depthFields]
  | cons f rest ih => simp [depthFields, ih]

/-! ## Arranging -/

mutual

/-- The value as a reader builds it: fields sorted by key, the last of equal keys kept. -/
def arrange : Json → Json
  | .array items => .array (arrangeItems items)
  | .object fields => .object (Fields.ofList (arrangeFields fields))
  | j => j

def arrangeItems : List Json → List Json
  | [] => []
  | j :: rest => arrange j :: arrangeItems rest

def arrangeFields : List (String × Json) → List (String × Json)
  | [] => []
  | (key, j) :: rest => (key, arrange j) :: arrangeFields rest

end

mutual

/-- The fields of every object in the value are sorted by key. -/
def IsOrdered : Json → Prop
  | .array items => AreOrderedItems items
  | .object fields => Keyed.Sorted fields ∧ AreOrderedFields fields
  | _ => True

def AreOrderedItems : List Json → Prop
  | [] => True
  | j :: rest => IsOrdered j ∧ AreOrderedItems rest

def AreOrderedFields : List (String × Json) → Prop
  | [] => True
  | (_, j) :: rest => IsOrdered j ∧ AreOrderedFields rest

end

mutual

def decideIsOrdered : (j : Json) → Decidable j.IsOrdered
  | .null => inferInstanceAs (Decidable True)
  | .bool _ => inferInstanceAs (Decidable True)
  | .number _ => inferInstanceAs (Decidable True)
  | .text _ => inferInstanceAs (Decidable True)
  | .array items => decideAreOrderedItems items
  | .object fields => @instDecidableAnd _ _ inferInstance (decideAreOrderedFields fields)

def decideAreOrderedItems : (items : List Json) → Decidable (AreOrderedItems items)
  | [] => inferInstanceAs (Decidable True)
  | j :: rest => @instDecidableAnd _ _ (decideIsOrdered j) (decideAreOrderedItems rest)

def decideAreOrderedFields : (fields : List (String × Json)) → Decidable (AreOrderedFields fields)
  | [] => inferInstanceAs (Decidable True)
  | (_, j) :: rest => @instDecidableAnd _ _ (decideIsOrdered j) (decideAreOrderedFields rest)

end

instance (j : Json) : Decidable j.IsOrdered := decideIsOrdered j

theorem arrangeItems_eq_map (items : List Json) : arrangeItems items = items.map arrange := by
  induction items with
  | nil => rfl
  | cons j rest ih => simp [arrangeItems, ih]

theorem arrangeFields_eq_map (fields : List (String × Json)) :
    arrangeFields fields = fields.map fun f => (f.1, arrange f.2) := by
  induction fields with
  | nil => rfl
  | cons f rest ih => simp [arrangeFields, ih]

theorem areOrderedItems_iff (items : List Json) :
    AreOrderedItems items ↔ ∀ j ∈ items, j.IsOrdered := by
  induction items with
  | nil => simp [AreOrderedItems]
  | cons j rest ih => simp [AreOrderedItems, ih]

theorem areOrderedFields_iff (fields : List (String × Json)) :
    AreOrderedFields fields ↔ ∀ f ∈ fields, f.2.IsOrdered := by
  induction fields with
  | nil => simp [AreOrderedFields]
  | cons f rest ih => simp [AreOrderedFields, ih]

mutual

theorem arrange_eq_self : ∀ (j : Json), j.IsOrdered → j.arrange = j
  | .null, _ => rfl
  | .bool _, _ => rfl
  | .number _, _ => rfl
  | .text _, _ => rfl
  | .array items, h => by
      rw [arrange, arrangeItems_eq_self items h]
  | .object fields, h => by
      rw [arrange, arrangeFields_eq_self fields h.2, Fields.ofList_eq, Keyed.ofList_eq_self h.1]

theorem arrangeItems_eq_self : ∀ (items : List Json), AreOrderedItems items →
    arrangeItems items = items
  | [], _ => rfl
  | j :: rest, h => by
      rw [arrangeItems, arrange_eq_self j h.1, arrangeItems_eq_self rest h.2]

theorem arrangeFields_eq_self : ∀ (fields : List (String × Json)), AreOrderedFields fields →
    arrangeFields fields = fields
  | [], _ => rfl
  | (key, j) :: rest, h => by
      rw [arrangeFields, arrange_eq_self j h.1, arrangeFields_eq_self rest h.2]

end

theorem mem_of_mem_ofList {fields : List (String × Json)} {f : String × Json}
    (h : f ∈ Fields.ofList fields) : f ∈ fields := by
  rw [Fields.ofList_eq] at h
  rcases f with ⟨key, j⟩
  have hget := (Keyed.sorted_ofList fields).get?_eq_some_iff.2 h
  rw [Keyed.get?_ofList] at hget
  simpa using Keyed.mem_of_get? hget

mutual

/-- An arranged value is ordered. -/
theorem isOrdered_arrange : ∀ j : Json, j.arrange.IsOrdered
  | .null => trivial
  | .bool _ => trivial
  | .number _ => trivial
  | .text _ => trivial
  | .array items => areOrderedItems_arrange items
  | .object fields => by
      refine ⟨Fields.ofList_eq _ ▸ Keyed.sorted_ofList _, (areOrderedFields_iff _).2 ?_⟩
      intro f hf
      exact (areOrderedFields_iff _).1 (areOrderedFields_arrange fields) f (mem_of_mem_ofList hf)

theorem areOrderedItems_arrange : ∀ items : List Json, AreOrderedItems (arrangeItems items)
  | [] => trivial
  | j :: rest => ⟨isOrdered_arrange j, areOrderedItems_arrange rest⟩

theorem areOrderedFields_arrange : ∀ fields : List (String × Json),
    AreOrderedFields (arrangeFields fields)
  | [] => trivial
  | (_, j) :: rest => ⟨isOrdered_arrange j, areOrderedFields_arrange rest⟩

end

/-! ## Numbers -/

/-- An integer that fits into 64 bits, with or without a sign. -/
def Number.IsWord : Number → Prop
  | .int i => -(2 : Int) ^ 63 ≤ i ∧ i < 2 ^ 64
  | .double _ => False

instance : (n : Number) → Decidable n.IsWord
  | .int i => inferInstanceAs (Decidable (-(2 : Int) ^ 63 ≤ i ∧ i < 2 ^ 64))
  | .double _ => inferInstanceAs (Decidable False)

mutual

/-- Every number in the value is an integer of 64 bits. -/
def IsWhole : Json → Prop
  | .number n => n.IsWord
  | .array items => AreWholeItems items
  | .object fields => AreWholeFields fields
  | _ => True

def AreWholeItems : List Json → Prop
  | [] => True
  | j :: rest => IsWhole j ∧ AreWholeItems rest

def AreWholeFields : List (String × Json) → Prop
  | [] => True
  | (_, j) :: rest => IsWhole j ∧ AreWholeFields rest

end

mutual

def decideIsWhole : (j : Json) → Decidable j.IsWhole
  | .null => inferInstanceAs (Decidable True)
  | .bool _ => inferInstanceAs (Decidable True)
  | .number n => inferInstanceAs (Decidable n.IsWord)
  | .text _ => inferInstanceAs (Decidable True)
  | .array items => decideAreWholeItems items
  | .object fields => decideAreWholeFields fields

def decideAreWholeItems : (items : List Json) → Decidable (AreWholeItems items)
  | [] => inferInstanceAs (Decidable True)
  | j :: rest => @instDecidableAnd _ _ (decideIsWhole j) (decideAreWholeItems rest)

def decideAreWholeFields : (fields : List (String × Json)) → Decidable (AreWholeFields fields)
  | [] => inferInstanceAs (Decidable True)
  | (_, j) :: rest => @instDecidableAnd _ _ (decideIsWhole j) (decideAreWholeFields rest)

end

instance (j : Json) : Decidable j.IsWhole := decideIsWhole j

theorem areWholeItems_iff (items : List Json) :
    AreWholeItems items ↔ ∀ j ∈ items, j.IsWhole := by
  induction items with
  | nil => simp [AreWholeItems]
  | cons j rest ih => simp [AreWholeItems, ih]

theorem areWholeFields_iff (fields : List (String × Json)) :
    AreWholeFields fields ↔ ∀ f ∈ fields, f.2.IsWhole := by
  induction fields with
  | nil => simp [AreWholeFields]
  | cons f rest ih => simp [AreWholeFields, ih]

/-! ## What a reader builds -/

namespace Draft

/-- A property of values, and of the levels they may nest, that goes from the parts of a value to
the value. -/
structure Grows (P : Nat → Json → Prop) : Prop where
  null : ∀ levels, P levels .null
  bool : ∀ levels b, P levels (.bool b)
  number : ∀ levels (n : Numeral) x, n.value? = some x → P levels (.number x)
  text : ∀ levels s, P levels (.text s)
  array : ∀ levels items, (∀ j ∈ items, P levels j) → P (levels + 1) (.array items)
  object : ∀ levels fields, Keyed.Sorted fields → (∀ f ∈ fields, P levels f.2) →
    P (levels + 1) (.object fields)

section

variable {P : Nat → Json → Prop}

mutual

/-- Such a property holds of the value of a draft. -/
theorem Grows.of_value? (hP : Grows P) : ∀ (d : Draft) (levels : Nat) (j : Json),
    d.value? levels = some j → P levels j
  | .null, levels, j, h => by
      have hj : Json.null = j := by simpa [value?] using h
      exact hj ▸ hP.null levels
  | .bool b, levels, j, h => by
      have hj : Json.bool b = j := by simpa [value?] using h
      exact hj ▸ hP.bool levels b
  | .numeral n, levels, j, h => by
      rcases Option.map_eq_some_iff.1 (by simpa [value?] using h) with ⟨x, hx, hj⟩
      exact hj ▸ hP.number levels n x hx
  | .text s, levels, j, h => by
      rcases Option.map_eq_some_iff.1 (by simpa [value?] using h) with ⟨x, _, hj⟩
      exact hj ▸ hP.text levels x
  | .array _, 0, _, h => by simp [value?] at h
  | .array items, levels + 1, j, h => by
      rcases Option.map_eq_some_iff.1 (by simpa only [value?] using h) with ⟨js, hjs, hj⟩
      exact hj ▸ hP.array levels js (Grows.of_itemValues? hP items levels js hjs)
  | .object _, 0, _, h => by simp [value?] at h
  | .object fields, levels + 1, j, h => by
      rcases Option.map_eq_some_iff.1 (by simpa only [value?] using h) with ⟨fs, hfs, hj⟩
      have hall := Grows.of_fieldValues? hP fields levels fs hfs
      have hsorted : Keyed.Sorted (Fields.ofList fs) :=
        Fields.ofList_eq fs ▸ Keyed.sorted_ofList fs
      exact hj ▸ hP.object levels _ hsorted fun f hf => hall f (mem_of_mem_ofList hf)

theorem Grows.of_itemValues? (hP : Grows P) : ∀ (ds : List Draft) (levels : Nat) (js : List Json),
    itemValues? levels ds = some js → ∀ j ∈ js, P levels j
  | [], _, js, h => by
      have hjs : [] = js := by simpa [itemValues?] using h
      simp [← hjs]
  | d :: ds, levels, js, h => by
      simp only [itemValues?, Option.bind_eq_bind, Option.bind_eq_some_iff] at h
      rcases h with ⟨v, hv, vs, hvs, hjs⟩
      rw [← Option.some.inj hjs]
      exact List.forall_mem_cons.2 ⟨Grows.of_value? hP d levels v hv,
        Grows.of_itemValues? hP ds levels vs hvs⟩

theorem Grows.of_fieldValues? (hP : Grows P) : ∀ (ds : List (Option String × Draft)) (levels : Nat)
    (fs : List (String × Json)), fieldValues? levels ds = some fs → ∀ f ∈ fs, P levels f.2
  | [], _, fs, h => by
      have hfs : [] = fs := by simpa [fieldValues?] using h
      simp [← hfs]
  | (key, d) :: ds, levels, fs, h => by
      simp only [fieldValues?, Option.bind_eq_bind, Option.bind_eq_some_iff] at h
      rcases h with ⟨k, _, v, hv, vs, hvs, hfs⟩
      rw [← Option.some.inj hfs]
      exact List.forall_mem_cons.2 ⟨Grows.of_value? hP d levels v hv,
        Grows.of_fieldValues? hP ds levels vs hvs⟩

end

end

/-- The value of a draft is ordered. -/
theorem isOrdered_of_value? (d : Draft) (levels : Nat) (j : Json) (h : d.value? levels = some j) :
    j.IsOrdered := by
  have hgrows : Grows fun _ j => j.IsOrdered :=
    { null := fun _ => trivial
      bool := fun _ _ => trivial
      number := fun _ _ _ _ => trivial
      text := fun _ _ => trivial
      array := fun _ items hall => (areOrderedItems_iff items).2 hall
      object := fun _ fields hsorted hall => ⟨hsorted, (areOrderedFields_iff fields).2 hall⟩ }
  exact hgrows.of_value? d levels j h

/-- The value of a draft nests no deeper than it may. -/
theorem depth_le_of_value? (d : Draft) (levels : Nat) (j : Json) (h : d.value? levels = some j) :
    j.depth ≤ levels := by
  have hgrows : Grows fun levels j => j.depth ≤ levels :=
    { null := Nat.zero_le
      bool := fun levels _ => Nat.zero_le levels
      number := fun levels _ _ _ => Nat.zero_le levels
      text := fun levels _ => Nat.zero_le levels
      array := fun _ items hall => Nat.succ_le_succ ((depthItems_le_iff items).2 hall)
      object := fun _ fields _ hall => Nat.succ_le_succ ((depthFields_le_iff fields).2 hall) }
  exact hgrows.of_value? d levels j h

end Draft
end Json
end Testbench
