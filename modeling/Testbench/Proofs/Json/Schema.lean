import Testbench.Proofs.Json.Record

/-!
# Schema — which values a reader rejects

A schema says what a value is expected to be, and a fault is a place where a value is not that. A
reader follows a schema if it rejects the values that have a fault and no others.

- `Schema`, `Part` : what a value and a field of a record are expected to be;
- `Fault`          : a value departs from a schema, one constructor for each way in which it can;
- `Follows`        : a reader rejects exactly the values with a fault;
- `Fails`, `FailsOn` : a chain of readings ends at the first one that fails.

Each reader of a single field follows its schema, and `follows_list`, `follows_tuple` and
`follows_record` make readers of composed values from readers of their parts.
-/

namespace Testbench
namespace Json

/-! ## Schemas -/

/-- A field of a record. -/
structure Part (σ : Type) where
  name : String
  required : Bool
  schema : σ

/-- What a value without inner structure is expected to be. -/
inductive Kind where
  | anything
  | text
  | bool
  | object
  deriving DecidableEq, Repr

def Kind.allows : Kind → Json → Bool
  | .anything, _ => true
  | .text, .text _ => true
  | .bool, .bool _ => true
  | .object, .object _ => true
  | _, _ => false

/-- What a value is expected to be. -/
inductive Schema where
  | plain (kind : Kind)
  | natBelow (bound : Nat)
  | orNull (schema : Schema)
  | list (item : Schema)
  | tuple (entries : List Schema)
  | record (parts : List (Part Schema))

/-- A field that has to be there. -/
def Part.must (name : String) (s : Schema) : Part Schema := ⟨name, true, s⟩

/-- A field that may be left out. -/
def Part.may (name : String) (s : Schema) : Part Schema := ⟨name, false, s⟩

/-- The value is of a kind that the schema knows. Records are written in two ways. -/
def Schema.allows : Schema → Json → Bool
  | .plain kind, j => kind.allows j
  | .natBelow _, .number (.int _) => true
  | .orNull _, _ => true
  | .list _, .array _ => true
  | .tuple _, .array _ => true
  | .record _, .object _ => true
  | .record _, .array _ => true
  | _, _ => false

/-! ## Faults -/

/-- A value is not what the schema expects, here or somewhere inside. -/
inductive Fault : Schema → Json → Prop where
  /-- It is of another kind. -/
  | kind {s : Schema} {j : Json} (h : s.allows j = false) : Fault s j
  /-- A number is out of range. -/
  | range {bound : Nat} {i : Int} (h : i < 0 ∨ bound ≤ i) :
      Fault (.natBelow bound) (.number (.int i))
  | filled {s : Schema} {j : Json} (hj : j ≠ .null) (h : Fault s j) : Fault (.orNull s) j
  | item {s : Schema} {items : List Json} {j : Json} (hj : j ∈ items) (h : Fault s j) :
      Fault (.list s) (.array items)
  /-- A tuple has too few or too many entries. -/
  | count {entries : List Schema} {items : List Json} (h : items.length ≠ entries.length) :
      Fault (.tuple entries) (.array items)
  | entry {entries : List Schema} {items : List Json} {i : Nat} {s : Schema} {j : Json}
      (hs : entries[i]? = some s) (hj : items[i]? = some j) (h : Fault s j) :
      Fault (.tuple entries) (.array items)
  /-- A required field is not in the object. -/
  | missing {parts : List (Part Schema)} {fields : Fields} {p : Part Schema} (hp : p ∈ parts)
      (hrequired : p.required = true) (h : ∀ f ∈ fields, f.1 ≠ p.name) :
      Fault (.record parts) (.object fields)
  | field {parts : List (Part Schema)} {fields : Fields} {p : Part Schema} {j : Json}
      (hp : p ∈ parts) (hj : (p.name, j) ∈ fields) (h : Fault p.schema j) :
      Fault (.record parts) (.object fields)
  /-- The array has more items than the record has fields. -/
  | long {parts : List (Part Schema)} {items : List Json} (h : parts.length < items.length) :
      Fault (.record parts) (.array items)
  /-- The array ends before a required field. -/
  | short {parts : List (Part Schema)} {items : List Json} {i : Nat} {p : Part Schema}
      (hp : parts[i]? = some p) (hrequired : p.required = true) (h : items.length ≤ i) :
      Fault (.record parts) (.array items)
  | slot {parts : List (Part Schema)} {items : List Json} {i : Nat} {p : Part Schema} {j : Json}
      (hp : parts[i]? = some p) (hj : items[i]? = some j) (h : Fault p.schema j) :
      Fault (.record parts) (.array items)

/-- A reader rejects the values with a fault, and no others. -/
def Follows {β : Type} (read : Json → Option β) (s : Schema) : Prop :=
  ∀ j : Json, j.IsOrdered → (read j = none ↔ Fault s j)

namespace Source

/-! ## Single fields -/

theorem fault_plain_iff {kind : Kind} {j : Json} :
    Fault (.plain kind) j ↔ kind.allows j = false := by
  refine ⟨fun h => ?_, fun h => .kind (by simpa only [Schema.allows] using h)⟩
  cases h with
  | kind h => simpa only [Schema.allows] using h

theorem fault_int_iff {bound : Nat} {i : Int} :
    Fault (.natBelow bound) (.number (.int i)) ↔ i < 0 ∨ bound ≤ i := by
  refine ⟨fun h => ?_, .range⟩
  cases h with
  | kind h => simp [Schema.allows] at h
  | range h => exact h

theorem follows_value : Follows value.value? (.plain .anything) := by
  intro j _
  simp [fault_plain_iff, value, Kind.allows]

theorem follows_text : Follows value.text? (.plain .text) := by
  intro j _
  rw [fault_plain_iff]
  cases j <;> simp [text?, value, Kind.allows]

theorem follows_bool : Follows value.bool? (.plain .bool) := by
  intro j _
  rw [fault_plain_iff]
  cases j <;> simp [bool?, value, Kind.allows]

theorem follows_object : Follows value.object? (.plain .object) := by
  intro j _
  rw [fault_plain_iff]
  cases j <;> simp [object?, value, fields?, Kind.allows]

theorem follows_natBelow (bound : Nat) : Follows (value.natBelow? bound) (.natBelow bound) := by
  intro j _
  cases j with
  | number n =>
      cases n with
      | int i =>
          rw [fault_int_iff]
          cases i with
          | ofNat n => simp [natBelow?, value]
          | negSucc n => simp [natBelow?, value, Int.negSucc_lt_zero]
      | double x => exact ⟨fun _ => .kind rfl, fun _ => rfl⟩
  | _ => exact ⟨fun _ => .kind rfl, fun _ => rfl⟩

section

variable {β : Type} {read : Json → Option β} {s : Schema}

theorem follows_nullable (hread : Follows read s) : Follows (value.nullable? read) (.orNull s) := by
  intro j hj
  cases j with
  | null =>
      refine ⟨fun h => by simp [nullable?, value] at h, fun h => ?_⟩
      cases h with
      | kind h => simp [Schema.allows] at h
      | filled hj _ => exact absurd rfl hj
  | _ =>
      have hfault : read _ = none ↔ Fault s _ := hread _ hj
      simp only [nullable?, value, Option.bind_eq_bind, Option.bind_some, Option.map_eq_none_iff,
        hfault]
      refine ⟨.filled (by simp), fun h => ?_⟩
      cases h with
      | kind h => simp [Schema.allows] at h
      | filled _ h => exact h

/-! ## Lists -/

theorem mapM_eq_none_iff {α : Type} {read : α → Option β} {xs : List α} :
    xs.mapM read = none ↔ ∃ x ∈ xs, read x = none := by
  induction xs with
  | nil => simp
  | cons x xs ih =>
      cases hx : read x with
      | none => simp [List.mapM_cons, hx]
      | some y =>
          cases hxs : xs.mapM read with
          | none =>
              have hsome := ih.1 hxs
              simp [List.mapM_cons, hx, hxs, hsome]
          | some ys =>
              have hnone : ¬ ∃ x ∈ xs, read x = none := fun h => by simp [ih.2 h] at hxs
              simpa [List.mapM_cons, hx, hxs] using hnone

theorem fault_list_iff {items : List Json} :
    Fault (.list s) (.array items) ↔ ∃ j ∈ items, Fault s j := by
  refine ⟨fun h => ?_, fun ⟨_, hj, h⟩ => .item hj h⟩
  cases h with
  | kind h => simp [Schema.allows] at h
  | item hj h => exact ⟨_, hj, h⟩

theorem follows_list (hread : Follows read s) : Follows (value.listOf? read) (.list s) := by
  intro j hj
  cases j with
  | array items =>
      have hitem : ∀ i ∈ items, (read i = none ↔ Fault s i) := fun i hi =>
        hread i ((areOrderedItems_iff items).1 hj i hi)
      have hread : value.listOf? read (.array items) = items.mapM read := rfl
      rw [hread, mapM_eq_none_iff, fault_list_iff]
      exact exists_congr fun i => and_congr_right (hitem i)
  | _ => exact ⟨fun _ => .kind rfl, fun _ => rfl⟩

end

/-! ## Chains of readings -/

/-- A reading fails exactly if one of the causes is given. -/
def Fails {β : Type} (reading : Option β) (causes : List Prop) : Prop :=
  reading = none ↔ ∃ cause ∈ causes, cause

namespace Fails

variable {β γ : Type} {causes : List Prop}

theorem iff {reading : Option β} (h : Fails reading causes) :
    reading = none ↔ ∃ cause ∈ causes, cause := h

theorem done (y : β) : Fails (some y) [] := by
  simp [Fails]

theorem bind {reading : Option γ} {cause : Prop} {f : γ → Option β}
    (hreading : reading = none ↔ cause) (h : ∀ y, Fails (f y) causes) :
    Fails (reading.bind f) (cause :: causes) := by
  unfold Fails at h ⊢
  -- What comes after a reading that failed is never asked; its causes do not matter then.
  rw [List.exists_mem_cons_iff, ← hreading]
  cases reading with
  | none => simp
  | some y => simpa using h y

end Fails

/-- A slot is empty that has to be filled, or it holds a value with a fault. -/
def SlotFault (p : Part Schema) : Option Json → Prop
  | none => p.required = true
  | some j => Fault p.schema j

/-- A reading of slots fails exactly if a slot is not what its part expects. -/
def FailsOn {β : Type} (parts : List (Part Schema)) (slots : List (Option Json))
    (reading : Option β) : Prop :=
  (∀ slot ∈ slots, ∀ j ∈ slot, j.IsOrdered) → Fails reading (List.zipWith SlotFault parts slots)

namespace FailsOn

variable {β γ : Type} {read : Json → Option γ} {s : Schema} {name : String} {f : γ → Option β}
  {parts : List (Part Schema)} {slot : Option Json} {slots : List (Option Json)}

theorem done (y : β) : FailsOn [] [] (some y) := fun _ => .done y

theorem must (hread : Follows read s) (h : ∀ y, FailsOn parts slots (f y)) :
    FailsOn (.must name s :: parts) (slot :: slots) (slot.bind fun j => (read j).bind f) := by
  intro hordered
  have hslot := hordered slot List.mem_cons_self
  have hrest := fun y => h y fun slot hslot => hordered slot (List.mem_cons_of_mem _ hslot)
  cases slot with
  | none => exact iff_of_true rfl ⟨_, List.mem_cons_self, rfl⟩
  | some j =>
      change Fails ((read j).bind f) _
      exact .bind (hread j (hslot j rfl)) hrest

theorem may (hread : Follows read s) {default : γ} (h : ∀ y, FailsOn parts slots (f y)) :
    FailsOn (.may name s :: parts) (slot :: slots) ((orDefault? read default slot).bind f) := by
  intro hordered
  have hslot := hordered slot List.mem_cons_self
  have hrest := fun y => h y fun slot hslot => hordered slot (List.mem_cons_of_mem _ hslot)
  refine .bind ?_ hrest
  cases slot with
  | none => simp [orDefault?, SlotFault, Part.may]
  | some j => exact hread j (hslot j rfl)

end FailsOn

/-! ## Tuples -/

section

variable {β : Type}

theorem exists_mem_zipWith_iff {σ τ : Type} {p : σ → τ → Prop} {as : List σ} {bs : List τ} :
    (∃ cause ∈ List.zipWith p as bs, cause) ↔
      ∃ (i : Nat) (a : σ) (b : τ), as[i]? = some a ∧ bs[i]? = some b ∧ p a b := by
  constructor
  · rintro ⟨cause, hmem, hcause⟩
    rcases List.mem_iff_getElem?.1 hmem with ⟨i, hi⟩
    rcases List.getElem?_zipWith_eq_some.1 hi with ⟨a, b, ha, hb, rfl⟩
    exact ⟨i, a, b, ha, hb, hcause⟩
  · rintro ⟨i, a, b, ha, hb, h⟩
    have hi : (List.zipWith p as bs)[i]? = some (p a b) :=
      List.getElem?_zipWith_eq_some.2 ⟨a, b, ha, hb, rfl⟩
    exact ⟨_, List.mem_iff_getElem?.2 ⟨i, hi⟩, h⟩

theorem follows_tuple {entries : List Schema} {body : List Json → Option β}
    (hcount : ∀ items, items.length ≠ entries.length → body items = none)
    (hbody : ∀ items, items.length = entries.length → (∀ j ∈ items, j.IsOrdered) →
      Fails (body items) (List.zipWith Fault entries items)) :
    Follows (fun j => (value.items? j).bind body) (.tuple entries) := by
  intro j hj
  cases j with
  | array items =>
      have hitems : value.items? (.array items) = some items := rfl
      simp only [hitems, Option.bind_some]
      by_cases hlength : items.length = entries.length
      · have hfails := hbody items hlength ((areOrderedItems_iff items).1 hj)
        rw [hfails.iff, exists_mem_zipWith_iff]
        refine ⟨fun ⟨i, s, j, hs, hj, h⟩ => .entry hs hj h, fun h => ?_⟩
        cases h with
        | kind h => simp [Schema.allows] at h
        | count h => exact absurd hlength h
        | entry hs hj h => exact ⟨_, _, _, hs, hj, h⟩
      · exact ⟨fun _ => .count hlength, fun _ => hcount items hlength⟩
  | _ => exact ⟨fun _ => .kind rfl, fun _ => rfl⟩

/-! ## Records -/

theorem fault_object_iff {parts : List (Part Schema)} {fields : Fields}
    (hfields : Keyed.Sorted fields) : Fault (.record parts) (.object fields) ↔
      ∃ p ∈ parts, SlotFault p (Keyed.get? fields p.name) := by
  constructor
  · intro h
    cases h with
    | kind h => simp [Schema.allows] at h
    | missing hp hrequired h =>
        refine ⟨_, hp, ?_⟩
        rw [Keyed.get?_eq_none_iff.2 h]
        exact hrequired
    | field hp hj h =>
        refine ⟨_, hp, ?_⟩
        rw [hfields.get?_eq_some_iff.2 hj]
        exact h
  · rintro ⟨p, hp, h⟩
    -- A fault at a slot is one of a missing field or one of the field that is there.
    cases hslot : Keyed.get? fields p.name with
    | none =>
        rw [hslot] at h
        exact .missing hp h (Keyed.get?_eq_none_iff.1 hslot)
    | some j =>
        rw [hslot] at h
        exact .field hp (Keyed.mem_of_get? hslot) h

theorem fault_array_iff {parts : List (Part Schema)} {items : List Json} :
    Fault (.record parts) (.array items) ↔
      parts.length < items.length ∨
        ∃ (i : Nat) (p : Part Schema), parts[i]? = some p ∧ SlotFault p items[i]? := by
  constructor
  · intro h
    cases h with
    | kind h => simp [Schema.allows] at h
    | long h => exact .inl h
    | short hp hrequired h =>
        refine .inr ⟨_, _, hp, ?_⟩
        rw [List.getElem?_eq_none h]
        exact hrequired
    | slot hp hj h =>
        refine .inr ⟨_, _, hp, ?_⟩
        rw [hj]
        exact h
  · rintro (h | ⟨i, p, hp, h⟩)
    · exact .long h
    -- A fault at a slot is one of a missing item or one of the item that is there.
    · cases hslot : items[i]? with
      | none =>
          rw [hslot] at h
          exact .short hp h (List.getElem?_eq_none_iff.1 hslot)
      | some j =>
          rw [hslot] at h
          exact .slot hp hslot h

/-- The slots of an array are its items, and nothing after the last one. -/
theorem slots?_array {names : List String} {items : List Json} (h : items.length ≤ names.length) :
    ∃ slots, value.slots? names (.array items) = some slots ∧ slots.length = names.length ∧
      ∀ i < names.length, slots[i]? = some items[i]? := by
  refine ⟨items.map some ++ List.replicate (names.length - items.length) none, ?_, ?_, ?_⟩
  · simp [slots?, value, slotsOfItems?, Nat.not_lt.2 h]
  · simp
    omega
  · intro i hi
    by_cases hlt : i < items.length
    · rw [List.getElem?_append_left (by simpa using hlt)]
      simp [hlt]
    · rw [List.getElem?_append_right (by simpa using hlt), List.getElem?_replicate,
        if_pos (by simp; omega), List.getElem?_eq_none (by omega)]

/-- A record without slots is of another kind, or an array that is too long. -/
theorem fault_of_slots?_eq_none {parts : List (Part Schema)} {j : Json} (hj : j.IsOrdered)
    (h : value.slots? (parts.map (·.name)) j = none) : Fault (.record parts) j := by
  cases j with
  | object fields =>
      rw [slots?_object hj.1.nodup_keys] at h
      cases h
  | array items =>
      by_cases hlong : parts.length < items.length
      · exact .long hlong
      · have hfits : items.length ≤ (parts.map (·.name)).length := by simpa using hlong
        rcases slots?_array hfits with ⟨slots, hslots, -⟩
        rw [hslots] at h
        cases h
  | _ => exact .kind rfl

/-- A record with slots has the faults that its parts find there. -/
theorem fault_record_iff {parts : List (Part Schema)} {j : Json} {slots : List (Option Json)}
    (hj : j.IsOrdered) (h : value.slots? (parts.map (·.name)) j = some slots) :
    slots.length = parts.length ∧
      (Fault (.record parts) j ↔ ∃ cause ∈ List.zipWith SlotFault parts slots, cause) := by
  cases j with
  | object fields =>
      rw [slots?_object hj.1.nodup_keys] at h
      obtain rfl := Option.some.inj h
      refine ⟨by simp, ?_⟩
      rw [fault_object_iff hj.1, List.map_map, List.zipWith_map_right, List.zipWith_self]
      constructor
      · rintro ⟨p, hp, h⟩
        exact ⟨_, List.mem_map.2 ⟨p, hp, rfl⟩, h⟩
      · rintro ⟨cause, hcause, h⟩
        rcases List.mem_map.1 hcause with ⟨p, hp, rfl⟩
        exact ⟨p, hp, h⟩
  | array items =>
      have hlong : ¬ parts.length < items.length := fun hlong => by
        simp [slots?, value, slotsOfItems?, hlong] at h
      have hfits : items.length ≤ (parts.map (·.name)).length := by simpa using hlong
      rcases slots?_array hfits with ⟨slots', hslots, hlength, hget⟩
      obtain rfl := Option.some.inj (h.symm.trans hslots)
      refine ⟨by simpa using hlength, ?_⟩
      -- Places after the last item count as empty slots, so the two sides speak of the same places.
      have hslot : ∀ {i : Nat} {p : Part Schema}, parts[i]? = some p → slots[i]? = some items[i]? :=
        fun hp => hget _ (by simpa using (List.getElem?_eq_some_iff.1 hp).1)
      rw [exists_mem_zipWith_iff, fault_array_iff, or_iff_right hlong]
      constructor
      · rintro ⟨i, p, hp, h⟩
        exact ⟨i, p, _, hp, hslot hp, h⟩
      · rintro ⟨i, p, slot, hp, hs, h⟩
        have hitem : items[i]? = slot := Option.some.inj ((hslot hp).symm.trans hs)
        exact ⟨i, p, hp, hitem ▸ h⟩
  | _ => cases h

theorem follows_record {parts : List (Part Schema)} {names : List String}
    {body : List (Option Json) → Option β} (hnames : parts.map (·.name) = names)
    (hbody : ∀ slots, slots.length = parts.length → FailsOn parts slots (body slots)) :
    Follows (fun j => (value.slots? names j).bind body) (.record parts) := by
  subst hnames
  intro j hj
  cases hslots : value.slots? (parts.map (·.name)) j with
  | none =>
      exact iff_of_true (by simp only [hslots, Option.bind_none])
        (fault_of_slots?_eq_none hj hslots)
  | some slots =>
      obtain ⟨hlength, hfault⟩ := fault_record_iff hj hslots
      simp only [hslots, Option.bind_some]
      rw [hfault]
      exact hbody slots hlength (closed_isOrdered.slots hj hslots)

end

end Source
end Json
end Testbench
