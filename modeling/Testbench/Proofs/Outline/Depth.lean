import Testbench.Outline.Codec
import Testbench.Proofs.Json.Record

/-!
# Depth — how deep documents nest

The named parts of a document nest seven levels deep at most, and its free-form parts stand as deep
in the value that a document is written as as in the value that it was read from. So a document
nests no deeper than what it was read from, unless that was very shallow.

- `Source.depth_lt_of_inside`   : a part is shallower than the whole;
- `Source.depth_array_le`, `Source.depth_values_le` : lists that were read item by item;
- `Document.depth_toJson_le`    : a document that was read.
-/

namespace Testbench

/-! ## Values and lists -/

namespace Json

theorem depth_object_le_iff {fields : List (String × Json)} {levels : Nat} :
    (Json.object fields).depth ≤ levels + 1 ↔ ∀ f ∈ fields, f.2.depth ≤ levels := by
  rw [depth, Nat.add_le_add_iff_right, depthFields_le_iff]

theorem depth_array_le_iff {items : List Json} {levels : Nat} :
    (Json.array items).depth ≤ levels + 1 ↔ ∀ j ∈ items, j.depth ≤ levels := by
  rw [depth, Nat.add_le_add_iff_right, depthItems_le_iff]

namespace Source

variable {β : Type}

theorem depth_lt_of_inside {j k : Json} (h : value.Inside j k) : k.depth < j.depth := by
  cases h with
  | @item items _ hlayer hk =>
      cases j with
      | array js =>
          have hitems : js = items := by simpa [value] using hlayer
          exact Nat.lt_succ_of_le ((depthItems_le_iff js).1 (Nat.le_refl _) k (hitems ▸ hk))
      | _ => simp [value] at hlayer
  | @field fields f hlayer hf =>
      cases j with
      | object fs =>
          have hfields : fs = fields := by simpa [value] using hlayer
          exact Nat.lt_succ_of_le ((depthFields_le_iff fs).1 (Nat.le_refl _) f (hfields ▸ hf))
      | _ => simp [value] at hlayer

/-- What stands in the slots of a record is shallower than the record. -/
theorem depth_slots_le {names : List String} {j : Json} {slots : List (Option Json)}
    (h : value.slots? names j = some slots) : ∀ slot ∈ slots, ∀ k ∈ slot, k.depth ≤ j.depth - 1 :=
  fun slot hslot k hk =>
    Nat.le_sub_one_of_lt (depth_lt_of_inside (inside_of_slots? h slot hslot k hk))

/-- Items that nest no deeper than what they were read from make up such a list. -/
theorem depth_array_le {read : Json → Option β} {write : β → Json} {own : Nat}
    (h : ∀ j y, read j = some y → (write y).depth ≤ max own j.depth) {slot : Option Json}
    {levels : Nat} (hslot : ∀ j ∈ slot, j.depth ≤ levels) {ys : List β}
    (hys : orDefault? (value.listOf? read) [] slot = some ys) :
    (Json.array (ys.map write)).depth ≤ max (own + 1) levels := by
  refine of_orDefault? (P := fun ys => (Json.array (ys.map write)).depth ≤ max (own + 1) levels) ?_
    (fun j hj ys hys => ?_) hys
  · exact Nat.le_trans (Nat.succ_le_succ (Nat.zero_le own)) (Nat.le_max_left _ _)
  · have hlevels := hslot j hj
    have hbound : max (own + 1) levels = max own (levels - 1) + 1 ∨ levels = 0 := by omega
    rcases hbound with hbound | hzero
    · rw [hbound, depth_array_le_iff, List.forall_mem_map]
      refine forall_of_listOf? (fun k hk y hy => ?_) hys
      have hlt := depth_lt_of_inside hk
      have hdepth := h k y hy
      omega
    · -- A value without parts gives an empty list.
      have hnone : ∀ y ∈ ys, False := forall_of_listOf? (fun k hk _ _ => by
        have hlt := depth_lt_of_inside hk
        omega) hys
      rw [List.eq_nil_iff_forall_not_mem.2 hnone]
      exact Nat.le_trans (Nat.succ_le_succ (Nat.zero_le own)) (Nat.le_max_left _ _)

/-- Free-form items stand as deep as they stood. -/
theorem depth_values_le {slot : Option Json} {levels : Nat} (hslot : ∀ j ∈ slot, j.depth ≤ levels)
    {ys : List Json} (hys : orDefault? (value.listOf? value.value?) [] slot = some ys) :
    (Json.array ys).depth ≤ max 1 levels := by
  have hread : ∀ j y, value.value? j = some y → (id y).depth ≤ max 0 j.depth := by
    intro j y h
    rw [← Option.some.inj h]
    exact Nat.le_max_right _ _
  have hdepth := depth_array_le hread hslot hys
  rwa [List.map_id] at hdepth

theorem depth_object?_le {j : Json} {fields : Fields} (h : value.object? j = some fields) :
    (Json.object fields).depth ≤ j.depth := by
  cases j with
  | object fs =>
      have hfields : fs = fields := by simpa [object?, value, fields?] using h
      rw [hfields]
  | _ => simp [object?, value] at h

end Source
end Json

/-! ## Documents -/

namespace Outline

open Json (Source)

theorem Step.depth_toJson (s : Step) : s.toJson.depth = 1 := rfl

theorem Field.depth_toJson (f : Field) : f.toJson.depth = 1 := rfl

theorem Function.depth_toJson_le (f : Function) : f.toJson.depth ≤ 3 := by
  have hsteps : (Json.array (f.steps.map Step.toJson)).depth ≤ 2 := by
    rw [Json.depth_array_le_iff, List.forall_mem_map]
    exact fun s _ => Nat.le_of_eq s.depth_toJson
  rw [Function.toJson, Json.depth_object_le_iff]
  simpa [Json.depth, Json.nat] using hsteps

theorem Function.depth_array_le (fs : List Function) :
    (Json.array (fs.map Function.toJson)).depth ≤ 4 := by
  rw [Json.depth_array_le_iff, List.forall_mem_map]
  exact fun f _ => f.depth_toJson_le

theorem Field.depth_array_le (fs : List Field) : (Json.array (fs.map Field.toJson)).depth ≤ 2 := by
  rw [Json.depth_array_le_iff, List.forall_mem_map]
  exact fun f _ => Nat.le_of_eq f.depth_toJson

theorem Control.depth_toJson_le {j : Json} {c : Control}
    (h : Control.decode? Source.value j = some c) : c.toJson.depth ≤ max 2 j.depth := by
  simp only [Control.decode?, Option.bind_eq_bind, Option.bind_eq_some_iff] at h
  rcases h with ⟨slots, hslots, h⟩
  have hslot := Source.depth_slots_le hslots
  split at h
  · simp only [Option.bind_eq_some_iff] at h
    rcases h with ⟨_, _, _, _, _, _, line, _, endline, _, fields, hfields, heq⟩
    -- The attributes are kept as they were, one level below.
    have hattributes : (Json.object fields).depth ≤ max 1 (j.depth - 1) := by
      refine Source.of_orDefault? (P := fun fields => (Json.object fields).depth ≤ _) ?_
        (fun k hk fields hread => ?_) hfields
      · exact Nat.le_max_left _ _
      · have hlevels := hslot _ (by simp) k hk
        have hdepth := Source.depth_object?_le hread
        omega
    rw [← Option.some.inj heq]
    have hbound : max 2 j.depth = max 1 (j.depth - 1) + 1 := by omega
    rw [hbound, Control.toJson, Json.depth_object_le_iff]
    simpa [Json.depth, Json.nat] using hattributes
  · simp at h

theorem Class.depth_toJson_le {j : Json} {c : Class} (h : Class.decode? Source.value j = some c) :
    c.toJson.depth ≤ max 5 j.depth := by
  simp only [Class.decode?, Option.bind_eq_bind, Option.bind_eq_some_iff] at h
  rcases h with ⟨slots, hslots, h⟩
  have hslot := Source.depth_slots_le hslots
  split at h
  · simp only [Option.bind_eq_some_iff] at h
    rcases h with ⟨_, _, _, _, _, _, _, _, line, _, endline, _, _, _, bases, hbases, fields, _,
      functions, _, controls, hcontrols, heq⟩
    have hbase := Source.depth_values_le (hslot _ (by simp)) hbases
    have hfield := Field.depth_array_le fields
    have hfunction := Function.depth_array_le functions
    have hcontrol := Source.depth_array_le (fun _ _ => Control.depth_toJson_le) (hslot _ (by simp))
      hcontrols
    -- Each part was one level below, and is written there.
    have hbound : max 5 j.depth = max 4 (j.depth - 1) + 1 := by omega
    rw [← Option.some.inj heq, hbound, Class.toJson, Json.depth_object_le_iff]
    simp only [List.forall_mem_cons, Json.depth, Json.nat] at hbase hfield hfunction hcontrol ⊢
    refine ⟨?_, ?_, ?_, ?_, ?_, ?_, ?_, ?_, ?_, fun _ hf => absurd hf List.not_mem_nil⟩
    all_goals omega
  · simp at h

/-- A document is written no deeper than the value that it was read from, unless that nests less
than the named parts of a document do. -/
theorem Document.depth_toJson_le {j : Json} {d : Document} (h : Document.ofJson? j = some d) :
    d.toJson.depth ≤ max 7 j.depth := by
  simp only [Document.ofJson?, Document.decode?, Option.bind_eq_bind, Option.bind_eq_some_iff] at h
  rcases h with ⟨slots, hslots, h⟩
  have hslot := Source.depth_slots_le hslots
  split at h
  · simp only [Option.bind_eq_some_iff] at h
    rcases h with ⟨docstring, _, classes, hclasses, functions, _, errors, herrors, heq⟩
    have hclass := Source.depth_array_le (fun _ _ => Class.depth_toJson_le) (hslot _ (by simp))
      hclasses
    have hfunction := Function.depth_array_le functions
    have herror := Source.depth_values_le (hslot _ (by simp)) herrors
    -- Each part was one level below, and is written there.
    have hbound : max 7 j.depth = max 6 (j.depth - 1) + 1 := by omega
    have hparts : ∀ f ∈ [("classes", Json.array (classes.map Class.toJson)),
        ("functions", .array (functions.map Function.toJson)), ("errors", .array errors)],
        f.2.depth ≤ max 6 (j.depth - 1) := by
      simp only [List.forall_mem_cons]
      refine ⟨?_, ?_, ?_, fun _ hf => absurd hf List.not_mem_nil⟩
      all_goals omega
    rw [← Option.some.inj heq, hbound, Document.toJson, Json.depth_object_le_iff]
    cases docstring with
    | none => exact hparts
    | some s => exact List.forall_mem_cons.2 ⟨Nat.zero_le _, hparts⟩
  · simp at h

end Outline
end Testbench
