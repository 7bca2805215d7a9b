import Testbench.Json.Record
import Testbench.Proofs.Json.Shape

/-!
# Record — what is read from records and lists

A record is read slot by slot and a list item by item, from whatever source.

- `Source.slots?_arrange`  : the slots of an object that was written and arranged;
- `Source.listOf?_arrange` : the items of a list that was written and arranged;
- `Source.Closed`          : the parts of a good value are good;
- `Source.Inside`          : what stands in slots and lists is part of the value.
-/

namespace Testbench
namespace Json
namespace Source

/-! ## Records -/

theorem slot?_of_nodup {α : Type} {fields : List (String × α)} (h : (fields.map (·.1)).Nodup)
    (name : String) : slot? fields name = some (Keyed.get? fields name) := by
  induction fields with
  | nil => rfl
  | cons f rest ih =>
      have hnodup := List.nodup_cons.1 (by simpa using h : (f.1 :: rest.map (·.1)).Nodup)
      by_cases hf : f.1 = name
      · have hrest : rest.filter (fun g => g.1 == name) = [] := by
          rw [List.filter_eq_nil_iff]
          intro g hg heq
          have hgname : g.1 = name := by simpa using heq
          exact hnodup.1 (List.mem_map.2 ⟨g, hg, by rw [hgname, hf]⟩)
        simp [slot?, hf, hrest, Keyed.get?_cons]
      · have hslot : slot? (f :: rest) name = slot? rest name := by
          simp [slot?, hf]
        rw [hslot, ih hnodup.2, Keyed.get?_cons, if_neg hf]

/-- The slots of an object are the fields of the names. -/
theorem slots?_object {fields : Fields} (h : (fields.map (·.1)).Nodup) (names : List String) :
    value.slots? names (.object fields) = some (names.map (Keyed.get? fields)) := by
  change slotsOfFields? fields names = _
  unfold slotsOfFields?
  induction names with
  | nil => rfl
  | cons name names ih => simp [List.mapM_cons, slot?_of_nodup h, ih]

/-- The fields of a record whose keys differ, after arranging. -/
theorem slots?_arrange {fields : List (String × Json)} (h : (fields.map (·.1)).Nodup)
    (names : List String) :
    value.slots? names (Json.object fields).arrange =
      some (names.map fun name => (Keyed.get? fields name).map arrange) := by
  have hkeys : ((arrangeFields fields).map (·.1)).Nodup := by
    simpa [arrangeFields_eq_map, Function.comp_def] using h
  have hget : ∀ name, Keyed.get? (Keyed.ofList (arrangeFields fields)) name =
      (Keyed.get? fields name).map arrange := fun name => by
    rw [Keyed.get?_ofList, Keyed.get?_reverse hkeys, arrangeFields_eq_map, Keyed.get?_map]
  rw [arrange, Fields.ofList_eq, slots?_object (Keyed.sorted_ofList _).nodup_keys]
  exact congrArg some (List.map_congr_left fun name _ => hget name)

/-! ## Lists -/

theorem mapM_map_eq_some {α β : Type} {write : α → β} {read : β → Option α} {l : List α}
    (h : ∀ x ∈ l, read (write x) = some x) : (l.map write).mapM read = some l := by
  induction l with
  | nil => rfl
  | cons x l ih =>
      have hx := h x (by simp)
      have hl := ih fun y hy => h y (List.mem_cons_of_mem _ hy)
      rw [List.map_cons, List.mapM_cons, hx, hl]
      rfl

theorem forall_of_mapM {α β : Type} {read : α → Option β} {P : β → Prop} {xs : List α}
    (h : ∀ x ∈ xs, ∀ y, read x = some y → P y) {ys : List β} (hys : xs.mapM read = some ys) :
    ∀ y ∈ ys, P y := by
  induction xs generalizing ys with
  | nil =>
      have hnil : [] = ys := by simpa using hys
      simp [← hnil]
  | cons x xs ih =>
      simp only [List.mapM_cons, Option.bind_eq_bind, Option.bind_eq_some_iff, Option.pure_def]
        at hys
      rcases hys with ⟨y, hy, zs, hzs, heq⟩
      rw [← Option.some.inj heq]
      intro z hz
      rcases List.mem_cons.1 hz with rfl | hz
      · exact h x (by simp) z hy
      · exact ih (fun x hx => h x (List.mem_cons_of_mem _ hx)) hzs z hz

/-- Read back a list that was written item by item. -/
theorem listOf?_arrange {α : Type} (write : α → Json) (read : Json → Option α) {l : List α}
    (h : ∀ x ∈ l, read (write x).arrange = some x) :
    value.listOf? read (Json.array (l.map write)).arrange = some l := by
  have hmap : arrangeItems (l.map write) = l.map fun x => (write x).arrange := by
    simp [arrangeItems_eq_map, Function.comp_def]
  simpa [listOf?, items?, value, arrange, hmap] using mapM_map_eq_some h

/-- Free-form values that are ordered are read as they are. -/
theorem listOf?_value_arrange {l : List Json} (h : ∀ j ∈ l, j.IsOrdered) :
    value.listOf? value.value? (Json.array l).arrange = some l := by
  have hread := listOf?_arrange id value.value? (l := l) (by
    intro j hj
    simp [value, arrange_eq_self j (h j hj)])
  simpa using hread

/-! ## Good values -/

variable {α β : Type} {src : Source α} {good : α → Prop}

/-- The parts of a good value are good. -/
structure Closed (src : Source α) (good : α → Prop) : Prop where
  items : ∀ x items, good x → src.layer? x = some (.array items) → ∀ y ∈ items, good y
  fields : ∀ x fields, good x → src.layer? x = some (.object fields) → ∀ f ∈ fields, good f.2

theorem closed_true : src.Closed fun _ => True :=
  ⟨fun _ _ _ _ _ _ => trivial, fun _ _ _ _ _ _ => trivial⟩

/-- The parts of an ordered value are ordered. -/
theorem closed_isOrdered : value.Closed Json.IsOrdered := by
  constructor
  · intro j items hj hlayer
    cases j with
    | array js =>
        have hitems : js = items := by simpa [value] using hlayer
        exact hitems ▸ (areOrderedItems_iff js).1 hj
    | _ => simp [value] at hlayer
  · intro j fields hj hlayer
    cases j with
    | object fs =>
        have hfields : fs = fields := by simpa [value] using hlayer
        exact hfields ▸ (areOrderedFields_iff fs).1 hj.2
    | _ => simp [value] at hlayer

theorem mem_of_slot? {fields : List (String × α)} {name : String} {slot : Option α}
    (h : slot? fields name = some slot) {y : α} (hy : y ∈ slot) : ∃ f ∈ fields, f.2 = y := by
  unfold slot? at h
  split at h
  · rw [← Option.some.inj h] at hy
    simp at hy
  · rename_i f hfilter
    have hf : f ∈ fields.filter fun f => f.1 == name := by simp [hfilter]
    rw [← Option.some.inj h] at hy
    exact ⟨f, (List.mem_filter.1 hf).1, Option.some.inj hy⟩
  · simp at h

/-- A part of a value, one layer down. -/
inductive Inside (src : Source α) (x : α) : α → Prop where
  | item {items : List α} {y : α} (h : src.layer? x = some (.array items)) (hy : y ∈ items) :
      Inside src x y
  | field {fields : List (String × α)} {f : String × α} (h : src.layer? x = some (.object fields))
      (hf : f ∈ fields) : Inside src x f.2

theorem Closed.inside (hsrc : src.Closed good) {x y : α} (hx : good x) (h : src.Inside x y) :
    good y := by
  cases h with
  | item hlayer hy => exact hsrc.items x _ hx hlayer y hy
  | field hlayer hf => exact hsrc.fields x _ hx hlayer _ hf

/-- What stands in the slots of a record is part of it. -/
theorem inside_of_slots? {names : List String} {x : α} {slots : List (Option α)}
    (h : src.slots? names x = some slots) : ∀ slot ∈ slots, ∀ y ∈ slot, src.Inside x y := by
  simp only [slots?, Option.bind_eq_bind, Option.bind_eq_some_iff] at h
  rcases h with ⟨layer, hlayer, h⟩
  split at h
  -- An object gives its fields to the slots, an array its items and nothing after the last one.
  · refine forall_of_mapM (fun name _ slot hslot y hy => ?_) h
    rcases mem_of_slot? hslot hy with ⟨f, hf, rfl⟩
    exact .field hlayer hf
  · rename_i items
    unfold slotsOfItems? at h
    split at h
    · simp at h
    · rw [← Option.some.inj h]
      intro slot hslot y hy
      rcases List.mem_append.1 hslot with hitem | hpad
      · rcases List.mem_map.1 hitem with ⟨z, hz, rfl⟩
        exact Option.some.inj hy ▸ .item hlayer hz
      · simp [List.eq_of_mem_replicate hpad] at hy
  · simp at h

/-- What stands in the slots of a good record is good. -/
theorem Closed.slots (hsrc : src.Closed good) {names : List String} {x : α} (hx : good x)
    {slots : List (Option α)} (h : src.slots? names x = some slots) :
    ∀ slot ∈ slots, ∀ y ∈ slot, good y :=
  fun slot hslot y hy => hsrc.inside hx (inside_of_slots? h slot hslot y hy)

theorem inside_of_items? {x : α} {items : List α} (h : src.items? x = some items) :
    ∀ y ∈ items, src.Inside x y := by
  simp only [items?, Option.bind_eq_bind, Option.bind_eq_some_iff] at h
  rcases h with ⟨layer, hlayer, h⟩
  split at h
  · rw [← Option.some.inj h]
    exact fun y hy => .item hlayer hy
  · simp at h

/-- The items of a list that is read item by item. -/
theorem forall_of_listOf? {read : α → Option β} {P : β → Prop} {x : α}
    (h : ∀ y, src.Inside x y → ∀ z, read y = some z → P z) {ys : List β}
    (hys : src.listOf? read x = some ys) : ∀ y ∈ ys, P y := by
  simp only [listOf?, Option.bind_eq_bind, Option.bind_eq_some_iff] at hys
  rcases hys with ⟨xs, hitems, hxs⟩
  exact forall_of_mapM (fun y hy => h y (inside_of_items? hitems y hy)) hxs

theorem Closed.forall_of_listOf? (hsrc : src.Closed good) {read : α → Option β} {P : β → Prop}
    (h : ∀ x y, good x → read x = some y → P y) {x : α} (hx : good x) {ys : List β}
    (hys : src.listOf? read x = some ys) : ∀ y ∈ ys, P y :=
  Source.forall_of_listOf? (fun y hy z => h y z (hsrc.inside hx hy)) hys

/-- A slot with a default holds what was read, or the default. -/
theorem of_orDefault? {read : α → Option β} {default : β} {P : β → Prop} {slot : Option α}
    (hdefault : P default) (h : ∀ x ∈ slot, ∀ y, read x = some y → P y) {y : β}
    (hy : orDefault? read default slot = some y) : P y := by
  cases slot with
  | none =>
      have heq : default = y := by simpa [orDefault?] using hy
      rwa [← heq]
  | some x => exact h x rfl y hy

/-- The items of a list that may be left out. -/
theorem Closed.forall_of_orDefault? (hsrc : src.Closed good) {read : α → Option β} {P : β → Prop}
    (h : ∀ x y, good x → read x = some y → P y) {slot : Option α} (hslot : ∀ x ∈ slot, good x)
    {ys : List β} (hys : orDefault? (src.listOf? read) [] slot = some ys) : ∀ y ∈ ys, P y :=
  of_orDefault? (P := fun ys => ∀ y ∈ ys, P y) (by simp)
    (fun x hx _ => hsrc.forall_of_listOf? h (hslot x hx)) hys

end Source
end Json
end Testbench
