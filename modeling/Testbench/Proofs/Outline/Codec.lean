import Testbench.Outline.Codec
import Testbench.Proofs.Json.Record

/-!
# Codec — documents that are written and read again

A document that was read has lines below the bound, and its free-form parts are ordered. Such a
document is read back as it was from the arranged form of what it is written as.

- `Document.freeForm`          : the free-form values of a document;
- `Document.InRange`           : all lines are below the bound;
- `Document.decode?_sound`     : what is read from any source is sound;
- `Document.ofJson?_arrange`   : what is read from an arranged document;
- `Document.isWhole_toJson`    : its numbers are integers of 64 bits if the free-form ones are.
-/

namespace Testbench
namespace Outline

open Json (Source)

/-! ## Lines and free-form values -/

def Step.InRange (s : Step) : Prop := s.line < Text.lineBound ∧ s.endline < Text.lineBound

def Function.InRange (f : Function) : Prop :=
  f.line < Text.lineBound ∧ f.endline < Text.lineBound ∧ ∀ s ∈ f.steps, s.InRange

def Field.InRange (f : Field) : Prop := f.line < Text.lineBound

def Control.InRange (c : Control) : Prop := c.line < Text.lineBound ∧ c.endline < Text.lineBound

def Class.InRange (c : Class) : Prop :=
  c.line < Text.lineBound ∧ c.endline < Text.lineBound ∧ (∀ f ∈ c.fields, f.InRange) ∧
    (∀ f ∈ c.functions, f.InRange) ∧ ∀ k ∈ c.controls, k.InRange

/-- Every line is below the bound of lines. -/
def Document.InRange (d : Document) : Prop :=
  (∀ c ∈ d.classes, c.InRange) ∧ ∀ f ∈ d.functions, f.InRange

/-- The bases of a class and the attributes of its controls. -/
def Class.freeForm (c : Class) : List Json :=
  c.bases ++ c.controls.map fun k => .object k.attributes

/-- The parts of a document that may be any value. -/
def Document.freeForm (d : Document) : List Json := d.classes.flatMap Class.freeForm ++ d.errors

/-- What holds of every document that was read: lines are in range and free-form parts ordered. -/
structure Document.IsSound (d : Document) : Prop where
  inRange : d.InRange
  ordered : ∀ j ∈ d.freeForm, j.IsOrdered

/-! ## Reading what was written -/

theorem line?_nat {n : Nat} (h : n < Text.lineBound) : line? Source.value (.nat n) = some n := by
  simp [line?, Source.natBelow?, Source.value, Json.nat, h]

@[simp] theorem text?_text (s : String) : Source.value.text? (.text s) = some s := rfl

@[simp] theorem bool?_bool (b : Bool) : Source.value.bool? (.bool b) = some b := rfl

theorem Step.decode?_arrange {s : Step} (h : s.InRange) :
    Step.decode? Source.value s.toJson.arrange = some s := by
  have hline := line?_nat h.1
  have hendline := line?_nat h.2
  rw [Step.decode?, Step.toJson, Source.slots?_arrange (by simp)]
  simp [Keyed.get?_cons, Source.orDefault?, Json.arrange, Json.nat] at hline hendline ⊢
  simp [hline, hendline]

theorem Function.decode?_arrange {f : Function} (h : f.InRange) :
    Function.decode? Source.value f.toJson.arrange = some f := by
  have hline := line?_nat h.1
  have hendline := line?_nat h.2.1
  have hsteps := Source.listOf?_arrange Step.toJson (Step.decode? Source.value)
    fun s hs => Step.decode?_arrange (h.2.2 s hs)
  rw [Function.decode?, Function.toJson, Source.slots?_arrange (by simp)]
  simp [Keyed.get?_cons, Source.orDefault?, Json.arrange, Json.nat] at hline hendline hsteps ⊢
  simp [hline, hendline, hsteps]

theorem Field.decode?_arrange {f : Field} (h : f.InRange) :
    Field.decode? Source.value f.toJson.arrange = some f := by
  have hline := line?_nat h
  have hitems : Source.value.items? f.toJson.arrange = some [.text f.name, .text f.value,
      .nat f.line] := by
    simp [Source.items?, Source.value, Field.toJson, Json.arrange, Json.arrangeItems, Json.nat]
  simp [Field.decode?, hitems, hline]

theorem Control.decode?_arrange {c : Control} (h : c.InRange)
    (ho : (Json.object c.attributes).IsOrdered) :
    Control.decode? Source.value c.toJson.arrange = some c := by
  have hline := line?_nat h.1
  have hendline := line?_nat h.2
  have hattributes : Source.value.object? (Json.object c.attributes).arrange =
      some c.attributes := by
    rw [Json.arrange_eq_self _ ho]
    rfl
  rw [Control.decode?, Control.toJson, Source.slots?_arrange (by simp)]
  simp [Keyed.get?_cons, Source.orDefault?, Json.arrange, Json.nat] at hline hendline hattributes ⊢
  simp [hline, hendline, hattributes]

theorem Class.decode?_arrange {c : Class} (h : c.InRange) (ho : ∀ j ∈ c.freeForm, j.IsOrdered) :
    Class.decode? Source.value c.toJson.arrange = some c := by
  rcases h with ⟨hfirst, hlast, hfields, hfunctions, hcontrols⟩
  have hline := line?_nat hfirst
  have hendline := line?_nat hlast
  have hbases := Source.listOf?_value_arrange (l := c.bases) fun j hj =>
    ho j (List.mem_append_left _ hj)
  have hfs := Source.listOf?_arrange Field.toJson (Field.decode? Source.value)
    fun f hf => Field.decode?_arrange (hfields f hf)
  have hms := Source.listOf?_arrange Function.toJson (Function.decode? Source.value)
    fun f hf => Function.decode?_arrange (hfunctions f hf)
  have hcs := Source.listOf?_arrange Control.toJson (Control.decode? Source.value)
    fun k hk => Control.decode?_arrange (hcontrols k hk)
        (ho _ (List.mem_append_right _ (List.mem_map.2 ⟨k, hk, rfl⟩)))
  rw [Class.decode?, Class.toJson, Source.slots?_arrange (by simp)]
  simp [Keyed.get?_cons, Source.orDefault?, Json.arrange, Json.nat]
    at hline hendline hbases hfs hms hcs ⊢
  simp [hline, hendline, hbases, hfs, hms, hcs]

/-- A sound document is read back from the arranged form of what it is written as. -/
theorem Document.ofJson?_arrange {d : Document} (h : d.IsSound) :
    Document.ofJson? d.toJson.arrange = some d := by
  have hclasses := Source.listOf?_arrange Class.toJson (Class.decode? Source.value)
    fun c hc => Class.decode?_arrange (h.inRange.1 c hc)
      fun j hj => h.ordered j (List.mem_append_left _ (List.mem_flatMap.2 ⟨c, hc, hj⟩))
  have hfunctions := Source.listOf?_arrange Function.toJson (Function.decode? Source.value)
    fun f hf => Function.decode?_arrange (h.inRange.2 f hf)
  have herrors := Source.listOf?_value_arrange (l := d.errors) fun j hj =>
    h.ordered j (List.mem_append_right _ hj)
  rcases d with ⟨docstring, classes, functions, errors⟩
  -- A missing docstring is not written, and read as missing.
  cases docstring with
  | none =>
      rw [Document.ofJson?, Document.decode?, Document.toJson, Source.slots?_arrange (by simp)]
      simp [Keyed.get?_cons, Source.orDefault?, Json.arrange] at hclasses hfunctions herrors ⊢
      simp [hclasses, hfunctions, herrors]
  | some s =>
      have hs : Source.value.nullable? Source.value.text? (.text s) = some (some s) := rfl
      rw [Document.ofJson?, Document.decode?, Document.toJson, Source.slots?_arrange (by simp)]
      simp [Keyed.get?_cons, Source.orDefault?, Json.arrange] at hclasses hfunctions herrors ⊢
      simp [hclasses, hfunctions, herrors, hs]

/-! ## What is read from any source -/

section

variable {α : Type} {src : Source α}

theorem lt_of_line? {x : α} {n : Nat} (h : line? src x = some n) : n < Text.lineBound := by
  simp only [line?, Source.natBelow?, Option.bind_eq_bind, Option.bind_eq_some_iff] at h
  rcases h with ⟨layer, _, h⟩
  split at h
  · split at h
    · rename_i hlt
      rwa [← Option.some.inj h]
    · simp at h
  · simp at h

theorem lt_of_orDefault?_line? {slot : Option α} {n : Nat}
    (h : Source.orDefault? (line? src) 0 slot = some n) : n < Text.lineBound :=
  Source.of_orDefault? (P := fun n => n < Text.lineBound) (by decide) (fun _ _ _ => lt_of_line?) h

/-- The items of a list that may be left out. -/
theorem forall_of_orDefault?_listOf? {β : Type} {read : α → Option β} {P : β → Prop}
    (h : ∀ x y, read x = some y → P y) {slot : Option α} {ys : List β}
    (hys : Source.orDefault? (src.listOf? read) [] slot = some ys) : ∀ y ∈ ys, P y :=
  Source.closed_true.forall_of_orDefault? (fun x y _ => h x y) (fun _ _ => trivial) hys

theorem Step.decode?_inRange {x : α} {s : Step} (h : Step.decode? src x = some s) : s.InRange := by
  simp only [Step.decode?, Option.bind_eq_bind, Option.bind_eq_some_iff] at h
  rcases h with ⟨slots, _, h⟩
  split at h
  · simp only [Option.bind_eq_some_iff] at h
    rcases h with ⟨_, _, _, _, _, _, _, _, line, hline, endline, hendline, heq⟩
    rw [← Option.some.inj heq]
    exact ⟨lt_of_line? hline, lt_of_orDefault?_line? hendline⟩
  · simp at h

theorem Function.decode?_inRange {x : α} {f : Function} (h : Function.decode? src x = some f) :
    f.InRange := by
  simp only [Function.decode?, Option.bind_eq_bind, Option.bind_eq_some_iff] at h
  rcases h with ⟨slots, _, h⟩
  split at h
  · simp only [Option.bind_eq_some_iff] at h
    rcases h with ⟨_, _, _, _, _, _, _, _, line, hline, endline, hendline, steps, hsteps, heq⟩
    rw [← Option.some.inj heq]
    exact ⟨lt_of_line? hline, lt_of_orDefault?_line? hendline,
      forall_of_orDefault?_listOf? (fun _ _ => Step.decode?_inRange) hsteps⟩
  · simp at h

theorem Field.decode?_inRange {x : α} {f : Field} (h : Field.decode? src x = some f) :
    f.InRange := by
  simp only [Field.decode?, Option.bind_eq_bind, Option.bind_eq_some_iff] at h
  rcases h with ⟨items, _, h⟩
  split at h
  · simp only [Option.bind_eq_some_iff] at h
    rcases h with ⟨_, _, _, _, line, hline, heq⟩
    rw [← Option.some.inj heq]
    exact lt_of_line? hline
  · simp at h

variable {good : α → Prop} (hclosed : src.Closed good)
  (hsrc : ∀ x j, good x → src.value? x = some j → j.IsOrdered)

include hsrc

theorem isOrdered_of_object? {x : α} (hx : good x) {fields : Json.Fields}
    (h : src.object? x = some fields) : (Json.object fields).IsOrdered := by
  simp only [Source.object?, Option.bind_eq_bind, Option.bind_eq_some_iff] at h
  rcases h with ⟨layer, _, h⟩
  split at h
  · simp only [Option.bind_eq_some_iff] at h
    rcases h with ⟨j, hj, hfields⟩
    cases j with
    | object fs =>
        have heq : fs = fields := by simpa [Json.fields?] using hfields
        rw [← heq]
        exact hsrc x _ hx hj
    | _ => simp [Json.fields?] at hfields
  · simp at h

include hclosed

theorem Control.decode?_sound {x : α} {c : Control} (hx : good x)
    (h : Control.decode? src x = some c) : c.InRange ∧ (Json.object c.attributes).IsOrdered := by
  simp only [Control.decode?, Option.bind_eq_bind, Option.bind_eq_some_iff] at h
  rcases h with ⟨slots, hslots, h⟩
  have hgood := hclosed.slots hx hslots
  split at h
  · simp only [Option.bind_eq_some_iff] at h
    rcases h with ⟨_, _, _, _, _, _, line, hline, endline, hendline, fields, hfields, heq⟩
    rw [← Option.some.inj heq]
    refine ⟨⟨lt_of_line? hline, lt_of_orDefault?_line? hendline⟩, ?_⟩
    have hnil : (Json.object []).IsOrdered := ⟨List.Pairwise.nil, trivial⟩
    exact Source.of_orDefault? (P := fun fields => (Json.object fields).IsOrdered) hnil
      (fun x hx _ => isOrdered_of_object? hsrc (hgood _ (by simp) x hx)) hfields
  · simp at h

theorem Class.decode?_sound {x : α} {c : Class} (hx : good x) (h : Class.decode? src x = some c) :
    c.InRange ∧ ∀ j ∈ c.freeForm, j.IsOrdered := by
  simp only [Class.decode?, Option.bind_eq_bind, Option.bind_eq_some_iff] at h
  rcases h with ⟨slots, hslots, h⟩
  have hgood := hclosed.slots hx hslots
  split at h
  · simp only [Option.bind_eq_some_iff] at h
    rcases h with ⟨_, _, _, _, _, _, _, _, line, hline, endline, hendline, _, _, bases, hbases,
      fields, hfields, functions, hfunctions, controls, hcontrols, heq⟩
    -- Every part was read from a slot of the value, which is good as the value is.
    have hbase := hclosed.forall_of_orDefault? hsrc (hgood _ (by simp)) hbases
    have hcontrol := hclosed.forall_of_orDefault? (fun _ _ => Control.decode?_sound hclosed hsrc)
      (hgood _ (by simp)) hcontrols
    rw [← Option.some.inj heq]
    refine ⟨⟨lt_of_line? hline, lt_of_orDefault?_line? hendline,
      forall_of_orDefault?_listOf? (fun _ _ => Field.decode?_inRange) hfields,
      forall_of_orDefault?_listOf? (fun _ _ => Function.decode?_inRange) hfunctions,
      fun k hk => (hcontrol k hk).1⟩, ?_⟩
    intro j hj
    rcases List.mem_append.1 hj with hbases | hattributes
    · exact hbase j hbases
    · rcases List.mem_map.1 hattributes with ⟨k, hk, rfl⟩
      exact (hcontrol k hk).2
  · simp at h

/-- Whatever is read as a document from a good value is sound. -/
theorem Document.decode?_sound {x : α} {d : Document} (hx : good x)
    (h : Document.decode? src x = some d) : d.IsSound := by
  simp only [Document.decode?, Option.bind_eq_bind, Option.bind_eq_some_iff] at h
  rcases h with ⟨slots, hslots, h⟩
  have hgood := hclosed.slots hx hslots
  split at h
  · simp only [Option.bind_eq_some_iff] at h
    rcases h with ⟨_, _, classes, hclasses, functions, hfunctions, errors, herrors, heq⟩
    -- Every part was read from a slot of the value, which is good as the value is.
    have hclass := hclosed.forall_of_orDefault? (fun _ _ => Class.decode?_sound hclosed hsrc)
      (hgood _ (by simp)) hclasses
    have herror := hclosed.forall_of_orDefault? hsrc (hgood _ (by simp)) herrors
    rw [← Option.some.inj heq]
    refine ⟨⟨fun c hc => (hclass c hc).1,
      forall_of_orDefault?_listOf? (fun _ _ => Function.decode?_inRange) hfunctions⟩, ?_⟩
    intro j hj
    rcases List.mem_append.1 hj with hfree | herrors
    · rcases List.mem_flatMap.1 hfree with ⟨c, hc, hjc⟩
      exact (hclass c hc).2 j hjc
    · exact herror j herrors
  · simp at h

end

/-- What is read from an ordered value is sound. -/
theorem Document.ofJson?_sound {j : Json} {d : Document} (hj : j.IsOrdered)
    (h : Document.ofJson? j = some d) : d.IsSound := by
  refine Document.decode?_sound Source.closed_isOrdered ?_ hj h
  intro i k hi hk
  exact Option.some.inj hk ▸ hi

/-- What is read from a text is sound. -/
theorem Document.ofText?_sound {s : String} {d : Document} (h : Document.ofText? s = some d) :
    d.IsSound := by
  simp only [Document.ofText?, Option.bind_eq_bind, Option.bind_eq_some_iff] at h
  rcases h with ⟨draft, _, h⟩
  refine Document.decode?_sound Source.closed_true ?_ trivial h
  intro x j _ hj
  exact Json.Draft.isOrdered_of_value? x.2 x.1 j hj

/-! ## Numbers of a written document -/

theorem isWhole_nat {n : Nat} (h : n < 2 ^ 64) : (Json.nat n).IsWhole := by
  refine ⟨?_, by exact_mod_cast h⟩
  omega

theorem isWhole_line {n : Nat} (h : n < Text.lineBound) : (Json.nat n).IsWhole := by
  have hbound : Text.lineBound = 2 ^ 32 := rfl
  exact isWhole_nat (by omega)

theorem isWhole_array {α : Type} {write : α → Json} {l : List α} (h : ∀ x ∈ l, (write x).IsWhole) :
    (Json.array (l.map write)).IsWhole := by
  refine (Json.areWholeItems_iff _).2 ?_
  intro j hj
  rcases List.mem_map.1 hj with ⟨x, hx, rfl⟩
  exact h x hx

theorem Step.isWhole_toJson {s : Step} (h : s.InRange) : s.toJson.IsWhole :=
  ⟨trivial, trivial, isWhole_line h.1, isWhole_line h.2, trivial⟩

theorem Function.isWhole_toJson {f : Function} (h : f.InRange) : f.toJson.IsWhole :=
  ⟨trivial, trivial, isWhole_line h.1, isWhole_line h.2.1,
    isWhole_array fun s hs => Step.isWhole_toJson (h.2.2 s hs), trivial⟩

theorem Field.isWhole_toJson {f : Field} (h : f.InRange) : f.toJson.IsWhole :=
  ⟨trivial, trivial, isWhole_line h, trivial⟩

theorem Control.isWhole_toJson {c : Control} (h : c.InRange)
    (hw : (Json.object c.attributes).IsWhole) : c.toJson.IsWhole :=
  ⟨trivial, isWhole_line h.1, isWhole_line h.2, hw, trivial⟩

theorem Class.isWhole_toJson {c : Class} (h : c.InRange) (hw : ∀ j ∈ c.freeForm, j.IsWhole) :
    c.toJson.IsWhole := by
  rcases h with ⟨hline, hendline, hfields, hfunctions, hcontrols⟩
  have hbases : (Json.array c.bases).IsWhole :=
    (Json.areWholeItems_iff _).2 fun j hj => hw j (List.mem_append_left _ hj)
  refine ⟨trivial, trivial, isWhole_line hline, isWhole_line hendline, trivial, hbases,
    isWhole_array fun f hf => Field.isWhole_toJson (hfields f hf),
    isWhole_array fun f hf => Function.isWhole_toJson (hfunctions f hf),
    isWhole_array fun k hk => Control.isWhole_toJson (hcontrols k hk) ?_, trivial⟩
  exact hw _ (List.mem_append_right _ (List.mem_map.2 ⟨k, hk, rfl⟩))

/-- All numbers of a document are integers of 64 bits if those of its free-form parts are. -/
theorem Document.isWhole_toJson {d : Document} (h : d.InRange)
    (hw : ∀ j ∈ d.freeForm, j.IsWhole) : d.toJson.IsWhole := by
  have hclasses : (Json.array (d.classes.map Class.toJson)).IsWhole :=
    isWhole_array fun c hc => Class.isWhole_toJson (h.1 c hc) fun j hj =>
      hw j (List.mem_append_left _ (List.mem_flatMap.2 ⟨c, hc, hj⟩))
  have hfunctions : (Json.array (d.functions.map Function.toJson)).IsWhole :=
    isWhole_array fun f hf => Function.isWhole_toJson (h.2 f hf)
  have herrors : (Json.array d.errors).IsWhole :=
    (Json.areWholeItems_iff _).2 fun j hj => hw j (List.mem_append_right _ hj)
  rcases d with ⟨docstring, classes, functions, errors⟩
  cases docstring with
  | none => exact ⟨hclasses, hfunctions, herrors, trivial⟩
  | some s => exact ⟨trivial, hclasses, hfunctions, herrors, trivial⟩

end Outline
end Testbench
