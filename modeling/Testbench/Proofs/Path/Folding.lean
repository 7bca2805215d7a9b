import Mathlib.Logic.Relation
import Testbench.Proofs.Files.Walk

/-!
# Folding — the folder that a spelling names

Two absolute spellings name one folder if the one can be rewritten into the other: idle segments are
nothing, a name and the `..` after it cancel out, and `..` at the root is the root. Folding decides
this when it drops what cannot be climbed. When it keeps it, a first `..` at the root is put down as
a name, a second one takes that back, and so on; the spelling then matters by whether the root was
overshot an odd number of times.

- `Path.Respells`, `SameFolder` : rewritings, and spellings of one folder;
- `Path.overshoots`, `overshot` : steps above the root, and what is left of them;
- `foldKeeping_eq`              : what is kept;
- `foldKeeping_eq_iff`, `foldKeeping_eq_fold_iff` : when nothing is lost by keeping it;
- `Path.IsKept`                 : folded paths, which stay as they are;
- `Path.descent`, `fold_joinText_of_descent` : how deep below a folder a spelling leads.
-/

namespace Testbench
namespace Path

open FileTree (climb climb_idle climb_name climb_up fold_eq_ofNames_climb isIdle isIdle_of_isName
  segmentsOf segmentsOf_absolute segment_cases)

/-! ## Spellings of one folder -/

/-- One rewriting of segments, from the root down. -/
inductive Respells : List String → List String → Prop where
  /-- An empty segment and `.` are nothing. -/
  | idle (front : List String) {segment : String} (back : List String) :
      isIdle segment = true → Respells (front ++ segment :: back) (front ++ back)
  /-- A name and the `..` after it cancel out. -/
  | cancel (front : List String) {name : String} (back : List String) :
      isIdle name = false → name ≠ ".." → Respells (front ++ name :: ".." :: back) (front ++ back)
  /-- Above the root is the root. -/
  | root (back : List String) : Respells (".." :: back) back

/-- Two absolute spellings of one folder. -/
def SameFolder (p q : Path) : Prop := Relation.EqvGen Respells (segmentsOf p) (segmentsOf q)

theorem climb_append (here : Location) (front back : List String) :
    climb here (front ++ back) = climb (climb here front) back := by
  induction front generalizing here with
  | nil => rfl
  | cons segment rest ih =>
      rw [List.cons_append, climb, climb]
      split
      · exact ih here
      · split
        · exact ih here.dropLast
        · exact ih (here ++ [segment])

theorem Respells.climb_eq {segments segments' : List String} (h : Respells segments segments') :
    climb [] segments = climb [] segments' := by
  cases h with
  | idle front back hidle => rw [climb_append, climb_append, climb_idle hidle]
  | cancel front back hname hup =>
      rw [climb_append, climb_append, climb_name hname hup, climb_up, List.dropLast_concat]
  | root back => exact climb_up [] segments'

/-- Segments can be rewritten into the names that they lead to. -/
theorem respells_climb {here : Location} (hhere : ∀ n ∈ here, isIdle n = false ∧ n ≠ "..")
    (segments : List String) :
    Relation.EqvGen Respells (here ++ segments) (climb here segments) := by
  -- What stands in front is rewritten already, and the first segment left acts on its end.
  induction segments generalizing here with
  | nil =>
      rw [List.append_nil]
      exact .refl here
  | cons segment rest ih =>
      cases hidle : isIdle segment with
      | true =>
          rw [climb_idle hidle]
          exact .trans _ _ _ (.rel _ _ (.idle here rest hidle)) (ih hhere)
      | false =>
          by_cases hup : segment = ".."
          · subst hup
            rw [climb_up]
            rcases List.eq_nil_or_concat here with rfl | ⟨init, last, rfl⟩
            · exact .trans _ _ _ (.rel _ _ (.root rest)) (ih hhere)
            · rw [List.concat_eq_append] at hhere ⊢
              rcases hhere last (by simp) with ⟨hlast, hlastUp⟩
              rw [List.dropLast_concat, List.append_assoc, List.singleton_append]
              exact .trans _ _ _ (.rel _ _ (.cancel init rest hlast hlastUp))
                (ih fun n hn => hhere n (List.mem_append_left _ hn))
          · rw [climb_name hidle hup]
            have hlonger := @ih (here ++ [segment]) fun n hn =>
              (List.mem_append.1 hn).elim (hhere n)
                fun hnew => List.mem_singleton.1 hnew ▸ ⟨hidle, hup⟩
            rwa [List.append_assoc, List.singleton_append] at hlonger

theorem climb_eq_of_eqvGen {segments segments' : List String}
    (h : Relation.EqvGen Respells segments segments') :
    climb [] segments = climb [] segments' := by
  induction h with
  | rel _ _ h => exact h.climb_eq
  | refl _ => rfl
  | symm _ _ _ ih => exact ih.symm
  | trans _ _ _ _ _ ih ih' => exact ih.trans ih'

/-- Spellings name one folder if they lead to one place. -/
theorem sameFolder_iff_climb_eq {p q : Path} :
    SameFolder p q ↔ climb [] (segmentsOf p) = climb [] (segmentsOf q) := by
  constructor
  · exact climb_eq_of_eqvGen
  · intro h
    have hp := @respells_climb [] (by simp) (segmentsOf p)
    have hq := @respells_climb [] (by simp) (segmentsOf q)
    rw [h] at hp
    exact .trans _ _ _ hp (.symm _ _ hq)

/-! ## Steps above the root -/

/-- How often segments step up at the root. -/
def overshootsFrom (here : Location) : List String → Nat
  | [] => 0
  | segment :: rest =>
    if isIdle segment then overshootsFrom here rest
    else if segment == ".." then
      (if here.isEmpty then 1 else 0) + overshootsFrom here.dropLast rest
    else overshootsFrom (here ++ [segment]) rest

def overshoots (p : Path) : Nat := overshootsFrom [] (segmentsOf p)

/-- What is left of some steps above the root, before the names below it. -/
def overshot (count : Nat) (here : Location) : Location :=
  if count % 2 = 1 then ".." :: here else here

theorem overshootsFrom_idle {segment : String} (h : isIdle segment = true) (here : Location)
    (rest : List String) : overshootsFrom here (segment :: rest) = overshootsFrom here rest := by
  rw [overshootsFrom, if_pos h]

theorem overshootsFrom_up (here : Location) (rest : List String) :
    overshootsFrom here (".." :: rest) =
      (if here.isEmpty then 1 else 0) + overshootsFrom here.dropLast rest := by
  rw [overshootsFrom, if_neg (by decide), if_pos (by decide)]

theorem overshootsFrom_name {name : String} (h : isIdle name = false) (hup : name ≠ "..")
    (here : Location) (rest : List String) :
    overshootsFrom here (name :: rest) = overshootsFrom (here ++ [name]) rest := by
  rw [overshootsFrom, if_neg (by simp [h]), if_neg (by simpa using hup)]

theorem overshot_append (count : Nat) (here : Location) (more : List String) :
    overshot count (here ++ more) = overshot count here ++ more := by
  unfold overshot
  split
  · rfl
  · rfl

theorem isSegment_of_mem_overshot {count : Nat} {here : Location} (h : ∀ n ∈ here, IsName n)
    {s : String} (hs : s ∈ overshot count here) : IsSegment s := by
  unfold overshot at hs
  split at hs
  · rcases List.mem_cons.1 hs with rfl | hin
    · exact isSegment_up
    · exact (h s hin).isSegment
  · exact (h s hs).isSegment

/-- At the root a step up is put down, or takes back the one that was. -/
theorem foldStep_up_root (count : Nat) :
    foldStep true (ofNames (overshot count [])) .up = ofNames (overshot (count + 1) []) := by
  rcases Nat.mod_two_eq_zero_or_one count with heven | hodd
  · have hnow : ¬ count % 2 = 1 := by omega
    have hnext : (count + 1) % 2 = 1 := by omega
    rw [overshot, if_neg hnow, overshot, if_pos hnext, foldStep, parent?_root]
    exact @join_segments [] (by simp) ".." isSegment_up
  · have hnext : (count + 1) % 2 ≠ 1 := by omega
    rw [overshot, if_pos hodd, overshot, if_neg hnext, foldStep]
    have hback : (ofNames [".."]).parent? = some (ofNames []) :=
      @parent?_segments [] (by simp) ".." isSegment_up
    rw [hback]

/-- Below the root a step up takes the last name back. -/
theorem foldStep_up_name {front : List String} (hfront : ∀ s ∈ front, IsSegment s) {last : String}
    (hlast : IsSegment last) :
    foldStep true (ofNames (front ++ [last])) .up = ofNames front := by
  rw [foldStep, parent?_segments hfront hlast]

/-- What is folded away, and what is kept of it. -/
theorem foldl_foldStep_overshot {parts : List (List Char)} (hparts : ∀ part ∈ parts, '/' ∉ part)
    {here : Location} (hnames : ∀ n ∈ here, IsName n) (count : Nat) :
    ((parts.filter fun s => !isSilent s).map segmentComponent).foldl (foldStep true)
        (ofNames (overshot count here)) =
      ofNames (overshot (count + overshootsFrom here (parts.map String.ofList))
        (climb here (parts.map String.ofList))) := by
  induction parts generalizing here count with
  | nil => rfl
  | cons part rest ih =>
      rcases List.forall_mem_cons.1 hparts with ⟨hslash, hrest⟩
      rw [List.map_cons]
      rcases segment_cases hslash with
        ⟨hsilent, hidle⟩ | ⟨hsound, hup, hcomponent⟩ | ⟨hsound, hname, hcomponent⟩
      · rw [climb_idle hidle, overshootsFrom_idle hidle,
          List.filter_cons_of_neg (by simp [hsilent])]
        exact ih hrest hnames count
      · rw [hup, climb_up, overshootsFrom_up, List.filter_cons_of_pos (by simp [hsound]),
          List.map_cons, List.foldl_cons, hcomponent]
        -- At the root the step is kept, below it the last name goes.
        rcases List.eq_nil_or_concat here with rfl | ⟨init, last, rfl⟩
        · rw [foldStep_up_root, ih hrest hnames (count + 1), Nat.add_assoc]
          rfl
        · rw [List.concat_eq_append] at hnames ⊢
          have hinit : ∀ n ∈ init, IsName n := fun n hn => hnames n (List.mem_append_left _ hn)
          rw [overshot_append, foldStep_up_name (fun s => isSegment_of_mem_overshot hinit)
            (hnames last (by simp)).isSegment, List.dropLast_concat, ih hrest hinit count]
          simp
      · rcases isIdle_of_isName hname with ⟨hcounts, hdown⟩
        have hpush : foldStep true (ofNames (overshot count here)) (.name (String.ofList part)) =
            ofNames (overshot count (here ++ [String.ofList part])) := by
          rw [overshot_append]
          exact join_segments (fun s => isSegment_of_mem_overshot hnames) hname.isSegment
        rw [climb_name hcounts hdown, overshootsFrom_name hcounts hdown,
          List.filter_cons_of_pos (by simp [hsound]), List.map_cons, List.foldl_cons,
          hcomponent, hpush]
        exact ih hrest (List.forall_mem_append.2 ⟨hnames, List.forall_mem_singleton.2 hname⟩) count

/-- Folding that keeps steps above the root keeps them up to pairs. -/
theorem foldKeeping_eq {p : Path} (hp : p.isAbsolute = true) :
    p.foldKeeping = ofNames (overshot p.overshoots (climb [] (segmentsOf p))) := by
  rcases components_of_isAbsolute hp with ⟨body, hchars, hcomponents⟩
  have hroot : foldStep true ⟨""⟩ .root = ofNames (overshot 0 []) := rfl
  have hparts : ∀ part ∈ Text.splitOn '/' body, '/' ∉ part := fun part hpart =>
    Text.not_mem_of_mem_splitOn hpart
  have hidle : isIdle "" = true := by decide
  rw [foldKeeping, hcomponents, List.foldl_cons, hroot, overshoots, segmentsOf_absolute hchars,
    climb_idle hidle, overshootsFrom_idle hidle, bodyComponents,
    foldl_foldStep_overshot hparts (by simp) 0, Nat.zero_add]

/-- The names and what stands before them can be told apart. -/
theorem overshot_injective {count count' : Nat} {here here' : Location}
    (h : ∀ n ∈ here, IsName n) (h' : ∀ n ∈ here', IsName n) :
    overshot count here = overshot count' here' ↔ count % 2 = count' % 2 ∧ here = here' := by
  have hnot : ∀ {names : Location}, (∀ n ∈ names, IsName n) → ".." ∉ names := fun hn hup =>
    (hn _ hup).notUp rfl
  constructor
  · intro heq
    unfold overshot at heq
    split at heq <;> split at heq
    · exact ⟨by omega, (List.cons.inj heq).2⟩
    · exact absurd (heq ▸ List.mem_cons_self) (hnot h')
    · exact absurd (heq ▸ List.mem_cons_self) (hnot h)
    · exact ⟨by omega, heq⟩
  · rintro ⟨hcount, rfl⟩
    rw [overshot, overshot, hcount]

theorem ofNames_segments_injective {segments segments' : List String}
    (h : ∀ s ∈ segments, IsSegment s) (h' : ∀ s ∈ segments', IsSegment s)
    (heq : ofNames segments = ofNames segments') : segments = segments' := by
  have hjoined : Text.joinWith '/' (segments.map String.toList) =
      Text.joinWith '/' (segments'.map String.toList) := by
    have hchars := congrArg chars heq
    rw [chars_ofNames, chars_ofNames] at hchars
    exact (List.cons.inj hchars).2
  -- A segment is not empty, so no segments and one segment can be told apart.
  have hnil : ∀ {segments : List String}, (∀ s ∈ segments, IsSegment s) →
      Text.joinWith '/' (segments.map String.toList) = [] → segments = [] := by
    intro segments hall hempty
    cases segments with
    | nil => rfl
    | cons s rest =>
        have hsplit := splitOn_segments (by simp) hall
        rw [hempty, List.map_cons] at hsplit
        exact absurd (List.cons.inj hsplit).1.symm (hall s (by simp)).ne_nil
  by_cases hempty : segments = []
  · subst hempty
    exact (hnil h' hjoined.symm).symm
  · have hempty' : segments' ≠ [] := by
      rintro rfl
      exact hempty (hnil h hjoined)
    have hparts : segments.map String.toList = segments'.map String.toList := by
      rw [← splitOn_segments hempty h, ← splitOn_segments hempty' h', hjoined]
    exact (List.map_inj_right fun _ _ => String.toList_inj.1).1 hparts

/-- Spellings are kept as one if they name one folder and overshoot the root alike. -/
theorem foldKeeping_eq_iff {p q : Path} (hp : p.isAbsolute = true) (hq : q.isAbsolute = true) :
    p.foldKeeping = q.foldKeeping ↔ SameFolder p q ∧ p.overshoots % 2 = q.overshoots % 2 := by
  have hnames := (fold_eq_ofNames_climb hp).1
  have hnames' := (fold_eq_ofNames_climb hq).1
  rw [foldKeeping_eq hp, foldKeeping_eq hq, sameFolder_iff_climb_eq]
  constructor
  · intro h
    have hsegments := ofNames_segments_injective (fun s => isSegment_of_mem_overshot hnames)
      (fun s => isSegment_of_mem_overshot hnames') h
    exact ((overshot_injective hnames hnames').1 hsegments).symm
  · rintro ⟨hclimb, hcount⟩
    rw [hclimb, overshot, overshot, hcount]

/-- Whether steps above the root are kept or dropped makes no difference if they are even. -/
theorem foldKeeping_eq_fold_iff {p : Path} (hp : p.isAbsolute = true) :
    p.foldKeeping = p.fold ↔ p.overshoots % 2 = 0 := by
  rcases fold_eq_ofNames_climb hp with ⟨hnames, hfold⟩
  rw [foldKeeping_eq hp, hfold]
  have hkept : overshot 0 (climb [] (segmentsOf p)) = climb [] (segmentsOf p) := rfl
  constructor
  · intro h
    have hsegments := ofNames_segments_injective (fun s => isSegment_of_mem_overshot hnames)
      (fun s hs => (hnames s hs).isSegment) h
    exact ((overshot_injective hnames hnames).1 (hsegments.trans hkept.symm)).1
  · intro h
    rw [overshot, if_neg (by omega)]

/-! ## Folded paths -/

/-- Absolute, with nothing to fold but a step above the root that is kept. -/
def IsKept (p : Path) : Prop := p.isAbsolute = true ∧ p.foldKeeping = p

theorem IsKept.eq_of_same {p q : Path} (hp : p.IsKept) (hq : q.IsKept) (h : p.same q = true) :
    p = q := by
  have hcomponents : p.components = q.components := by simpa [same] using h
  calc
    p = p.foldKeeping := hp.2.symm
    _ = q.foldKeeping := by rw [foldKeeping, foldKeeping, hcomponents]
    _ = q := hq.2

theorem segmentsOf_ofNames {segments : List String} (hne : segments ≠ [])
    (h : ∀ s ∈ segments, IsSegment s) : segmentsOf (ofNames segments) = "" :: segments := by
  rw [segmentsOf_absolute (chars_ofNames segments), splitOn_segments hne h, List.map_map]
  simp [Function.comp_def]

theorem climb_names {names : List String} (h : ∀ n ∈ names, IsName n) (here : Location) :
    climb here names = here ++ names ∧ overshootsFrom here names = 0 := by
  induction names generalizing here with
  | nil => exact ⟨by simp [climb], rfl⟩
  | cons name rest ih =>
      rcases isIdle_of_isName (h name (by simp)) with ⟨hidle, hup⟩
      rcases ih (fun n hn => h n (List.mem_cons_of_mem _ hn)) (here ++ [name]) with ⟨hclimb, hcount⟩
      rw [climb_name hidle hup, overshootsFrom_name hidle hup, hclimb, hcount]
      exact ⟨by simp, rfl⟩

/-- Where the path of names leads, with what may stand before the names. -/
theorem climb_overshot {names : List String} (h : ∀ n ∈ names, IsName n) (count : Nat) :
    climb [] (segmentsOf (ofNames (overshot count names))) = names ∧
      (ofNames (overshot count names)).overshoots = count % 2 := by
  have hidle : isIdle "" = true := by decide
  rcases climb_names h [] with ⟨hclimb, hcount⟩
  by_cases hempty : overshot count names = []
  · have hboth : count % 2 = 0 ∧ names = [] := by
      unfold overshot at hempty
      split at hempty
      · cases hempty
      · exact ⟨by omega, hempty⟩
    rw [hempty, hboth.1, hboth.2]
    exact ⟨by decide, by decide⟩
  · have hsegments := segmentsOf_ofNames hempty fun s => isSegment_of_mem_overshot h
    rw [overshoots, hsegments, climb_idle hidle, overshootsFrom_idle hidle, overshot]
    -- One step up in front is climbed from the root, where it does nothing but count.
    rcases Nat.mod_two_eq_zero_or_one count with heven | hodd
    · rw [if_neg (by simp [heven]), hclimb, hcount, heven]
      exact ⟨rfl, rfl⟩
    · rw [if_pos hodd, climb_up, overshootsFrom_up, List.dropLast_nil, hclimb, hcount, hodd]
      exact ⟨rfl, rfl⟩

/-- What is folded stays as it is. -/
theorem isKept_foldKeeping {p : Path} (hp : p.isAbsolute = true) : p.foldKeeping.IsKept := by
  have hnames := (fold_eq_ofNames_climb hp).1
  rw [foldKeeping_eq hp]
  have habsolute :
      (ofNames (overshot p.overshoots (climb [] (segmentsOf p)))).isAbsolute = true := by
    simp [isAbsolute, chars_ofNames]
  rcases climb_overshot hnames p.overshoots with ⟨hclimb, hcount⟩
  refine ⟨habsolute, ?_⟩
  rw [foldKeeping_eq habsolute, hclimb, hcount, overshot, overshot, Nat.mod_mod]

/-! ## Absolute spellings -/

theorem bodyComponents_nil : bodyComponents [] = [] := rfl

/-- The lead of a path that is not absolute is a `.` or nothing. -/
theorem lead_of_relative {p : Path} (h : p.isAbsolute = false) :
    (cut p.chars).1 = ['.'] ∨ (cut p.chars).1 = [] := by
  unfold cut
  split
  · rename_i rest hchars
    simp [isAbsolute, hchars] at h
  · exact Or.inl rfl
  · exact Or.inl rfl
  · exact Or.inr rfl

theorem isStep_of_mem_afterHere {p : Path} (h : p.isAbsolute = false) {c : Component}
    (hc : c ∈ afterHere p.components) : IsStep c := by
  refine @isStep_of_mem_bodyComponents (cut p.chars).2 c ?_
  rw [components_eq_append] at hc
  rcases lead_of_relative h with hlead | hlead
  · rw [hlead] at hc
    exact hc
  · rw [hlead] at hc
    -- No component of the rest is a `.`, and if one were it would only be dropped.
    unfold afterHere at hc
    split at hc
    · rename_i rest hhere
      have hrest : bodyComponents (cut p.chars).2 = .here :: rest := hhere
      rw [hrest]
      exact List.mem_cons_of_mem _ hc
    · exact hc

/-- What is pushed is added to the components. -/
theorem components_pushAll {p : Path} (hp : p.isAbsolute = true) {cs : List Component}
    (hcs : ∀ c ∈ cs, IsStep c) :
    (pushAll p cs).isAbsolute = true ∧ (pushAll p cs).components = p.components ++ cs := by
  induction cs generalizing p with
  | nil => exact ⟨hp, by simp [pushAll]⟩
  | cons c rest ih =>
      have hstep : (p.join c.path).isAbsolute = true ∧
          (p.join c.path).components = p.components ++ [c] := by
        rcases hcs c (by simp) with rfl | ⟨name, rfl, hname⟩
        · exact components_joinSegment hp (s := "..") (by decide)
        · exact components_joinText hp hname
      rcases ih hstep.1 fun c hc => hcs c (List.mem_cons_of_mem _ hc) with ⟨habsolute, hrest⟩
      refine ⟨habsolute, ?_⟩
      rw [pushAll, List.foldl_cons, ← pushAll, hrest, hstep.2, List.append_assoc,
        List.singleton_append]

/-- A slash at the end does not count. -/
theorem components_slashed {p : Path} (hp : p.isAbsolute = true) (slashed : Bool) :
    (if slashed then p.join ⟨""⟩ else p).isAbsolute = true ∧
      (if slashed then p.join ⟨""⟩ else p).components = p.components := by
  cases slashed with
  | false => exact ⟨hp, rfl⟩
  | true =>
      rcases components_joinSegment hp (s := "") (by decide) with ⟨habsolute, hcomponents⟩
      refine ⟨habsolute, hcomponents.trans ?_⟩
      rw [show ("" : String).toList = [] from rfl, bodyComponents_nil, List.append_nil]

/-- A path that is absolute keeps its components. -/
theorem absolute?_of_isAbsolute (cwd : Path) {p : Path} (hp : p.isAbsolute = true) :
    ∃ q, absolute? cwd p = some q ∧ q.isAbsolute = true ∧ q.components = p.components := by
  rcases components_of_isAbsolute hp with ⟨body, hchars, hcomponents⟩
  have hsteps : ∀ c ∈ bodyComponents body, IsStep c := fun c hc => isStep_of_mem_bodyComponents hc
  have hfull : p.isEmpty = false := by
    refine Bool.eq_false_iff.2 fun hempty => ?_
    have htext : p.text = "" := by simpa [isEmpty] using hempty
    simp [chars, htext] at hchars
  have hafter : afterHere p.components = p.components := by rw [hcomponents]; rfl
  have hpushed : ∀ start : Path, start.isAbsolute = true → start.components = [.root] →
      (pushAll start (bodyComponents body)).isAbsolute = true ∧
        (pushAll start (bodyComponents body)).components = p.components := by
    intro start hstart hroot
    rcases components_pushAll hstart hsteps with ⟨habsolute, hall⟩
    exact ⟨habsolute, by rw [hall, hroot, hcomponents]; rfl⟩
  -- The pushing starts with two slashes, or with none and then the root is pushed first.
  have hwhole : ∀ twoSlashes : Bool,
      let start : Path × List Component :=
        if twoSlashes then (⟨"//"⟩, p.components.drop 1) else (⟨""⟩, p.components)
      (pushAll start.1 start.2).isAbsolute = true ∧
        (pushAll start.1 start.2).components = p.components := by
    intro twoSlashes
    cases twoSlashes with
    | true =>
        have hrest : p.components.drop 1 = bodyComponents body := by rw [hcomponents]; rfl
        have hpushes := hpushed ⟨"//"⟩ (by decide) (by decide)
        rwa [← hrest] at hpushes
    | false =>
        have hroot : pushAll ⟨""⟩ p.components = pushAll ⟨"/"⟩ (bodyComponents body) := by
          rw [hcomponents]
          rfl
        have hpushes := hpushed ⟨"/"⟩ (by decide) (by decide)
        rwa [← hroot] at hpushes
  rw [absolute?, if_neg (by simp [hfull])]
  simp only [hafter, hp, if_true]
  refine ⟨_, rfl, ?_⟩
  rcases hwhole (['/', '/'].isPrefixOf p.chars && !(['/', '/', '/'].isPrefixOf p.chars)) with
    ⟨habsolute, hsame⟩
  have hslashed := components_slashed habsolute (p.chars.getLast? == some '/')
  exact ⟨hslashed.1, hslashed.2.trans hsame⟩

/-- A path that is not absolute is read from inside an absolute one. -/
theorem absolute?_of_relative {cwd p : Path} (hcwd : cwd.isAbsolute = true)
    (hp : p.isAbsolute = false) (hfull : p.isEmpty = false) :
    ∃ q, absolute? cwd p = some q ∧ q.isAbsolute = true ∧
      q.components = cwd.components ++ afterHere p.components := by
  rw [absolute?, if_neg (by simp [hfull])]
  simp only [hp, Bool.false_eq_true, if_false]
  refine ⟨_, rfl, ?_⟩
  rcases components_pushAll hcwd (fun c hc => isStep_of_mem_afterHere hp hc) with
    ⟨habsolute, hsame⟩
  have hslashed := components_slashed habsolute (p.chars.getLast? == some '/')
  exact ⟨hslashed.1, hslashed.2.trans hsame⟩

/-! ## Below a folder -/

/-- How deep segments lead below where they start, from some depth on; `none` if they step above it
on the way. -/
def descent (depth : Nat) : List String → Option Nat
  | [] => some depth
  | segment :: rest =>
    if isIdle segment then descent depth rest
    else if segment == ".." then
      if depth = 0 then none else descent (depth - 1) rest
    else descent (depth + 1) rest

theorem climb_of_descent (start : Location) {segments names : List String} {depth : Nat}
    (h : descent names.length segments = some depth) :
    ∃ names', names'.length = depth ∧ climb (start ++ names) segments = start ++ names' := by
  induction segments generalizing names with
  | nil => exact ⟨names, Option.some.inj h, rfl⟩
  | cons segment rest ih =>
      rw [descent] at h
      rw [climb]
      split
      · rename_i hidle
        rw [if_pos hidle] at h
        exact ih h
      · rename_i hidle
        rw [if_neg hidle] at h
        split
        · rename_i hup
          rw [if_pos hup] at h
          -- A step up takes back a name that came after the start.
          rcases List.eq_nil_or_concat names with rfl | ⟨front, last, rfl⟩
          · cases h
          · rw [List.concat_eq_append] at h ⊢
            rw [List.length_append, List.length_singleton, if_neg (Nat.succ_ne_zero _)] at h
            rw [← List.append_assoc, List.dropLast_concat]
            exact ih h
        · rename_i hup
          rw [if_neg hup] at h
          rw [List.append_assoc]
          refine ih ?_
          rwa [List.length_append, List.length_singleton]

/-- A spelling that is joined is climbed after the folder. -/
theorem climb_joinText (p : Path) {s : String} (hs : (⟨s⟩ : Path).isAbsolute = false) :
    climb [] (segmentsOf (p.joinText s)) = climb (climb [] (segmentsOf p)) (segmentsOf ⟨s⟩) := by
  have hsegments : segmentsOf ⟨s⟩ = (Text.splitOn '/' s.toList).map String.ofList := rfl
  rw [segmentsOf, segmentsOf, hsegments]
  rcases chars_join_cases p hs with ⟨hnil, hjoined⟩ | ⟨front, hfront, hjoined⟩ | ⟨-, hjoined⟩
  · rw [hjoined, hnil]
    rfl
  · rw [hjoined, hfront, Text.splitOn_append, Text.splitOn_append, List.map_append, List.map_append,
      climb_append, climb_append]
    rfl
  · rw [hjoined, Text.splitOn_append, List.map_append, climb_append]

/-- A spelling that does not step above a folder leads as deep below it as it descends. -/
theorem fold_joinText_of_descent {p : Path} (h : p.isAbsolute = true) {s : String}
    (hs : (⟨s⟩ : Path).isAbsolute = false) {depth : Nat}
    (hdescent : descent 0 (segmentsOf ⟨s⟩) = some depth) :
    ∃ names : List String, names.length = depth ∧
      (p.joinText s).fold.components = p.fold.components ++ names.map .name := by
  rcases fold_eq_ofNames_climb h with ⟨hnames, hfold⟩
  have habsolute : (p.joinText s).isAbsolute = true := isAbsolute_join h ⟨s⟩
  rcases fold_eq_ofNames_climb habsolute with ⟨hlonger, hfoldLonger⟩
  rcases @climb_of_descent (climb [] (segmentsOf p)) (segmentsOf ⟨s⟩) [] depth hdescent with
    ⟨names, hlength, hclimb⟩
  have hjoined : climb [] (segmentsOf (p.joinText s)) = climb [] (segmentsOf p) ++ names := by
    rw [climb_joinText p hs, ← hclimb, List.append_nil]
  refine ⟨names, hlength, ?_⟩
  calc
    (p.joinText s).fold.components
        = .root :: (climb [] (segmentsOf (p.joinText s))).map .name := by
          rw [hfoldLonger, components_ofNames hlonger]
    _ = (.root :: (climb [] (segmentsOf p)).map .name) ++ names.map .name := by
          rw [hjoined, List.map_append, List.cons_append]
    _ = p.fold.components ++ names.map .name := by rw [hfold, components_ofNames hnames]

end Path
end Testbench
