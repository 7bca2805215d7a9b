import Testbench.Dispatch
import Testbench.Proofs.Workspace.Roots

/-!
# Naming — the name under which a class is run

A project is found by the folded spelling of a file, and a class of the file is named by the names
that the file is spelled with below the root. The two agree where the spelling lies below the root
without stepping up. A name that is stepped back from is left in the name of the class, and a
spelling that does not start as the root does gives no name at all.

- `Dispatch.moduleOf`, `target`  : the names of a module and of a class in it;
- `Dispatch.Lies`                : where a file lies below a root;
- `dottedPath?_eq_some_iff`      : how a class is named;
- `IsKept.lies_of_dottedPath?`   : what is named rightly is spelled without steps up;
- `target_injective`             : the file that a name is for;
- `targets_of_found`             : the names of the classes of all files that are found.
-/

namespace Testbench
namespace Text

/-! ## Counting separators -/

/-- Every part but the first has a separator before it. -/
theorem count_joinWith {sep : Char} {parts : List (List Char)} (hne : parts ≠ []) :
    (joinWith sep parts).count sep + 1 = parts.flatten.count sep + parts.length := by
  induction parts with
  | nil => exact absurd rfl hne
  | cons part rest ih =>
      cases rest with
      | nil => simp [joinWith]
      | cons next more =>
          -- The first part stands before a separator, and the others are joined behind it.
          have hrest := ih (by simp)
          have hjoin : joinWith sep (part :: next :: more) =
              part ++ sep :: joinWith sep (next :: more) := rfl
          rw [hjoin, List.count_append, List.count_cons_self, List.flatten_cons, List.count_append,
            List.length_cons]
          omega

theorem le_count_joinWith {sep : Char} {parts : List (List Char)} (hne : parts ≠ []) :
    parts.length ≤ (joinWith sep parts).count sep + 1 := by
  rw [count_joinWith hne]
  exact Nat.le_add_left _ _

theorem count_joinWith_of_not_mem {sep : Char} {parts : List (List Char)} (hne : parts ≠ [])
    (h : ∀ part ∈ parts, sep ∉ part) : (joinWith sep parts).count sep + 1 = parts.length := by
  have hnone : parts.flatten.count sep = 0 := by
    rw [List.count_eq_zero, List.mem_flatten]
    rintro ⟨part, hpart, hsep⟩
    exact h part hpart hsep
  rw [count_joinWith hne, hnone, Nat.zero_add]

end Text

namespace Path

/-! ## Names that are stepped back from -/

theorem afterStart?_eq_some_iff {α : Type} [DecidableEq α] {start cs rest : List α} :
    afterStart? start cs = some rest ↔ cs = start ++ rest := by
  constructor
  · intro h
    induction start generalizing cs with
    | nil => exact Option.some.inj h
    | cons a start ih =>
        cases cs with
        | nil => simp [afterStart?] at h
        | cons b cs =>
            rw [afterStart?, Option.ite_none_right_eq_some] at h
            rw [h.1, ih h.2, List.cons_append]
  · rintro rfl
    exact ProjectFiles.afterStart?_append start rest

theorem below?_eq_some_iff {root file : Path} {below : List Component} :
    root.below? file = some below ↔ file.components = root.components ++ below :=
  afterStart?_eq_some_iff

theorem names_append (cs more : List Component) : names (cs ++ more) = names cs ++ names more :=
  List.filterMap_append

theorem components_ofSegments {segments : List String} (h : ∀ s ∈ segments, IsSegment s) :
    (ofNames segments).components =
      .root :: segments.map fun s => segmentComponent s.toList := by
  have hslash : ∀ part ∈ segments.map String.toList, '/' ∉ part := by
    intro part hpart
    rcases List.mem_map.1 hpart with ⟨s, hs, rfl⟩
    exact (h s hs).noSlash
  have hsound : (segments.map String.toList).filter (fun s => !isSilent s) =
      segments.map String.toList := by
    refine List.filter_eq_self.2 fun part hpart => ?_
    rcases List.mem_map.1 hpart with ⟨s, hs, rfl⟩
    simp [(h s hs).sound]
  rw [(components_of_chars (chars_ofNames segments)).2, bodyComponents_joinWith hslash, hsound,
    List.map_map]
  rfl

/-- What is kept of steps above the root is no name. -/
theorem names_overshot {here : Location} (h : ∀ n ∈ here, IsName n) (count : Nat) :
    names (ofNames (overshot count here)).components = here := by
  have hhere : here.map (fun s => segmentComponent s.toList) = here.map .name :=
    List.map_congr_left fun n hn => segmentComponent_name (h n hn)
  rw [components_ofSegments fun s => isSegment_of_mem_overshot h]
  unfold overshot
  split
  · rw [List.map_cons, hhere]
    exact ProjectFiles.names_map_name here
  · rw [hhere]
    exact ProjectFiles.names_map_name here

/-- A component adds its name, or takes one back where there is one. -/
theorem foldStep_overshot {here : Location} (h : ∀ n ∈ here, IsName n) (count : Nat) {c : Component}
    (hc : IsStep c) : ∃ count' here', (∀ n ∈ here', IsName n) ∧
      foldStep true (ofNames (overshot count here)) c = ofNames (overshot count' here') ∧
      here'.length ≤ here.length + (names [c]).length ∧
      (here ≠ [] → c = .up → here'.length < here.length) := by
  rcases hc with rfl | ⟨name, rfl, hname⟩
  · -- A step up takes the last name back. Where there is none it is kept in front.
    rcases List.eq_nil_or_concat here with rfl | ⟨init, last, rfl⟩
    · exact ⟨count + 1, [], h, foldStep_up_root count, by simp, by simp⟩
    · rw [List.concat_eq_append] at h ⊢
      have hinit : ∀ n ∈ init, IsName n := fun n hn => h n (List.mem_append_left _ hn)
      refine ⟨count, init, hinit, ?_, by rw [List.length_append]; omega, by simp⟩
      rw [overshot_append]
      exact foldStep_up_name (fun s => isSegment_of_mem_overshot hinit) (h last (by simp)).isSegment
  · have hlonger : ∀ n ∈ here ++ [name], IsName n := fun n hn =>
      (List.mem_append.1 hn).elim (h n) fun hnew => List.mem_singleton.1 hnew ▸ hname
    refine ⟨count, here ++ [name], hlonger, ?_, by simp [names], by simp⟩
    rw [overshot_append]
    exact join_segments (fun s => isSegment_of_mem_overshot h) hname.isSegment

/-- No more names are left than there were, and fewer if some are stepped back from. -/
theorem foldl_foldStep_length {cs : List Component} (hcs : ∀ c ∈ cs, IsStep c) {here : Location}
    (h : ∀ n ∈ here, IsName n) (count : Nat) : ∃ count' here', (∀ n ∈ here', IsName n) ∧
      cs.foldl (foldStep true) (ofNames (overshot count here)) = ofNames (overshot count' here') ∧
      here'.length ≤ here.length + (names cs).length ∧
      (here ≠ [] → .up ∈ cs → here'.length < here.length + (names cs).length) := by
  induction cs generalizing here count with
  | nil => exact ⟨count, here, h, rfl, by simp, by simp⟩
  | cons c rest ih =>
      rcases foldStep_overshot h count (hcs c List.mem_cons_self) with
        ⟨count₁, here₁, h₁, hstep, hle, hlt⟩
      rcases ih (fun c hc => hcs c (List.mem_cons_of_mem _ hc)) h₁ count₁ with
        ⟨count₂, here₂, h₂, hfold, hle', hlt'⟩
      have hnames : (names (c :: rest)).length = (names [c]).length + (names rest).length := by
        rw [← List.length_append, ← names_append, List.singleton_append]
      refine ⟨count₂, here₂, h₂, by rw [List.foldl_cons, hstep, hfold], by omega, ?_⟩
      intro hne hup
      rcases List.mem_cons.1 hup with rfl | hrest
      · have hless := hlt hne rfl
        omega
      · -- A step up that comes later has names to step back from, unless one came before it.
        by_cases hempty : here₁ = []
        · have hpos := List.length_pos_iff.2 hne
          rw [hempty, List.length_nil] at hle'
          omega
        · have hless := hlt' hempty hrest
          omega

end Path

namespace Dispatch

open Testbench.Path (Component IsKept IsName IsStraight names)

/-! ## The names of modules and classes -/

/-- A module is named by its file, without the ending. -/
def moduleOf (file : String) : String :=
  ((Text.dropEnding? ".py".toList file.toList).map String.ofList).getD file

/-- The name under which a class of a file is run, after the names of the folders it is in. -/
def target (folders : List String) (file className : String) : String :=
  ".".intercalate (folders ++ [moduleOf file, className])

/-- Where a file lies below a root, as it is spelled. -/
structure Lies (root file : Path) (folders : List String) (name : String) : Prop where
  isName : ∀ n ∈ folders ++ [name], IsName n
  components : file.components = root.components ++ (folders ++ [name]).map .name

/-- A class is named by all names below the root, whatever stands between them. -/
theorem dottedPath?_eq_some_iff {root file : Path} {className dotted : String} :
    dottedPath? root file className = some dotted ↔
      ∃ below folders name, file.components = root.components ++ below ∧
        names below = folders ++ [name] ∧ dotted = target folders name className := by
  constructor
  · intro h
    rcases Option.bind_eq_some_iff.1 h with ⟨below, hbelow, h⟩
    -- The last of the names is split off from behind.
    split at h
    · simp at h
    · rename_i last folders hreverse
      refine ⟨below, folders.reverse, last, Path.below?_eq_some_iff.1 hbelow, ?_,
        (Option.some.inj h).symm⟩
      rw [← List.reverse_reverse (names below), hreverse, List.reverse_cons]
  · rintro ⟨below, folders, name, hbelow, hnames, rfl⟩
    have hreverse : (names below).reverse = name :: folders.reverse := by
      rw [hnames, List.reverse_append]
      rfl
    refine Option.bind_eq_some_iff.2 ⟨below, Path.below?_eq_some_iff.2 hbelow, ?_⟩
    simp only [hreverse, List.reverse_reverse]
    rfl

variable {root file : Path} {folders : List String} {name className : String}

theorem Lies.names_eq (h : Lies root file folders name) :
    names file.components = names root.components ++ (folders ++ [name]) := by
  rw [h.components, Path.names_append, ProjectFiles.names_map_name]

/-- A file is named where it lies. -/
theorem Lies.dottedPath?_eq (h : Lies root file folders name) (className : String) :
    dottedPath? root file className = some (target folders name className) :=
  dottedPath?_eq_some_iff.2
    ⟨_, folders, name, h.components, ProjectFiles.names_map_name _, rfl⟩

/-! ## Names without dots -/

/-- What a class is named with has no dot of its own, the ending of its file apart. -/
def Undotted (folders : List String) (file className : String) : Prop :=
  ∀ n ∈ folders ++ [moduleOf file, className], '.' ∉ n.toList

instance (folders : List String) (file className : String) :
    Decidable (Undotted folders file className) :=
  inferInstanceAs (Decidable (∀ n ∈ folders ++ [moduleOf file, className], '.' ∉ n.toList))

theorem toList_target (folders : List String) (file className : String) :
    (target folders file className).toList =
      Text.joinWith '.' ((folders ++ [moduleOf file, className]).map String.toList) :=
  Text.toList_intercalate rfl _

theorem Undotted.count_target (h : Undotted folders name className) :
    (target folders name className).toList.count '.' = folders.length + 1 := by
  have hparts : ∀ part ∈ (folders ++ [moduleOf name, className]).map String.toList, '.' ∉ part := by
    intro part hpart
    rcases List.mem_map.1 hpart with ⟨n, hn, rfl⟩
    exact h n hn
  have hcount := Text.count_joinWith_of_not_mem (by simp) hparts
  rw [toList_target]
  simpa using hcount

theorem le_count_target (folders : List String) (file className : String) :
    folders.length + 1 ≤ (target folders file className).toList.count '.' := by
  have hcount := @Text.le_count_joinWith '.'
    ((folders ++ [moduleOf file, className]).map String.toList) (by simp)
  rw [toList_target]
  simpa using hcount

/-- A name tells the folders, the module and the class. -/
theorem target_injective {folders' : List String} {name' className' : String}
    (h : Undotted folders name className) (h' : Undotted folders' name' className')
    (heq : target folders name className = target folders' name' className') :
    folders = folders' ∧ moduleOf name = moduleOf name' ∧ className = className' := by
  have hparts := Text.intercalate_injective rfl (by simp) (by simp) h h' heq
  rcases List.append_inj' hparts rfl with ⟨hfolders, hlast⟩
  rcases List.cons.inj hlast with ⟨hmodule, hclass⟩
  exact ⟨hfolders, hmodule, (List.cons.inj hclass).1⟩

end Dispatch

namespace Path

open Dispatch (Lies dottedPath? dottedPath?_eq_some_iff target Undotted)

/-! ## Spellings of a file in a project -/

variable {root file : Path}

theorem IsKept.isStep_below (hroot : root.IsKept) (hfile : file.isAbsolute = true)
    {below : List Component} (h : file.components = root.components ++ below) :
    ∀ c ∈ below, IsStep c := by
  intro c hc
  refine isStep_of_mem_components hfile ?_
  rcases components_of_isAbsolute hroot.1 with ⟨body, -, hcomponents⟩
  rw [h, hcomponents, List.cons_append, List.tail_cons]
  exact List.mem_append_right _ hc

/-- A path below a kept one, as it is kept. -/
theorem IsKept.foldKeeping_of_below (hroot : root.IsKept) {below : List Component}
    (h : file.components = root.components ++ below) :
    file.foldKeeping = below.foldl (foldStep true) root := by
  have hsplit : file.foldKeeping = below.foldl (foldStep true) root.foldKeeping := by
    rw [foldKeeping, h, List.foldl_append, ← foldKeeping]
  rw [hsplit, hroot.2]

/-- Below a kept path nothing is folded away unless there are steps up. -/
theorem IsKept.components_foldKeeping (hroot : root.IsKept) (hfile : file.isAbsolute = true)
    {below : List Component} (h : file.components = root.components ++ below) (hup : .up ∉ below) :
    file.foldKeeping.components = file.components := by
  have hsteps := hroot.isStep_below hfile h
  have hnames := eq_map_names hsteps hup
  have hpushes : below.foldl (foldStep true) root = pushAll root below := by
    rw [hnames, pushAll, List.foldl_map, List.foldl_map]
    rfl
  rw [hroot.foldKeeping_of_below h, hpushes, (components_pushAll hroot.1 hsteps).2, h]

/-- If names below the root are stepped back from, then more of them are spelled than are left. -/
theorem IsKept.length_names_lt (hroot : root.IsKept) (hnames : names root.components ≠ [])
    (hfile : file.isAbsolute = true) {below : List Component}
    (h : file.components = root.components ++ below) (hup : .up ∈ below) :
    (names file.foldKeeping.components).length < (names file.components).length := by
  have hplaces := (FileTree.fold_eq_ofNames_climb hroot.1).1
  have hkept : root = ofNames (overshot root.overshoots (FileTree.climb []
      (FileTree.segmentsOf root))) := hroot.2.symm.trans (foldKeeping_eq hroot.1)
  -- The path is folded on from the root, which is folded already.
  rcases foldl_foldStep_length (hroot.isStep_below hfile h) hplaces root.overshoots with
    ⟨count, here, hhere, hfold, -, hlt⟩
  rw [← hkept, ← hroot.foldKeeping_of_below h] at hfold
  have hplace : names root.components = FileTree.climb [] (FileTree.segmentsOf root) := by
    conv_lhs => rw [hkept]
    exact names_overshot hplaces _
  rw [hfold, names_overshot hhere, h, names_append, List.length_append, hplace]
  exact hlt (hplace ▸ hnames) hup

/-- A class that is named as it should be is one of a file that is spelled where it lies. -/
theorem IsKept.lies_of_dottedPath? (hroot : root.IsKept) (hnames : names root.components ≠ [])
    (hfile : file.isAbsolute = true) {folders : List String} {name className : String}
    (hlies : Lies root file.foldKeeping folders name) (hdots : Undotted folders name className)
    (h : dottedPath? root file className = some (target folders name className)) :
    Lies root file folders name := by
  rcases dottedPath?_eq_some_iff.1 h with ⟨below, folders', name', hbelow, hspelled, heq⟩
  -- Every name that is spelled adds a dot.
  have hcount : folders'.length + 1 ≤ folders.length + 1 := by
    rw [← hdots.count_target, heq]
    exact Dispatch.le_count_target folders' name' className
  have hleft : (names file.foldKeeping.components).length =
      (names root.components).length + (folders.length + 1) := by
    rw [hlies.names_eq, List.length_append, List.length_append, List.length_singleton]
  have hwhole : (names file.components).length =
      (names root.components).length + (folders'.length + 1) := by
    rw [hbelow, names_append, hspelled, List.length_append, List.length_append,
      List.length_singleton]
  have hnoUp : Component.up ∉ below := by
    intro hup
    have hloop := calc (names file.foldKeeping.components).length
        < (names file.components).length := hroot.length_names_lt hnames hfile hbelow hup
      _ = (names root.components).length + (folders'.length + 1) := hwhole
      _ ≤ (names root.components).length + (folders.length + 1) := Nat.add_le_add_left hcount _
      _ = (names file.foldKeeping.components).length := hleft.symm
    exact absurd hloop (Nat.lt_irrefl _)
  refine ⟨hlies.isName, ?_⟩
  rw [← hroot.components_foldKeeping hfile hbelow hnoUp, hlies.components]

/-- Straight spellings are kept as they are, up to slashes and `.` segments. -/
theorem IsStraight.components_foldKeeping (h : file.IsStraight) :
    file.foldKeeping.components = file.components := by
  rcases h.exists_names with ⟨ns, -, hcomponents⟩
  have hroot : (⟨"/"⟩ : Path).IsKept := ⟨by decide, by decide⟩
  have hup : Component.up ∉ ns.map .name := by simp
  exact hroot.components_foldKeeping h.absolute hcomponents hup

/-- What is kept has a step up at most in front of all names. -/
theorem IsKept.components_eq {p : Path} (h : p.IsKept) : ∃ ups : List Component,
    (ups = [] ∨ ups = [.up]) ∧ p.components = .root :: (ups ++ (names p.components).map .name) := by
  have hplaces := (FileTree.fold_eq_ofNames_climb h.1).1
  have hspelled := h.2.symm.trans (foldKeeping_eq h.1)
  have hhere : (FileTree.climb [] (FileTree.segmentsOf p)).map
      (fun s => segmentComponent s.toList) =
        (FileTree.climb [] (FileTree.segmentsOf p)).map .name :=
    List.map_congr_left fun n hn => segmentComponent_name (hplaces n hn)
  rw [hspelled, names_overshot hplaces,
    components_ofSegments fun s => isSegment_of_mem_overshot hplaces, overshot]
  split
  · exact ⟨[.up], .inr rfl, by rw [List.map_cons, hhere]; rfl⟩
  · exact ⟨[], .inl rfl, by rw [hhere]; rfl⟩

/-- Nothing steps up below a root that has names. -/
theorem IsKept.up_not_mem (hroot : root.IsKept) (hnames : names root.components ≠ [])
    (hfile : file.IsKept) {below : List Component}
    (h : file.components = root.components ++ below) : Component.up ∉ below := by
  have hnone : ∀ {ns : List String}, Component.up ∉ ns.map Component.name := by simp
  rcases hroot.components_eq with ⟨ups, hups, hr⟩
  rcases hfile.components_eq with ⟨ups', hups', hf⟩
  rw [hf, hr, List.cons_append, List.cons.injEq] at h
  intro hin
  rcases List.exists_cons_of_ne_nil hnames with ⟨first, rest, hfirst⟩
  rw [hfirst] at h
  rcases hups' with rfl | rfl
  · have hmem : Component.up ∈ (names file.components).map Component.name := by
      rw [← List.nil_append ((names file.components).map _), h.2]
      exact List.mem_append_right _ hin
    exact hnone hmem
  · rcases hups with rfl | rfl
    · -- The file would step up where the root has its first name.
      simp at h
    · have htail : (names file.components).map .name = (first :: rest).map .name ++ below := by
        simpa using h.2
      have hmem : Component.up ∈ (names file.components).map Component.name := by
        rw [htail]
        exact List.mem_append_right _ hin
      exact hnone hmem

end Path

namespace Dispatch

open Testbench.Path (Component IsStraight names)
open Workspace (Call Lived Op Rooted bench runCalls)

/-! ## Files that are found -/

/-- Files that both are sources, or both are not, are told by their modules. -/
theorem eq_of_moduleOf {name name' : String} (h : moduleOf name = moduleOf name')
    (hends : ".py".toList.isSuffixOf name.toList = ".py".toList.isSuffixOf name'.toList) :
    name = name' := by
  unfold moduleOf Text.dropEnding? at h
  rw [← hends] at h
  split at h
  · -- Both end alike, and what stands before the ending is the same.
    rename_i hsuffix
    rcases List.isSuffixOf_iff_suffix.1 hsuffix with ⟨front, hfront⟩
    rcases List.isSuffixOf_iff_suffix.1 (hends ▸ hsuffix) with ⟨front', hfront'⟩
    simp only [Option.map_some, Option.getD_some, ← hfront, ← hfront', List.length_append,
      Nat.add_sub_cancel, List.take_left] at h
    refine String.toList_inj.1 ?_
    rw [← hfront, ← hfront', String.ofList_inj.1 h]
  · exact h

section

variable {w : World} {id : ProjectId} {f : Path}

theorem lies_of_below {root file : Path} {below : List Component}
    (hsteps : ∀ c ∈ below, Path.IsStep c)
    (hup : .up ∉ below) (hne : below ≠ []) (h : file.components = root.components ++ below) :
    ∃ folders name, Lies root file folders name := by
  have hnames := Path.eq_map_names hsteps hup
  rcases List.eq_nil_or_concat (names below) with hnil | ⟨folders, name, hlast⟩
  · rw [hnil] at hnames
    exact absurd hnames hne
  · rw [List.concat_eq_append] at hlast
    refine ⟨folders, name, fun n hn => Path.isName_of_mem_names hsteps (hlast ▸ hn), ?_⟩
    rw [h, ← hlast, ← hnames]

/-- What is found is the root, or has something below the root when it is folded. -/
theorem below_of_find? (h : Rooted w) (hf : f.isAbsolute = true)
    (hfind : Registry.find? w f = some id) (hne : Registry.absolute w.files.cwd f ≠ w.root id) :
    (w.root id).IsKept ∧ Registry.absolute w.files.cwd f = f.foldKeeping ∧ ∃ below, below ≠ [] ∧
      f.foldKeeping.components = (w.root id).components ++ below := by
  have hfolded := Registry.absolute_of_isAbsolute w.files.cwd hf
  rw [Rooted.find?_eq, hfolded] at hfind
  have hroot := h.kept id (List.mem_of_find?_eq_some hfind)
  have hprefix := List.find?_some hfind
  rcases List.isPrefixOf_iff_prefix.1 hprefix with ⟨below, hbelow⟩
  refine ⟨hroot, hfolded, below, ?_, hbelow.symm⟩
  -- With nothing below it the file would be the root, and the root is kept in one spelling only.
  rintro rfl
  rw [hfolded] at hne
  refine hne ((Path.isKept_foldKeeping hf).eq_of_same hroot ?_)
  rw [Path.same, ← hbelow, List.append_nil]
  exact beq_self_eq_true _

theorem lies_of_find? (h : Rooted w) (hf : f.isAbsolute = true)
    (hfind : Registry.find? w f = some id) (hne : Registry.absolute w.files.cwd f ≠ w.root id)
    (hnames : names (w.root id).components ≠ []) :
    ∃ folders name, Lies (w.root id) (Registry.absolute w.files.cwd f) folders name := by
  rcases below_of_find? h hf hfind hne with ⟨hroot, hfolded, below, hbelow, hcomponents⟩
  have hkept := Path.isKept_foldKeeping hf
  rw [hfolded]
  exact lies_of_below (hroot.isStep_below hkept.1 hcomponents)
    (hroot.up_not_mem hnames hkept hcomponents) hbelow hcomponents

/-- A straight spelling lies where the folded one lies. -/
theorem lies_of_isStraight (h : Rooted w) (hf : f.IsStraight)
    (hfind : Registry.find? w f = some id) (hne : Registry.absolute w.files.cwd f ≠ w.root id) :
    ∃ folders name, Lies (w.root id) (Registry.absolute w.files.cwd f) folders name ∧
      Lies (w.root id) f folders name := by
  rcases below_of_find? h hf.absolute hfind hne with ⟨hroot, hfolded, below, hbelow, hcomponents⟩
  have hsame := hf.components_foldKeeping
  have hup : Component.up ∉ below := by
    intro hin
    apply hf.noUp
    rw [← hsame, hcomponents]
    exact List.mem_append_right _ hin
  rcases lies_of_below (hroot.isStep_below hf.absolute (hsame ▸ hcomponents)) hup hbelow hcomponents
    with ⟨folders, name, hlies⟩
  refine ⟨folders, name, hfolded ▸ hlies, hlies.isName, ?_⟩
  rw [← hsame, hlies.components]

/-- Where a file lies is read off its components. -/
theorem Lies.unique {root file : Path} {folders folders' : List String} {name name' : String}
    (h : Lies root file folders name) (h' : Lies root file folders' name') :
    folders = folders' ∧ name = name' := by
  have hsame := h.names_eq.symm.trans h'.names_eq
  rcases List.append_inj' (List.append_cancel_left hsame) rfl with ⟨hfolders, hname⟩
  exact ⟨hfolders, List.singleton_inj.1 hname⟩

end

/-! ## Names of their classes -/

section

variable {w : World} {id : ProjectId} {f g : Path}

theorem named_of_isStraight (h : Rooted w) (hf : f.IsStraight)
    (hfind : Registry.find? w f = some id) (hne : Registry.absolute w.files.cwd f ≠ w.root id) :
    ∃ folders name, Lies (w.root id) (Registry.absolute w.files.cwd f) folders name ∧
      ∀ className, dottedPath? (w.root id) f className = some (target folders name className) := by
  rcases lies_of_isStraight h hf hfind hne with ⟨folders, name, hlies, hraw⟩
  exact ⟨folders, name, hlies, hraw.dottedPath?_eq⟩

/-- Straight spellings of one file give one name. -/
theorem named_alike (h : Rooted w) (hf : f.IsStraight) (hg : g.IsStraight)
    (hfind : Registry.find? w f = some id) (hne : Registry.absolute w.files.cwd f ≠ w.root id)
    (hsame : Registry.absolute w.files.cwd f = Registry.absolute w.files.cwd g)
    (className : String) :
    Registry.find? w g = some id ∧
      dottedPath? (w.root id) f className = dottedPath? (w.root id) g className := by
  have hfound : Registry.find? w g = some id := by
    rw [Rooted.find?_eq] at hfind ⊢
    rw [← hsame]
    exact hfind
  rcases named_of_isStraight h hf hfind hne with ⟨folders, name, hlies, hname⟩
  rcases named_of_isStraight h hg hfound (hsame ▸ hne) with ⟨folders', name', hlies', hname'⟩
  rcases hlies.unique (hsame ▸ hlies') with ⟨rfl, rfl⟩
  exact ⟨hfound, (hname className).trans (hname' className).symm⟩

/-- What lies in one place is one file, if no more than `.py` can tell the modules apart. -/
theorem absolute_eq_of_lies {folders : List String} {name name' : String} (hf : f.IsStraight)
    (hg : g.IsStraight) (hlies : Lies (w.root id) (Registry.absolute w.files.cwd f) folders name)
    (hlies' : Lies (w.root id) (Registry.absolute w.files.cwd g) folders name')
    (hmodule : moduleOf name = moduleOf name')
    (hends : ".py".toList.isSuffixOf name.toList = ".py".toList.isSuffixOf name'.toList) :
    Registry.absolute w.files.cwd f = Registry.absolute w.files.cwd g := by
  have hkept : ∀ p : Path, p.IsStraight → (Registry.absolute w.files.cwd p).IsKept := fun p hp => by
    rw [Registry.absolute_of_isAbsolute _ hp.absolute]
    exact Path.isKept_foldKeeping hp.absolute
  refine (hkept f hf).eq_of_same (hkept g hg) ?_
  rw [Path.same, hlies.components, hlies'.components, eq_of_moduleOf hmodule hends]
  exact beq_self_eq_true _

/-- A name without dots of its own tells the folders, the module and the class, and so the file. -/
theorem told_of_named {folders folders' : List String} {name className name' className' : String}
    (h : Rooted w) (hf : f.IsStraight) (hg : g.IsStraight)
    (hfind : Registry.find? w f = some id) (hfind' : Registry.find? w g = some id)
    (hne : Registry.absolute w.files.cwd f ≠ w.root id)
    (hne' : Registry.absolute w.files.cwd g ≠ w.root id)
    (hlies : Lies (w.root id) (Registry.absolute w.files.cwd f) folders name)
    (hlies' : Lies (w.root id) (Registry.absolute w.files.cwd g) folders' name')
    (hdots : Undotted folders name className) (hdots' : Undotted folders' name' className')
    (heq : dottedPath? (w.root id) f className = dottedPath? (w.root id) g className') :
    (folders = folders' ∧ moduleOf name = moduleOf name' ∧ className = className') ∧
      (".py".toList.isSuffixOf name.toList = ".py".toList.isSuffixOf name'.toList →
        Registry.absolute w.files.cwd f = Registry.absolute w.files.cwd g) := by
  rcases named_of_isStraight h hf hfind hne with ⟨_, _, hthere, hname⟩
  rcases named_of_isStraight h hg hfind' hne' with ⟨_, _, hthere', hname'⟩
  rcases hlies.unique hthere with ⟨rfl, rfl⟩
  rcases hlies'.unique hthere' with ⟨rfl, rfl⟩
  rw [hname, hname', Option.some.injEq] at heq
  rcases target_injective hdots hdots' heq with ⟨rfl, hmodule, hclass⟩
  exact ⟨⟨rfl, hmodule, hclass⟩, absolute_eq_of_lies hf hg hlies hlies' hmodule⟩

/-- Any spelling names the class rightly only if it lies where the folded one lies. -/
theorem named_iff_lies (h : Rooted w) (hnames : names (w.root id).components ≠ [])
    (hf : f.isAbsolute = true) (hfind : Registry.find? w f = some id)
    (hne : Registry.absolute w.files.cwd f ≠ w.root id) :
    ∃ folders name, Lies (w.root id) (Registry.absolute w.files.cwd f) folders name ∧
      ∀ className, Undotted folders name className →
        (dottedPath? (w.root id) f className = some (target folders name className) ↔
          Lies (w.root id) f folders name) := by
  rcases lies_of_find? h hf hfind hne hnames with ⟨folders, name, hlies⟩
  rcases below_of_find? h hf hfind hne with ⟨hroot, hfolded, -⟩
  have hkept : Lies (w.root id) f.foldKeeping folders name := hfolded ▸ hlies
  exact ⟨folders, name, hlies, fun className hdots =>
    ⟨hroot.lies_of_dottedPath? hnames hf hkept hdots, fun hraw => hraw.dottedPath?_eq className⟩⟩

end

theorem rooted_runCalls {w₀ : World} (hnone : w₀.registry = [])
    (hcwd : w₀.files.cwd.isAbsolute = true) (calls : List Call)
    (hasides : ∀ a, Call.single (.aside a) ∈ calls → (Op.aside a).Stays) :
    Rooted (runCalls w₀ calls) := by
  have hrun := (Rooted.start hnone hcwd).run (Lived.start hnone) (Workspace.stays_of_calls hasides)
  rw [Workspace.runOps_calls] at hrun
  exact hrun.1

/-- After any calls, for a file that is found in a project and is not its root: where the folded
spelling lies below the root the class of a straight spelling is named, two straight spellings of
one file give one name, and a name without dots of its own tells the file. Other spellings name the
class rightly only if they lie in the same place without stepping up there. -/
theorem targets_of_found {w₀ : World} (hnone : w₀.registry = [])
    (hcwd : w₀.files.cwd.isAbsolute = true) (calls : List Call)
    (hasides : ∀ a, Call.single (.aside a) ∈ calls → (Op.aside a).Stays) (id : ProjectId) :
    let w := runCalls w₀ calls
    let root := w.root id
    let folded := Registry.absolute w.files.cwd
    (∀ f : Path, f.IsStraight → Registry.find? w f = some id → folded f ≠ root →
      ∃ folders name, Lies root (folded f) folders name ∧
        ∀ className, dottedPath? root f className = some (target folders name className)) ∧
    (∀ f g : Path, f.IsStraight → g.IsStraight → Registry.find? w f = some id → folded f ≠ root →
      folded f = folded g → ∀ className,
        Registry.find? w g = some id ∧
          dottedPath? root f className = dottedPath? root g className) ∧
    (∀ f g : Path, ∀ folders name className folders' name' className', f.IsStraight → g.IsStraight →
      Registry.find? w f = some id → Registry.find? w g = some id →
        folded f ≠ root → folded g ≠ root →
      Lies root (folded f) folders name → Lies root (folded g) folders' name' →
      Undotted folders name className → Undotted folders' name' className' →
      dottedPath? root f className = dottedPath? root g className' →
      (folders = folders' ∧ moduleOf name = moduleOf name' ∧ className = className') ∧
      (".py".toList.isSuffixOf name.toList = ".py".toList.isSuffixOf name'.toList →
        folded f = folded g)) ∧
    (names root.components ≠ [] → ∀ f : Path, f.isAbsolute = true → Registry.find? w f = some id →
      folded f ≠ root → ∃ folders name, Lies root (folded f) folders name ∧
        ∀ className, Undotted folders name className →
          (dottedPath? root f className = some (target folders name className) ↔
            Lies root f folders name)) := by
  intro w root folded
  have h : Rooted w := rooted_runCalls hnone hcwd calls hasides
  exact ⟨fun _ hf => named_of_isStraight h hf,
    fun _ _ hf hg hfind hne hsame => named_alike h hf hg hfind hne hsame,
    fun _ _ _ _ _ _ _ _ hf hg => told_of_named h hf hg,
    fun hnames _ hf => named_iff_lies h hnames hf⟩

/-- Two straight spellings of one file give one name, and one with a step up does not give it. -/
theorem targets_of_respelled :
    let w := runCalls (bench (.recorder .fresh)) [.openFolders [⟨"/p"⟩]]
    Registry.find? w ⟨"/p/./a//b.py"⟩ = some 0 ∧
    dottedPath? (w.root 0) ⟨"/p/./a//b.py"⟩ "T" = dottedPath? (w.root 0) ⟨"/p/a/b.py"⟩ "T" ∧
    Registry.find? w ⟨"/p/x/../a/b.py"⟩ = some 0 ∧
    dottedPath? (w.root 0) ⟨"/p/x/../a/b.py"⟩ "T" ≠ some (target ["a"] "b.py" "T") := by
  intro w
  have hroot : w.root 0 = ⟨"/p"⟩ := by decide +kernel
  have hfind : Registry.find? w ⟨"/p/./a//b.py"⟩ = some 0 := by decide +kernel
  have hfind' : Registry.find? w ⟨"/p/x/../a/b.py"⟩ = some 0 := by decide +kernel
  have hfolded : Registry.absolute w.files.cwd ⟨"/p/./a//b.py"⟩ = ⟨"/p/a/b.py"⟩ := by decide +kernel
  have hfolded' : Registry.absolute w.files.cwd ⟨"/p/x/../a/b.py"⟩ = ⟨"/p/a/b.py"⟩ := by
    decide +kernel
  have hsame : Registry.absolute w.files.cwd ⟨"/p/./a//b.py"⟩ =
      Registry.absolute w.files.cwd ⟨"/p/a/b.py"⟩ := by decide +kernel
  have hne : (⟨"/p/a/b.py"⟩ : Path) ≠ w.root 0 := by rw [hroot]; decide
  rcases @targets_of_found (bench (.recorder .fresh)) rfl (by decide) [.openFolders [⟨"/p"⟩]]
    (by simp) 0 with ⟨-, hspellings, -, hsteps⟩
  have hsecond := (hspellings ⟨"/p/./a//b.py"⟩ ⟨"/p/a/b.py"⟩ ⟨by decide, by decide⟩
    ⟨by decide, by decide⟩ hfind (hfolded ▸ hne) hsame "T").2
  refine ⟨hfind, hsecond, hfind', fun hname => ?_⟩
  rcases hsteps (by rw [hroot]; decide) ⟨"/p/x/../a/b.py"⟩ (by decide) hfind' (hfolded' ▸ hne) with
    ⟨folders, name, hlies, hiff⟩
  -- The file lies there whatever its spelling, but with a step up the name is of the raw
  -- components.
  have hlies' :
      Lies (w.root 0) (Registry.absolute w.files.cwd ⟨"/p/x/../a/b.py"⟩) ["a"] "b.py" := by
    rw [hfolded', hroot]
    exact ⟨by simpa using ⟨⟨by decide, by decide, by decide⟩, by decide, by decide, by decide⟩,
      by decide⟩
  rcases hlies.unique hlies' with ⟨rfl, rfl⟩
  have hraw := ((hiff "T" (by decide)).1 hname).components
  rw [hroot] at hraw
  revert hraw
  decide

/-- A name that is stepped back from is left in the name of a class, which then is the name of
another one, and a file that is spelled through another folder has no name though it is found. -/
theorem misnamed_of_step_up :
    let w := runCalls (bench (.recorder .fresh)) [.openFolders [⟨"/p"⟩]]
    w.root 0 = ⟨"/p"⟩ ∧
    (Registry.find? w ⟨"/p/a/../b.py"⟩ = some 0 ∧
      Registry.absolute w.files.cwd ⟨"/p/a/../b.py"⟩ = ⟨"/p/b.py"⟩ ∧
      dottedPath? (w.root 0) ⟨"/p/b.py"⟩ "T" = some "b.T" ∧
      dottedPath? (w.root 0) ⟨"/p/a/../b.py"⟩ "T" = some "a.b.T" ∧
      dottedPath? (w.root 0) ⟨"/p/a/b.py"⟩ "T" = some "a.b.T") ∧
    Registry.find? w ⟨"/q/../p/b.py"⟩ = some 0 ∧
      Registry.absolute w.files.cwd ⟨"/q/../p/b.py"⟩ = ⟨"/p/b.py"⟩ ∧
      dottedPath? (w.root 0) ⟨"/q/../p/b.py"⟩ "T" = none := by
  decide +kernel

end Dispatch
end Testbench
