import Testbench.Proofs.Files
import Testbench.Proofs.Path.Spelling

/-!
# Walk — where paths lead when there are no links

Without symbolic links a walk goes where the names of its path say, and `..` goes back by one name.
So paths that fold to one path lead to one location, and whether a directory is found depends on the
components of a path and not on its spelling, as long as the spelling is not too long.

- `isLinkless`, `climb`   : trees without links, and where segments lead in them;
- `climb_of_walk`         : a walk that finds something went there;
- `fold_eq_ofNames_climb` : folding does the same to a path;
- `isDir_congr`           : directories are found under every spelling.
-/

namespace Testbench

open Testbench.Path (IsName ofNames isSilent bodyComponents segmentComponent)

namespace FileTree

/-- A tree without symbolic links. -/
def isLinkless (t : FileTree) : Bool :=
  t.nodes.all fun entry => match entry.2 with
    | .link _ => false
    | .file _ | .dir => true

theorem node?_ne_link {t : FileTree} (h : t.isLinkless = true) (here : Location) (target : Path) :
    t.node? here ≠ some (.link target) := by
  intro hnode
  rw [node?] at hnode
  split at hnode
  · simp at hnode
  · rcases Option.map_eq_some_iff.1 hnode with ⟨entry, hfound, hlink⟩
    have hplain := List.all_eq_true.1 h entry (List.mem_of_find?_eq_some hfound)
    simp [hlink] at hplain

/-! ## Where segments lead -/

/-- Where segments lead, if every name on the way is there. -/
def climb (here : Location) : List String → Location
  | [] => here
  | segment :: rest =>
    if isIdle segment then climb here rest
    else if segment == ".." then climb here.dropLast rest
    else climb (here ++ [segment]) rest

theorem climb_idle {segment : String} (h : isIdle segment = true) (here : Location)
    (rest : List String) : climb here (segment :: rest) = climb here rest := by
  rw [climb, if_pos h]

theorem climb_up (here : Location) (rest : List String) :
    climb here (".." :: rest) = climb here.dropLast rest := by
  rw [climb, if_neg (by decide), if_pos (by decide)]

theorem climb_name {name : String} (h : isIdle name = false) (hup : name ≠ "..") (here : Location)
    (rest : List String) : climb here (name :: rest) = climb (here ++ [name]) rest := by
  rw [climb, if_neg (by simp [h]), if_neg (by simpa using hup)]

section

variable {t : FileTree} {through : Bool} {here : Location} {segment : String} {rest : List String}
variable (hplain : t.isLinkless = true)
include hplain

/-- What a walk does at a name, where no name is a link. -/
theorem leg_name (hnode : t.node? here = some .dir) (hidle : isIdle segment = false) :
    t.leg through here (segment :: rest) =
      if segment == ".." then t.leg through here.dropLast rest
      else if segment.utf8ByteSize > nameLimit then .error .nameTooLong
      else match t.node? (here ++ [segment]) with
        | none =>
          if rest.all (· == "") then .ok (.done (.free here segment (!rest.isEmpty)))
          else .error .notFound
        | some _ => t.leg through (here ++ [segment]) rest := by
  rw [leg_sound hnode hidle]
  cases hnext : t.node? (here ++ [segment]) with
  | none => rfl
  | some next =>
      cases next with
      | link target => exact absurd hnext (node?_ne_link hplain _ target)
      | file data => rfl
      | dir => rfl

/-- A leg is a whole walk, and what it finds is where the segments lead. -/
theorem leads_linkless {segments : List String} {l : Leg} (hl : Leads t through here segments l) :
    ∃ place, l = .done place ∧ ∀ there node, place = .found there node →
      there = climb here segments := by
  induction hl with
  | here _ => exact ⟨_, rfl, fun there node hplace => (Place.found.inj hplace).1.symm⟩
  | idle _ hidle _ ih =>
      rw [climb_idle hidle]
      exact ih
  | up _ _ ih =>
      rw [climb_up]
      exact ih
  | free _ _ _ _ => exact ⟨_, rfl, by simp⟩
  | stop _ _ hnext _ => exact absurd hnext (node?_ne_link hplain _ _)
  | follow _ _ hnext _ => exact absurd hnext (node?_ne_link hplain _ _)
  | enter _ hentry _ _ _ ih =>
      rw [climb_name hentry.sound hentry.down]
      exact ih

theorem walkFrom_linkless {links : Nat} {segments : List String}
    {place : Place} : t.walkFrom through (links + 1) here segments = .ok place ↔
      t.leg through here segments = .ok (.done place) := by
  rw [walkFrom_eq_ok_iff, leg_eq_ok_iff, or_iff_left]
  rintro ⟨next, more, hfollow, -⟩
  rcases leads_linkless hplain hfollow with ⟨found, hfound, -⟩
  cases hfound

/-- What is found lies where the path leads. -/
theorem climb_of_walk {p : Path} (hp : p.isAbsolute = true)
    {node : FileNode} (hw : t.walk through p = .ok (.found here node)) :
    here = climb [] (segmentsOf p) := by
  rcases walk_eq_ok_iff.1 hw with ⟨-, -, -, hfrom⟩
  rw [if_pos hp, walkFrom_linkless hplain, leg_eq_ok_iff] at hfrom
  rcases leads_linkless hplain hfrom with ⟨place, hplace, hclimb⟩
  exact hclimb here node (Leg.done.inj hplace).symm

end

/-! ## Folding and climbing -/

theorem ofList_beq (part : List Char) (s : String) :
    (String.ofList part == s) = (part == s.toList) := by
  rw [Bool.eq_iff_iff, beq_iff_eq, beq_iff_eq, ← String.toList_inj, String.toList_ofList]

theorem isIdle_ofList (part : List Char) : isIdle (String.ofList part) = isSilent part := by
  rw [isIdle, ofList_beq, ofList_beq, isSilent]
  cases part <;> rfl

theorem isName_ofList {part : List Char} (hslash : '/' ∉ part) (hsound : isSilent part = false)
    (hup : part ≠ ['.', '.']) : IsName (String.ofList part) :=
  ⟨by simpa using hslash, by simpa using hsound, by simpa using hup⟩

theorem isIdle_of_isName {name : String} (h : IsName name) : isIdle name = false ∧ name ≠ ".." := by
  refine ⟨?_, fun heq => h.notUp (by rw [heq]; rfl)⟩
  rw [← String.ofList_toList (s := name), isIdle_ofList, h.sound]

/-- A segment does not count, or it is a step up, or a name. -/
theorem segment_cases {part : List Char} (hslash : '/' ∉ part) :
    isSilent part = true ∧ isIdle (String.ofList part) = true ∨
    isSilent part = false ∧ String.ofList part = ".." ∧ segmentComponent part = .up ∨
    isSilent part = false ∧ IsName (String.ofList part) ∧
      segmentComponent part = .name (String.ofList part) := by
  cases hsilent : isSilent part with
  | true => exact .inl ⟨rfl, by rw [isIdle_ofList, hsilent]⟩
  | false =>
      by_cases hup : part = ['.', '.']
      · exact .inr (.inl ⟨rfl, by rw [hup], by simp [segmentComponent, hup]⟩)
      · exact .inr (.inr ⟨rfl, isName_ofList hslash hsilent hup, by simp [segmentComponent, hup]⟩)

/-- Folding goes where the segments lead. -/
theorem foldl_foldStep_climb {parts : List (List Char)} (hparts : ∀ part ∈ parts, '/' ∉ part)
    {here : Location} (hnames : ∀ n ∈ here, IsName n) :
    (∀ n ∈ climb here (parts.map String.ofList), IsName n) ∧
      ((parts.filter fun s => !isSilent s).map segmentComponent).foldl (Path.foldStep false)
        (ofNames here) = ofNames (climb here (parts.map String.ofList)) := by
  induction parts generalizing here with
  | nil => exact ⟨hnames, rfl⟩
  | cons part rest ih =>
      rcases List.forall_mem_cons.1 hparts with ⟨hslash, hrest⟩
      rw [List.map_cons]
      rcases segment_cases hslash with
        ⟨hsilent, hidle⟩ | ⟨hsound, hup, hcomponent⟩ | ⟨hsound, hname, hcomponent⟩
      · rw [climb_idle hidle, List.filter_cons_of_neg (by simp [hsilent])]
        exact ih hrest hnames
      · rw [hup, climb_up, List.filter_cons_of_pos (by simp [hsound]), List.map_cons,
          List.foldl_cons, hcomponent, Path.foldStep_up_ofNames hnames]
        exact ih hrest fun n hn => hnames n (List.dropLast_subset here hn)
      · rcases isIdle_of_isName hname with ⟨hcounts, hdown⟩
        have hpush : Path.foldStep false (ofNames here) (.name (String.ofList part)) =
            ofNames (here ++ [String.ofList part]) := Path.join_ofNames hnames hname
        rw [climb_name hcounts hdown, List.filter_cons_of_pos (by simp [hsound]), List.map_cons,
          List.foldl_cons, hcomponent, hpush]
        exact ih hrest (List.forall_mem_append.2 ⟨hnames, List.forall_mem_singleton.2 hname⟩)

theorem segmentsOf_absolute {p : Path} {body : List Char} (h : p.chars = '/' :: body) :
    segmentsOf p = "" :: (Text.splitOn '/' body).map String.ofList := by
  rw [segmentsOf, h, Text.splitOn, if_pos rfl]
  rfl

/-- Folding a path leads where its segments lead. -/
theorem fold_eq_ofNames_climb {p : Path} (hp : p.isAbsolute = true) :
    (∀ n ∈ climb [] (segmentsOf p), IsName n) ∧ p.fold = ofNames (climb [] (segmentsOf p)) := by
  rcases Path.components_of_isAbsolute hp with ⟨body, hchars, hcomponents⟩
  have hclimb : climb [] (segmentsOf p) =
      climb [] ((Text.splitOn '/' body).map String.ofList) := by
    rw [segmentsOf_absolute hchars, climb]
    rfl
  have hparts : ∀ part ∈ Text.splitOn '/' body, '/' ∉ part := fun part hpart =>
    Text.not_mem_of_mem_splitOn hpart
  have hstart : ∀ n ∈ ([] : Location), IsName n := by simp
  have hfold := foldl_foldStep_climb hparts hstart
  have hroot : Path.foldStep false ⟨""⟩ .root = ofNames [] := rfl
  rw [hclimb]
  refine ⟨hfold.1, ?_⟩
  rw [Path.fold, hcomponents, List.foldl_cons, hroot]
  exact hfold.2

/-- Without links, paths that lead somewhere lead to one location when they fold to one path. -/
theorem fold_eq_iff_location? {t : FileTree} (hplain : t.isLinkless = true) {p q : Path}
    (hp : p.isAbsolute = true) (hq : q.isAbsolute = true) {here there : Location}
    (hhere : t.location? p = some here) (hthere : t.location? q = some there) :
    p.fold = q.fold ↔ t.location? p = t.location? q := by
  rcases walk_of_location? hhere with ⟨node, hw, _⟩
  rcases walk_of_location? hthere with ⟨node', hw', _⟩
  rcases fold_eq_ofNames_climb hp with ⟨hnames, hfold⟩
  rcases fold_eq_ofNames_climb hq with ⟨hnames', hfold'⟩
  rw [← climb_of_walk hplain hp hw] at hnames hfold
  rw [← climb_of_walk hplain hq hw'] at hnames' hfold'
  rw [hfold, hfold', hhere, hthere]
  constructor
  · intro hsame
    rw [Path.ofNames_injective hnames hnames' (by rw [hsame])]
  · intro hsame
    rw [Option.some.inj hsame]

/-! ## Directories under every spelling -/

/-- Idle segments do not matter for what directory is found. -/
theorem leg_dir_iff {t : FileTree} (hplain : t.isLinkless = true) (here there : Location)
    (segments : List String) :
    t.leg true here segments = .ok (.done (.found there .dir)) ↔
      t.leg true here (segments.filter fun s => !isIdle s) = .ok (.done (.found there .dir)) := by
  induction segments generalizing here with
  | nil => rfl
  | cons segment rest ih =>
      cases hnode : t.node? here with
      | none =>
          -- Nothing is found from where nothing is.
          have hnone : ∀ more, t.leg true here more = .error .notFound := by
            intro more
            cases more <;> simp [leg, hnode]
          rw [hnone, hnone]
      | some node =>
          cases node with
          | link target => exact absurd hnode (node?_ne_link hplain here target)
          | file data =>
              have hfile : ∀ more, t.leg true here more ≠ .ok (.done (.found there .dir)) := by
                intro more
                cases more <;> simp [leg, hnode]
              exact iff_of_false (hfile _) (hfile _)
          | dir =>
              cases hidle : isIdle segment with
              | true =>
                  rw [leg_idle hnode hidle, List.filter_cons_of_neg (by simp [hidle])]
                  exact ih here
              | false =>
                  rw [List.filter_cons_of_pos (by simp [hidle]), leg_name hplain hnode hidle,
                    leg_name hplain hnode hidle]
                  split
                  · exact ih here.dropLast
                  · split
                    · rfl
                    · split
                      · -- A free name is no directory, whatever follows it.
                        have hfree : ∀ more : List String, (if more.all (· == "") then
                            .ok (.done (.free here segment (!more.isEmpty)))
                            else .error .notFound : Except FileError Leg) ≠
                              .ok (.done (.found there .dir)) := by
                          intro more
                          split <;> simp
                        exact iff_of_false (hfree _) (hfree _)
                      · exact ih _

/-- A spelling that a walk accepts. -/
structure IsWalkable (p : Path) : Prop where
  absolute : p.isAbsolute = true
  noNul : '\x00' ∉ p.chars
  short : p.size ≤ pathLimit

theorem isDir_iff {t : FileTree} (hplain : t.isLinkless = true) {p : Path} (hp : IsWalkable p) :
    t.isDir p = true ↔ ∃ there, t.leg true [] (segmentsOf p) = .ok (.done (.found there .dir)) := by
  have hnonempty : p.isEmpty = false := by
    refine Bool.eq_false_iff.2 fun hempty => ?_
    have htext : p.text = "" := by simpa [Path.isEmpty] using hempty
    have habsolute := hp.absolute
    simp [Path.isAbsolute, Path.chars, htext] at habsolute
  have hnul : p.chars.contains '\x00' = false := by simpa using hp.noNul
  rw [isDir_iff_found]
  refine exists_congr fun there => ?_
  rw [walk_eq_ok_iff, if_pos hp.absolute, walkFrom_linkless hplain]
  simp only [hnul, hnonempty, hp.short, true_and]

theorem segmentComponent_injective {part other : List Char}
    (h : segmentComponent part = segmentComponent other) : part = other := by
  rw [segmentComponent, segmentComponent] at h
  split at h
  · rename_i hup
    split at h
    · rename_i hup'
      rw [beq_iff_eq.1 hup, beq_iff_eq.1 hup']
    · simp at h
  · split at h
    · simp at h
    · have htext := congrArg String.toList (Path.Component.name.inj h)
      simpa only [String.toList_ofList] using htext

/-- The segments that count are those of the components. -/
theorem sound_segmentsOf {p q : Path} (hp : p.isAbsolute = true) (hq : q.isAbsolute = true)
    (h : p.components = q.components) :
    (segmentsOf p).filter (fun s => !isIdle s) = (segmentsOf q).filter fun s => !isIdle s := by
  rcases Path.components_of_isAbsolute hp with ⟨body, hchars, hcomponents⟩
  rcases Path.components_of_isAbsolute hq with ⟨body', hchars', hcomponents'⟩
  -- The components tell the segments, as a segment can be read off its component.
  have hbodies : bodyComponents body = bodyComponents body' := by
    rw [hcomponents, hcomponents'] at h
    exact (List.cons.inj h).2
  have hparts := (List.map_inj_right fun _ _ => segmentComponent_injective).1 hbodies
  have hfilter : ∀ cs : List Char,
      ("" :: (Text.splitOn '/' cs).map String.ofList).filter (fun s => !isIdle s) =
        ((Text.splitOn '/' cs).filter fun s => !isSilent s).map String.ofList := by
    intro cs
    rw [List.filter_cons_of_neg (by simp [isIdle]), List.filter_map]
    simp only [Function.comp_def, isIdle_ofList]
  rw [segmentsOf_absolute hchars, segmentsOf_absolute hchars', hfilter, hfilter, hparts]

/-- A directory is found under every spelling of it. -/
theorem isDir_congr {t : FileTree} (hplain : t.isLinkless = true) {p q : Path} (hp : IsWalkable p)
    (hq : IsWalkable q) (h : p.components = q.components) : t.isDir p = t.isDir q := by
  have hsegments := sound_segmentsOf hp.absolute hq.absolute h
  have hiff : t.isDir p = true ↔ t.isDir q = true := by
    rw [isDir_iff hplain hp, isDir_iff hplain hq]
    refine exists_congr fun there => ?_
    rw [leg_dir_iff hplain, hsegments, ← leg_dir_iff hplain]
  exact Bool.eq_iff_iff.2 hiff

end FileTree
end Testbench
