import Testbench.ProjectFiles

/-!
# Path — normal paths and where they are cached

A normal path is absolute and has nothing to fold. It is determined by its names, so is its parent,
and a folder above it together with its key below that folder gives the path back.

- `Path.IsNormal`, `Path.ofNames` : normal paths and the paths of names;
- `IsNormal.exists_names`         : a normal path is the path of its names;
- `parent?_ofNames`, `mem_ancestors_ofNames` : the folders above it;
- `eq_of_cacheKey?`               : two files below one folder with one key are one file.
-/

namespace Testbench
namespace Text

theorem splitOn_of_not_mem {sep : Char} {part : List Char} (h : sep ∉ part) :
    splitOn sep part = [part] := by
  induction part with
  | nil => rfl
  | cons c rest ih =>
      have hc : c ≠ sep := fun heq => h (by simp [heq])
      have hrest : sep ∉ rest := fun hmem => h (List.mem_cons_of_mem _ hmem)
      rw [splitOn, if_neg hc, ih hrest]

theorem splitOn_append_cons {sep : Char} {part : List Char} (h : sep ∉ part) (rest : List Char) :
    splitOn sep (part ++ sep :: rest) = part :: splitOn sep rest := by
  induction part with
  | nil => simp [splitOn]
  | cons c part ih =>
      have hc : c ≠ sep := fun heq => h (by simp [heq])
      have hpart : sep ∉ part := fun hmem => h (List.mem_cons_of_mem _ hmem)
      rw [List.cons_append, splitOn, if_neg hc, ih hpart]

/-- Parts without separators are found again. -/
theorem splitOn_joinWith {sep : Char} {parts : List (List Char)} (hne : parts ≠ [])
    (h : ∀ part ∈ parts, sep ∉ part) : splitOn sep (joinWith sep parts) = parts := by
  induction parts with
  | nil => exact absurd rfl hne
  | cons part rest ih =>
      have hpart := h part (by simp)
      cases rest with
      | nil => exact splitOn_of_not_mem hpart
      | cons next more =>
          have hrest := ih (by simp) fun p hp => h p (List.mem_cons_of_mem _ hp)
          rw [joinWith, splitOn_append_cons hpart, hrest]
          simp

theorem not_mem_of_mem_splitOn {sep : Char} {cs part : List Char} (h : part ∈ splitOn sep cs) :
    sep ∉ part := by
  induction cs generalizing part with
  | nil =>
      have hpart : part = [] := by simpa [splitOn] using h
      simp [hpart]
  | cons c rest ih =>
      by_cases hc : c = sep
      · rw [splitOn, if_pos hc] at h
        rcases List.mem_cons.1 h with rfl | hrest
        · simp
        · exact ih hrest
      · rw [splitOn, if_neg hc] at h
        -- The character belongs to the first part of the rest.
        cases hsplit : splitOn sep rest with
        | nil => exact absurd hsplit (splitOn_ne_nil sep rest)
        | cons first parts =>
            rw [hsplit] at h ih
            rcases List.mem_cons.1 h with rfl | hmore
            · have hfirst : sep ∉ first := ih (by simp)
              intro hmem
              rcases List.mem_cons.1 hmem with heq | hin
              · exact hc heq.symm
              · exact hfirst hin
            · exact ih (List.mem_cons_of_mem _ hmore)

/-- What is put together has the characters of the parts, and the separator. -/
theorem mem_joinWith_iff {sep c : Char} (hc : c ≠ sep) (parts : List (List Char)) :
    c ∈ joinWith sep parts ↔ ∃ part ∈ parts, c ∈ part := by
  induction parts with
  | nil => simp [joinWith]
  | cons first rest ih =>
      cases rest with
      | nil => simp [joinWith]
      | cons next more =>
          have hjoin : joinWith sep (first :: next :: more) =
              first ++ sep :: joinWith sep (next :: more) := rfl
          rw [hjoin, List.mem_append, List.mem_cons, or_iff_right hc, ih]
          simp

/-- A character that does not separate stands in a part. -/
theorem mem_iff_splitOn {sep c : Char} (hc : c ≠ sep) (cs : List Char) :
    c ∈ cs ↔ ∃ part ∈ splitOn sep cs, c ∈ part := by
  rw [← mem_joinWith_iff hc, joinWith_splitOn]

theorem mem_of_mem_splitOn {sep c : Char} {cs part : List Char} (h : part ∈ splitOn sep cs)
    (hc : c ∈ part) : c ∈ cs := by
  have hne : c ≠ sep := fun heq => not_mem_of_mem_splitOn h (heq ▸ hc)
  exact (mem_iff_splitOn hne cs).2 ⟨part, h, hc⟩

theorem joinWith_append_singleton {sep : Char} {parts : List (List Char)} (hne : parts ≠ [])
    (part : List Char) :
    joinWith sep (parts ++ [part]) = joinWith sep parts ++ sep :: part := by
  induction parts with
  | nil => exact absurd rfl hne
  | cons first rest ih =>
      cases rest with
      | nil => simp [joinWith]
      | cons next more =>
          have hrest := ih (by simp)
          simp only [List.cons_append, joinWith] at hrest ⊢
          rw [hrest]
          simp

theorem toList_intercalate {sep : String} {c : Char} (hsep : sep.toList = [c])
    (texts : List String) :
    (sep.intercalate texts).toList = joinWith c (texts.map String.toList) := by
  rw [String.toList_intercalate, hsep]
  induction texts with
  | nil => rfl
  | cons text rest ih =>
      cases rest with
      | nil => simp [joinWith]
      | cons next more =>
          have hjoin : joinWith c (text.toList :: (next :: more).map String.toList) =
              text.toList ++ c :: joinWith c ((next :: more).map String.toList) := rfl
          rw [List.map_cons, hjoin, ← ih, List.map_cons, List.intercalate_cons_cons]
          simp

/-- Texts without separators are told by what they are put together to. -/
theorem intercalate_injective {sep : String} {c : Char} (hsep : sep.toList = [c])
    {texts texts' : List String} (hne : texts ≠ []) (hne' : texts' ≠ [])
    (h : ∀ s ∈ texts, c ∉ s.toList) (h' : ∀ s ∈ texts', c ∉ s.toList)
    (heq : sep.intercalate texts = sep.intercalate texts') : texts = texts' := by
  have hparts : ∀ {texts : List String}, (∀ s ∈ texts, c ∉ s.toList) →
      ∀ part ∈ texts.map String.toList, c ∉ part := by
    intro texts hall part hpart
    rcases List.mem_map.1 hpart with ⟨s, hs, rfl⟩
    exact hall s hs
  have hsame : texts.map String.toList = texts'.map String.toList := by
    rw [← splitOn_joinWith (by simpa using hne) (hparts h),
      ← splitOn_joinWith (by simpa using hne') (hparts h'), ← toList_intercalate hsep,
      ← toList_intercalate hsep, heq]
  exact (List.map_inj_right fun _ _ => String.toList_inj.1).1 hsame

end Text

namespace Path

/-! ## Names -/

/-- What may stand between two slashes of a path, and is a component of it. -/
structure IsSegment (segment : String) : Prop where
  noSlash : '/' ∉ segment.toList
  sound : isSilent segment.toList = false

/-- What may stand between two slashes of a normal path. -/
structure IsName (name : String) : Prop where
  noSlash : '/' ∉ name.toList
  sound : isSilent name.toList = false
  notUp : name.toList ≠ ['.', '.']

theorem IsName.isSegment {name : String} (h : IsName name) : IsSegment name :=
  ⟨h.noSlash, h.sound⟩

theorem isSegment_up : IsSegment ".." := ⟨by decide, by decide⟩

/-- The path of some names, from the root down. -/
def ofNames (names : List String) : Path :=
  ofChars ('/' :: Text.joinWith '/' (names.map String.toList))

theorem chars_ofNames (names : List String) :
    (ofNames names).chars = '/' :: Text.joinWith '/' (names.map String.toList) := by
  simp [ofNames, ofChars, chars]

theorem eq_of_chars {p q : Path} (h : p.chars = q.chars) : p = q := by
  rcases p with ⟨s⟩
  rcases q with ⟨t⟩
  exact congrArg Path.mk (String.toList_inj.1 h)

theorem isSilent_nil : isSilent [] = true := rfl

theorem IsSegment.ne_nil {segment : String} (h : IsSegment segment) : segment.toList ≠ [] := by
  intro hnil
  have hsound := h.sound
  rw [hnil, isSilent_nil] at hsound
  exact Bool.noConfusion hsound

theorem IsName.ne_nil {name : String} (h : IsName name) : name.toList ≠ [] := h.isSegment.ne_nil

theorem splitOn_segments {segments : List String} (hne : segments ≠ [])
    (h : ∀ s ∈ segments, IsSegment s) :
    Text.splitOn '/' (Text.joinWith '/' (segments.map String.toList)) =
      segments.map String.toList := by
  refine Text.splitOn_joinWith (by simpa using hne) ?_
  intro part hpart
  rcases List.mem_map.1 hpart with ⟨s, hs, rfl⟩
  exact (h s hs).noSlash

theorem splitOn_names {names : List String} (hne : names ≠ []) (h : ∀ n ∈ names, IsName n) :
    Text.splitOn '/' (Text.joinWith '/' (names.map String.toList)) = names.map String.toList :=
  splitOn_segments hne fun n hn => (h n hn).isSegment

theorem cut_ofNames (names : List String) :
    cut (ofNames names).chars = (['/'], Text.joinWith '/' (names.map String.toList)) := by
  rw [chars_ofNames, cut]

/-! ## Components -/

theorem segmentComponent_name {name : String} (h : IsName name) :
    segmentComponent name.toList = .name name := by
  have hup : (name.toList == ['.', '.']) = false := by simpa using h.notUp
  rw [segmentComponent, hup, String.ofList_toList]
  rfl

theorem components_ofNames {names : List String} (h : ∀ n ∈ names, IsName n) :
    (ofNames names).components = .root :: names.map .name := by
  rw [components, cut_ofNames]
  cases names with
  | nil => rfl
  | cons first rest =>
      have hsplit := splitOn_names (by simp) h
      -- A name is neither empty nor a dot nor a step up, so all of them count and stand for
      -- themselves.
      have hsound : ((first :: rest).map String.toList).filter (fun s => !isSilent s) =
          (first :: rest).map String.toList := by
        refine List.filter_eq_self.2 ?_
        intro s hs
        rcases List.mem_map.1 hs with ⟨n, hn, rfl⟩
        simp [(h n hn).sound]
      have hnames : ((first :: rest).map String.toList).map segmentComponent =
          (first :: rest).map .name := by
        rw [List.map_map]
        refine List.map_congr_left ?_
        intro n hn
        exact segmentComponent_name (h n hn)
      simp only [bodyComponents, leadComponents, hsplit, hsound, hnames, List.singleton_append]

/-- The names of a path of names are found in its components. -/
theorem ofNames_injective {names names' : List String} (h : ∀ n ∈ names, IsName n)
    (h' : ∀ n ∈ names', IsName n)
    (heq : (ofNames names).components = (ofNames names').components) : names = names' := by
  rw [components_ofNames h, components_ofNames h', List.cons.injEq] at heq
  exact (List.map_inj_right fun _ _ hab => Component.name.inj hab).1 heq.2

/-! ## Down and up -/

/-- The text of segments does not end in a slash. -/
theorem getLast?_joinWith {segments : List String} (hne : segments ≠ [])
    (h : ∀ s ∈ segments, IsSegment s) :
    ('/' :: Text.joinWith '/' (segments.map String.toList)).getLast? ≠ some '/' := by
  rcases List.eq_nil_or_concat segments with hnil | ⟨init, last, hlast⟩
  · exact absurd hnil hne
  · have hsegment : IsSegment last := h last (by simp [hlast])
    -- The text ends in the last segment, which has no slash.
    have hends : ∃ front, '/' :: Text.joinWith '/' (segments.map String.toList) =
        front ++ last.toList := by
      rw [hlast, List.concat_eq_append, List.map_append, List.map_singleton]
      cases init with
      | nil => exact ⟨['/'], rfl⟩
      | cons first rest =>
          rw [Text.joinWith_append_singleton (by simp)]
          exact ⟨'/' :: (Text.joinWith '/' ((first :: rest).map String.toList) ++ ['/']), by simp⟩
    rcases hends with ⟨front, hfront⟩
    intro hslash
    rw [hfront, List.getLast?_append, List.getLast?_eq_some_getLast hsegment.ne_nil,
      Option.some_or] at hslash
    have hmem := List.getLast_mem hsegment.ne_nil
    rw [Option.some.inj hslash] at hmem
    exact hsegment.noSlash hmem

/-- What has no slash is joined and does not stand for itself. -/
theorem isAbsolute_of_not_mem {s : String} (hs : '/' ∉ s.toList) :
    (⟨s⟩ : Path).isAbsolute = false := by
  refine Bool.eq_false_iff.2 fun habs => ?_
  have hhead : s.toList.head? = some '/' := by simpa [isAbsolute, chars] using habs
  exact hs (List.mem_of_head? hhead)

theorem join_segments {segments : List String} (h : ∀ s ∈ segments, IsSegment s)
    {segment : String} (hsegment : IsSegment segment) :
    (ofNames segments).join ⟨segment⟩ = ofNames (segments ++ [segment]) := by
  have hfull : (ofNames segments).isEmpty = false := by
    simp [isEmpty, ofNames, ofChars]
  refine eq_of_chars ?_
  rw [join, if_neg (by simp [isAbsolute_of_not_mem hsegment.noSlash])]
  -- Onto the root no slash is needed.
  cases hsegments : segments with
  | nil =>
      have hslash : (ofNames []).chars.getLast? = some '/' := rfl
      have hroot : (ofNames []).text.toList = ['/'] := chars_ofNames []
      rw [if_pos (by simp [hslash]), chars_ofNames]
      simp [chars, hroot, Text.joinWith]
  | cons first rest =>
      have hne : segments ≠ [] := by simp [hsegments]
      have hlast : (ofNames segments).chars.getLast? ≠ some '/' := by
        rw [chars_ofNames]
        exact getLast?_joinWith hne h
      have hopen : ((ofNames segments).isEmpty ||
          (ofNames segments).chars.getLast? == some '/') = false := by
        rw [hfull, Bool.false_or]
        simpa using hlast
      have htext : (ofNames segments).text.toList = _ := chars_ofNames segments
      rw [← hsegments, if_neg (by rw [hopen]; exact Bool.false_ne_true), chars_ofNames,
        List.map_append, List.map_singleton, Text.joinWith_append_singleton (by simpa using hne)]
      simp [chars, htext]

theorem parent?_segments {segments : List String} (h : ∀ s ∈ segments, IsSegment s)
    {segment : String} (hsegment : IsSegment segment) :
    (ofNames (segments ++ [segment])).parent? = some (ofNames segments) := by
  have hall : ∀ s ∈ segments ++ [segment], IsSegment s := by
    intro s hs
    rcases List.mem_append.1 hs with hold | hnew
    · exact h s hold
    · rw [List.mem_singleton.1 hnew]
      exact hsegment
  have hsplit := splitOn_segments (by simp) hall
  -- No segment is passed over from behind.
  have hsound : soundFromEnd (segments.map String.toList).reverse =
      (segments.map String.toList).reverse := by
    cases hrev : (segments.map String.toList).reverse with
    | nil => rfl
    | cons last rest =>
        have hmem : last ∈ segments.map String.toList := List.mem_reverse.1 (by simp [hrev])
        rcases List.mem_map.1 hmem with ⟨s, hs, rfl⟩
        rw [soundFromEnd, List.dropWhile_cons_of_neg (by simp [(h s hs).sound])]
  have hreverse : ((segments ++ [segment]).map String.toList).reverse =
      segment.toList :: (segments.map String.toList).reverse := by
    rw [List.map_append, List.map_singleton, List.reverse_append, List.reverse_singleton,
      List.singleton_append]
  have hlast : soundFromEnd (segment.toList :: (segments.map String.toList).reverse) =
      segment.toList :: (segments.map String.toList).reverse := by
    rw [soundFromEnd, List.dropWhile_cons_of_neg (by simp [hsegment.sound])]
  rw [parent?, cut_ofNames]
  simp only [hsplit, hreverse, hlast, hsound, List.reverse_reverse, List.singleton_append]
  rw [ofNames]

theorem join_ofNames {names : List String} (h : ∀ n ∈ names, IsName n) {name : String}
    (hname : IsName name) : (ofNames names).join ⟨name⟩ = ofNames (names ++ [name]) :=
  join_segments (fun n hn => (h n hn).isSegment) hname.isSegment

theorem parent?_ofNames {names : List String} (h : ∀ n ∈ names, IsName n) {name : String}
    (hname : IsName name) : (ofNames (names ++ [name])).parent? = some (ofNames names) :=
  parent?_segments (fun n hn => (h n hn).isSegment) hname.isSegment

theorem parent?_root : (ofNames []).parent? = none := rfl

/-! ## Folding -/

/-- Absolute, with nothing to fold. -/
def IsNormal (p : Path) : Prop := p.isAbsolute = true ∧ p.fold = p

instance (p : Path) : Decidable p.IsNormal :=
  inferInstanceAs (Decidable (p.isAbsolute = true ∧ p.fold = p))

/-- A component that can follow the root: a name, or a step up. -/
def IsStep (c : Component) : Prop := c = .up ∨ ∃ name, c = .name name ∧ IsName name

theorem isStep_of_mem_bodyComponents {body : List Char} {c : Component}
    (h : c ∈ bodyComponents body) : IsStep c := by
  rcases List.mem_map.1 h with ⟨segment, hsegment, rfl⟩
  rcases List.mem_filter.1 hsegment with ⟨hpart, hsound⟩
  by_cases hup : segment = ['.', '.']
  · left
    simp [segmentComponent, hup]
  · right
    refine ⟨String.ofList segment, by simp [segmentComponent, hup], ?_, ?_, ?_⟩
    · simpa using Text.not_mem_of_mem_splitOn hpart
    · simpa using hsound
    · simpa using hup

theorem root_not_mem_bodyComponents (body : List Char) : .root ∉ bodyComponents body := by
  intro h
  rcases isStep_of_mem_bodyComponents h with heq | ⟨name, heq, -⟩ <;> cases heq

theorem name_not_mem_leadComponents (lead : List Char) (name : String) :
    .name name ∉ leadComponents lead := by
  unfold leadComponents
  split <;> simp

/-- The components are that of the lead and those of the rest. -/
theorem components_eq_append (p : Path) :
    p.components = leadComponents (cut p.chars).1 ++ bodyComponents (cut p.chars).2 := rfl

/-- A step up drops the last name, if there is one. -/
theorem foldStep_up_ofNames {names : List String} (h : ∀ n ∈ names, IsName n) :
    foldStep false (ofNames names) .up = ofNames names.dropLast := by
  rcases List.eq_nil_or_concat names with rfl | ⟨init, last, rfl⟩
  · -- Above the root is the root.
    rfl
  · rw [List.concat_eq_append] at h ⊢
    have hinit : ∀ n ∈ init, IsName n := fun n hn => h n (List.mem_append_left _ hn)
    rw [foldStep, parent?_ofNames hinit (h last (by simp)), List.dropLast_concat]

theorem foldStep_ofNames {names : List String} (h : ∀ n ∈ names, IsName n) {c : Component}
    (hc : IsStep c) :
    ∃ names', (∀ n ∈ names', IsName n) ∧ foldStep false (ofNames names) c = ofNames names' := by
  rcases hc with rfl | ⟨name, rfl, hname⟩
  · exact ⟨names.dropLast, fun n hn => h n (List.dropLast_subset names hn), foldStep_up_ofNames h⟩
  · exact ⟨names ++ [name], List.forall_mem_append.2 ⟨h, List.forall_mem_singleton.2 hname⟩,
      join_ofNames h hname⟩

theorem foldl_foldStep_ofNames {cs : List Component} (hcs : ∀ c ∈ cs, IsStep c)
    {names : List String} (h : ∀ n ∈ names, IsName n) :
    ∃ names', (∀ n ∈ names', IsName n) ∧
      cs.foldl (foldStep false) (ofNames names) = ofNames names' := by
  induction cs generalizing names with
  | nil => exact ⟨names, h, rfl⟩
  | cons c rest ih =>
      rcases foldStep_ofNames h (hcs c (by simp)) with ⟨names', hnames', hstep⟩
      rw [List.foldl_cons, hstep]
      exact ih (fun c hc => hcs c (List.mem_cons_of_mem _ hc)) hnames'

theorem exists_names_fold {p : Path} (h : p.isAbsolute = true) :
    ∃ names, (∀ n ∈ names, IsName n) ∧ p.fold = ofNames names := by
  cases hchars : p.chars with
  | nil => simp [isAbsolute, hchars] at h
  | cons c rest =>
      have hslash : c = '/' := by simpa [isAbsolute, hchars] using h
      have hcomponents : p.components = .root :: bodyComponents rest := by
        rw [components, hchars, hslash, cut]
        rfl
      rw [fold, hcomponents, List.foldl_cons]
      have hroot : foldStep false ⟨""⟩ .root = ofNames [] := rfl
      rw [hroot]
      exact foldl_foldStep_ofNames (fun c hc => isStep_of_mem_bodyComponents hc) (by simp)

/-- A normal path is the path of its names. -/
theorem IsNormal.exists_names {p : Path} (h : p.IsNormal) :
    ∃ names, (∀ n ∈ names, IsName n) ∧ p = ofNames names := by
  rcases exists_names_fold h.1 with ⟨names, hnames, hfold⟩
  exact ⟨names, hnames, h.2.symm.trans hfold⟩

/-- Normal paths with the same components are equal. -/
theorem IsNormal.eq_of_same {p q : Path} (hp : p.IsNormal) (hq : q.IsNormal)
    (h : p.components = q.components) : p = q := by
  calc
    p = p.fold := hp.2.symm
    _ = q.fold := by rw [fold, fold, h]
    _ = q := hq.2

/-- Folding over names pushes them one after the other. -/
theorem foldl_foldStep_map_name {front back : List String} (h : ∀ n ∈ front ++ back, IsName n) :
    (back.map .name).foldl (foldStep false) (ofNames front) = ofNames (front ++ back) := by
  induction back generalizing front with
  | nil => simp
  | cons name rest ih =>
      have hfront : ∀ n ∈ front, IsName n := fun n hn => h n (List.mem_append_left _ hn)
      have hstep : foldStep false (ofNames front) (.name name) = ofNames (front ++ [name]) :=
        join_ofNames hfront (h name (by simp))
      rw [List.map_cons, List.foldl_cons, hstep, ih (by simpa using h)]
      simp

theorem isNormal_ofNames {names : List String} (h : ∀ n ∈ names, IsName n) :
    (ofNames names).IsNormal := by
  refine ⟨by simp [isAbsolute, chars_ofNames], ?_⟩
  have hroot : foldStep false ⟨""⟩ .root = ofNames [] := rfl
  rw [fold, components_ofNames h, List.foldl_cons, hroot, foldl_foldStep_map_name h,
    List.nil_append]

/-! ## Folders above a file -/

theorem mem_chain_ofNames {names : List String} (h : ∀ n ∈ names, IsName n) {count : Nat}
    {q : Path} (hq : q ∈ (ofNames names).chain count) :
    ∃ front back, names = front ++ back ∧ q = ofNames front := by
  induction count generalizing names with
  | zero => exact ⟨names, [], by simp, by simpa [chain] using hq⟩
  | succ count ih =>
      rcases List.eq_nil_or_concat names with rfl | ⟨init, last, rfl⟩
      · exact ⟨[], [], rfl, by simpa [chain, parent?_root] using hq⟩
      · rw [List.concat_eq_append] at h hq ⊢
        have hinit : ∀ n ∈ init, IsName n := fun n hn => h n (List.mem_append_left _ hn)
        rw [chain, parent?_ofNames hinit (h last (by simp))] at hq
        rcases List.mem_cons.1 hq with rfl | hup
        · exact ⟨init ++ [last], [], by simp, rfl⟩
        · rcases ih hinit hup with ⟨front, back, rfl, hfront⟩
          exact ⟨front, back ++ [last], by simp, hfront⟩

/-- A folder properly above a file. -/
theorem mem_drop_ancestors_ofNames {names : List String} (h : ∀ n ∈ names, IsName n) {q : Path}
    (hq : q ∈ (ofNames names).ancestors.drop 1) :
    ∃ front back, back ≠ [] ∧ names = front ++ back ∧ q = ofNames front := by
  rw [ancestors] at hq
  cases hcount : (ofNames names).chars.length with
  | zero => simp [hcount, chain] at hq
  | succ count =>
      rw [hcount] at hq
      rcases List.eq_nil_or_concat names with rfl | ⟨init, last, rfl⟩
      · simp [chain, parent?_root] at hq
      · rw [List.concat_eq_append] at h hq ⊢
        have hinit : ∀ n ∈ init, IsName n := fun n hn => h n (List.mem_append_left _ hn)
        rw [chain, parent?_ofNames hinit (h last (by simp))] at hq
        rcases mem_chain_ofNames hinit (by simpa using hq) with ⟨front, back, rfl, hfront⟩
        exact ⟨front, back ++ [last], by simp, by simp, hfront⟩

end Path

/-! ## Keys -/

namespace ProjectFiles

open Testbench.Path (IsName IsNormal ofNames)

theorem afterStart?_append {α : Type} [DecidableEq α] (start rest : List α) :
    Path.afterStart? start (start ++ rest) = some rest := by
  induction start with
  | nil => rfl
  | cons a start ih => rw [List.cons_append, Path.afterStart?, if_pos rfl, ih]

theorem names_map_name (names : List String) :
    Path.names (names.map .name) = names := by
  induction names with
  | nil => rfl
  | cons name rest ih =>
      simp only [Path.names, List.map_cons, List.filterMap_cons] at ih ⊢
      rw [ih]

theorem cacheKey?_ofNames {front back : List String} (h : ∀ n ∈ front ++ back, IsName n) :
    cacheKey? (ofNames front) (ofNames (front ++ back)) = some ("/".intercalate back) := by
  have hfront : ∀ n ∈ front, IsName n := fun n hn => h n (List.mem_append_left _ hn)
  have hbelow : (ofNames front).below? (ofNames (front ++ back)) = some (back.map .name) := by
    rw [Path.below?, Path.components_ofNames h, Path.components_ofNames hfront, List.map_append,
      ← List.cons_append, afterStart?_append]
  rw [cacheKey?, hbelow]
  simp [names_map_name]

theorem toList_intercalate_eq (names : List String) :
    ("/".intercalate names).toList = Text.joinWith '/' (names.map String.toList) :=
  Text.toList_intercalate rfl names

/-- A key tells the names below the folder. -/
theorem intercalate_injective {names names' : List String} (hne : names ≠ []) (hne' : names' ≠ [])
    (h : ∀ n ∈ names, IsName n) (h' : ∀ n ∈ names', IsName n)
    (heq : "/".intercalate names = "/".intercalate names') : names = names' :=
  Text.intercalate_injective rfl hne hne' (fun n hn => (h n hn).noSlash)
    (fun n hn => (h' n hn).noSlash) heq

/-- A folder above a file, and the key of the file there. -/
structure IsAddress (file root : Path) (key : String) : Prop where
  above : root ∈ file.ancestors.drop 1
  key : cacheKey? root file = some key

theorem IsAddress.exists_names {file root : Path} {key : String} (hfile : file.IsNormal)
    (h : IsAddress file root key) : ∃ front back, (∀ n ∈ front ++ back, IsName n) ∧ back ≠ [] ∧
      file = ofNames (front ++ back) ∧ root = ofNames front ∧ key = "/".intercalate back := by
  rcases hfile.exists_names with ⟨names, hnames, rfl⟩
  rcases Path.mem_drop_ancestors_ofNames hnames h.above with ⟨front, back, hne, rfl, hroot⟩
  refine ⟨front, back, hnames, hne, rfl, hroot, ?_⟩
  have hkey := h.key
  rw [hroot, cacheKey?_ofNames hnames] at hkey
  exact (Option.some.inj hkey).symm

theorem IsAddress.root_isNormal {file root : Path} {key : String} (hfile : file.IsNormal)
    (h : IsAddress file root key) : root.IsNormal := by
  rcases h.exists_names hfile with ⟨front, back, hnames, _, _, rfl, _⟩
  exact Path.isNormal_ofNames fun n hn => hnames n (List.mem_append_left _ hn)

/-- Two files with one address are one file. -/
theorem IsAddress.file_eq {file file' root : Path} {key : String} (hfile : file.IsNormal)
    (hfile' : file'.IsNormal) (h : IsAddress file root key) (h' : IsAddress file' root key) :
    file = file' := by
  rcases h.exists_names hfile with ⟨front, back, hnames, hne, rfl, hroot, hkey⟩
  rcases h'.exists_names hfile' with ⟨front', back', hnames', hne', rfl, hroot', hkey'⟩
  have hfront : front = front' :=
    Path.ofNames_injective (fun n hn => hnames n (List.mem_append_left _ hn))
      (fun n hn => hnames' n (List.mem_append_left _ hn)) (by rw [← hroot, ← hroot'])
  have hback : back = back' :=
    intercalate_injective hne hne' (fun n hn => hnames n (List.mem_append_right _ hn))
      (fun n hn => hnames' n (List.mem_append_right _ hn)) (by rw [← hkey, ← hkey'])
  rw [hfront, hback]

end ProjectFiles
end Testbench
