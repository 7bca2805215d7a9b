import Testbench.Proofs.Path

/-!
# Spelling — one path in several spellings

A spelling may repeat slashes and hold `.` segments, and neither shows in its components. The
folders above a path are beginnings of its spelling and of its components, and a name that is joined
is one component more. Without `..`, folding sees nothing but the components.

- `Path.Above`            : a folder above a path, as a beginning of it;
- `above_of_mem_ancestors` : the folders that a path has above it;
- `components_joinText`   : a name below a folder;
- `Path.IsStraight`, `fold_eq_iff` : paths without `..`, and when two of them fold to one path.
-/

namespace Testbench
namespace Text

/-- A separator cuts, whatever stands around it. -/
theorem splitOn_append (sep : Char) (cs rest : List Char) :
    splitOn sep (cs ++ sep :: rest) = splitOn sep cs ++ splitOn sep rest := by
  induction cs with
  | nil => simp [splitOn]
  | cons c cs ih =>
      by_cases hc : c = sep
      · rw [List.cons_append, splitOn, if_pos hc, ih, splitOn, if_pos hc, List.cons_append]
      · rw [List.cons_append, splitOn, if_neg hc, ih, splitOn, if_neg hc]
        cases hsplit : splitOn sep cs with
        | nil => exact absurd hsplit (splitOn_ne_nil sep cs)
        | cons part parts => simp

theorem joinWith_isPrefix (sep : Char) (front back : List (List Char)) :
    joinWith sep front <+: joinWith sep (front ++ back) := by
  induction front with
  | nil => exact List.nil_prefix
  | cons part rest ih =>
      cases rest with
      | nil =>
          cases back with
          | nil => exact List.prefix_rfl
          | cons next more => exact ⟨sep :: joinWith sep (next :: more), rfl⟩
      | cons next more =>
          have hrest : part ++ sep :: joinWith sep (next :: more) <+:
              part ++ sep :: joinWith sep (next :: more ++ back) :=
            (List.prefix_append_right_inj part).2 (List.cons_prefix_cons.2 ⟨rfl, ih⟩)
          exact hrest

end Text

namespace Path

/-! ## Components of a spelling -/

theorem components_of_isAbsolute {p : Path} (h : p.isAbsolute = true) :
    ∃ body, p.chars = '/' :: body ∧ p.components = .root :: bodyComponents body := by
  cases hchars : p.chars with
  | nil => simp [isAbsolute, hchars] at h
  | cons c body =>
      have hslash : c = '/' := by simpa [isAbsolute, hchars] using h
      subst hslash
      refine ⟨body, rfl, ?_⟩
      rw [components, hchars, cut]
      rfl

theorem components_of_chars {p : Path} {body : List Char} (h : p.chars = '/' :: body) :
    p.isAbsolute = true ∧ p.components = .root :: bodyComponents body := by
  refine ⟨by simp [isAbsolute, h], ?_⟩
  rw [components, h, cut]
  rfl

theorem isStep_of_mem_components {p : Path} (h : p.isAbsolute = true) {c : Component}
    (hc : c ∈ p.components.tail) : IsStep c := by
  rcases components_of_isAbsolute h with ⟨body, _, hcomponents⟩
  rw [hcomponents, List.tail_cons] at hc
  exact isStep_of_mem_bodyComponents hc

/-- Only sound segments count. -/
theorem bodyComponents_joinWith {parts : List (List Char)} (h : ∀ part ∈ parts, '/' ∉ part) :
    bodyComponents (Text.joinWith '/' parts) =
      (parts.filter fun s => !isSilent s).map segmentComponent := by
  cases hparts : parts with
  | nil => rfl
  | cons part rest => rw [bodyComponents, Text.splitOn_joinWith (by simp) (by rwa [← hparts])]

theorem bodyComponents_append (body rest : List Char) :
    bodyComponents (body ++ '/' :: rest) = bodyComponents body ++ bodyComponents rest := by
  rw [bodyComponents, Text.splitOn_append, List.filter_append, List.map_append]
  rfl

theorem bodyComponents_segment {segment : String} (h : IsSegment segment) :
    bodyComponents segment.toList = [segmentComponent segment.toList] := by
  rw [bodyComponents, Text.splitOn_of_not_mem h.noSlash]
  simp [h.sound]

/-! ## The folders above a path -/

/-- A folder that is spelled as a beginning of a path, and what the path has below it. -/
structure Above (q p : Path) (below : List Component) : Prop where
  absolute : q.isAbsolute = true
  spelled : q.chars <+: p.chars
  components : p.components = q.components ++ below

theorem Above.refl {p : Path} (h : p.isAbsolute = true) : Above p p [] :=
  ⟨h, List.prefix_rfl, by simp⟩

theorem Above.trans {r q p : Path} {below more : List Component} (h : Above r q more)
    (h' : Above q p below) : Above r p (more ++ below) :=
  ⟨h.absolute, h.spelled.trans h'.spelled, by rw [h'.components, h.components, List.append_assoc]⟩

theorem filter_soundFromEnd (segments : List (List Char)) :
    (soundFromEnd segments).filter (fun s => !isSilent s) =
      segments.filter fun s => !isSilent s := by
  induction segments with
  | nil => rfl
  | cons segment rest ih =>
      rw [soundFromEnd]
      cases hsilent : isSilent segment with
      | true =>
          rw [List.dropWhile_cons_of_pos hsilent, List.filter_cons_of_neg (by simp [hsilent])]
          exact ih
      | false => rw [List.dropWhile_cons_of_neg (by simp [hsilent])]

/-- The last segment that counts is cut off, with the silent ones around it. -/
theorem exists_of_soundFromEnd {segments rest : List (List Char)} {last : List Char}
    (h : soundFromEnd segments.reverse = last :: rest) :
    (∃ back, segments = (soundFromEnd rest).reverse ++ back) ∧
      segments.filter (fun s => !isSilent s) =
        ((soundFromEnd rest).reverse.filter fun s => !isSilent s) ++ [last] := by
  -- What is left after dropping the silent ones starts with a sound one.
  have hsound : isSilent last = false := by
    have hhead := List.head?_dropWhile_not isSilent segments.reverse
    rw [soundFromEnd] at h
    rw [h] at hhead
    simpa using hhead
  refine ⟨?_, ?_⟩
  · rcases List.dropWhile_suffix (l := segments.reverse) isSilent with ⟨ends, hends⟩
    rcases List.dropWhile_suffix (l := rest) isSilent with ⟨inner, hinner⟩
    rw [soundFromEnd] at h
    rw [h] at hends
    refine ⟨inner.reverse ++ [last] ++ ends.reverse, ?_⟩
    calc
      segments = (ends ++ last :: rest).reverse := by rw [hends, List.reverse_reverse]
      _ = (ends ++ last :: (inner ++ soundFromEnd rest)).reverse := by rw [soundFromEnd, hinner]
      _ = _ := by simp
  · calc
      segments.filter (fun s => !isSilent s)
          = ((soundFromEnd segments.reverse).filter fun s => !isSilent s).reverse := by
            rw [filter_soundFromEnd, List.filter_reverse, List.reverse_reverse]
      _ = ((last :: rest).filter fun s => !isSilent s).reverse := by rw [h]
      _ = (rest.filter fun s => !isSilent s).reverse ++ [last] := by simp [hsound]
      _ = _ := by rw [List.filter_reverse, filter_soundFromEnd]

theorem above_parent? {p q : Path} (h : p.isAbsolute = true) (hq : p.parent? = some q) :
    ∃ c, Above q p [c] := by
  rcases components_of_isAbsolute h with ⟨body, hchars, hcomponents⟩
  have hcut : cut p.chars = (['/'], body) := by rw [hchars, cut]
  simp only [parent?, hcut] at hq
  split at hq
  · rename_i last rest hends
    have hspelling : q.chars = '/' :: Text.joinWith '/' (soundFromEnd rest).reverse := by
      rw [← Option.some.inj hq]
      simp [ofChars, chars]
    rcases exists_of_soundFromEnd hends with ⟨⟨back, hback⟩, hfilter⟩
    -- The parent is spelled with segments of the path, so its components can be read off them.
    have hparts : ∀ part ∈ (soundFromEnd rest).reverse, '/' ∉ part := by
      intro part hpart
      have hmem : part ∈ Text.splitOn '/' body := by
        rw [hback]
        exact List.mem_append_left _ hpart
      exact Text.not_mem_of_mem_splitOn hmem
    rcases components_of_chars hspelling with ⟨habsolute, hshorter⟩
    refine ⟨segmentComponent last, habsolute, ?_, ?_⟩
    · have hjoined := Text.joinWith_isPrefix '/' (soundFromEnd rest).reverse back
      rw [← hback, Text.joinWith_splitOn] at hjoined
      rw [hspelling, hchars]
      exact List.cons_prefix_cons.2 ⟨rfl, hjoined⟩
    · rw [hcomponents, hshorter, bodyComponents_joinWith hparts, bodyComponents, hfilter]
      simp
  · simp at hq

/-- The parent of a path that ends in some component below another. -/
theorem exists_parent? {p : Path} (h : p.isAbsolute = true) {cs : List Component} {c : Component}
    (hcs : cs ≠ []) (hp : p.components = cs ++ [c]) :
    ∃ q, p.parent? = some q ∧ q.isAbsolute = true ∧ q.components = cs := by
  cases hparent : p.parent? with
  | some q =>
      rcases above_parent? h hparent with ⟨last, habove⟩
      rw [habove.components] at hp
      exact ⟨q, rfl, habove.absolute, (List.append_inj' hp rfl).1⟩
  | none =>
      exfalso
      rcases components_of_isAbsolute h with ⟨body, hchars, hcomponents⟩
      have hcut : cut p.chars = (['/'], body) := by rw [hchars, cut]
      simp only [parent?, hcut] at hparent
      split at hparent
      · simp at hparent
      · rename_i hends
        -- Nothing stands after the leading slash.
        have hbody : bodyComponents body = [] := by
          rw [bodyComponents, ← List.reverse_reverse (Text.splitOn '/' body), List.filter_reverse,
            ← filter_soundFromEnd, hends]
          rfl
        rw [hcomponents, hbody] at hp
        cases cs with
        | nil => exact hcs rfl
        | cons d ds => simp at hp

theorem above_of_mem_chain {p q : Path} (h : p.isAbsolute = true) {count : Nat}
    (hq : q ∈ p.chain count) : ∃ below, Above q p below := by
  induction count generalizing p with
  | zero =>
      have heq : q = p := by simpa [chain] using hq
      rw [heq]
      exact ⟨[], Above.refl h⟩
  | succ count ih =>
      rw [chain] at hq
      -- Without a parent the chain ends here.
      cases hparent : p.parent? with
      | none =>
          have heq : q = p := by simpa [hparent] using hq
          rw [heq]
          exact ⟨[], Above.refl h⟩
      | some up =>
          rw [hparent] at hq
          rcases List.mem_cons.1 hq with rfl | hmem
          · exact ⟨[], Above.refl h⟩
          · rcases above_parent? h hparent with ⟨c, habove⟩
            rcases ih habove.absolute hmem with ⟨below, hbelow⟩
            exact ⟨below ++ [c], hbelow.trans habove⟩

/-- The folders above a path are those above its parent, and the parent. -/
theorem drop_ancestors {p : Path} (h : p.isAbsolute = true) :
    p.ancestors.drop 1 = match p.parent? with
      | some up => up.chain (p.chars.length - 1)
      | none => [] := by
  rcases components_of_isAbsolute h with ⟨body, hchars, _⟩
  rw [ancestors, hchars, List.length_cons, chain]
  cases p.parent? with
  | none => rfl
  | some up => simp

theorem above_of_mem_ancestors {p q : Path} (h : p.isAbsolute = true)
    (hq : q ∈ p.ancestors.drop 1) : ∃ below, below ≠ [] ∧ Above q p below := by
  rw [drop_ancestors h] at hq
  cases hparent : p.parent? with
  | none => simp [hparent] at hq
  | some up =>
      rw [hparent] at hq
      rcases above_parent? h hparent with ⟨c, habove⟩
      rcases above_of_mem_chain habove.absolute hq with ⟨below, hbelow⟩
      exact ⟨below ++ [c], by simp, hbelow.trans habove⟩

/-! ## A name below a folder -/

/-- Read from inside an absolute path everything is absolute. -/
theorem isAbsolute_join {p : Path} (h : p.isAbsolute = true) (q : Path) :
    (p.join q).isAbsolute = true := by
  rcases components_of_isAbsolute h with ⟨body, hchars, _⟩
  have hlonger : ∀ s : String, (⟨p.text ++ s⟩ : Path).isAbsolute = true := by
    intro s
    have hsplit : (⟨p.text ++ s⟩ : Path).chars = '/' :: (body ++ s.toList) := by
      rw [chars, String.toList_append]
      exact congrArg (· ++ s.toList) hchars
    simp [isAbsolute, hsplit]
  unfold join
  split
  · assumption
  · split
    · exact hlonger q.text
    · have happ := hlonger ("/" ++ q.text)
      rwa [← String.append_assoc] at happ

/-- What is joined to a path, absolute or not, comes first, or follows a slash. -/
theorem chars_join_cases (p : Path) {s : String} (hs : (⟨s⟩ : Path).isAbsolute = false) :
    (p.chars = [] ∧ (p.joinText s).chars = s.toList) ∨
      (∃ front, p.chars = front ++ ['/'] ∧ (p.joinText s).chars = front ++ '/' :: s.toList) ∨
      (p.chars ≠ [] ∧ (p.joinText s).chars = p.chars ++ '/' :: s.toList) := by
  have hslash : "/".toList = ['/'] := rfl
  rw [joinText, join, if_neg (by simp [hs])]
  by_cases hempty : p.chars = []
  · have htext : p.text = "" := String.toList_eq_nil_iff.1 hempty
    rw [if_pos (by simp [isEmpty, htext]), htext, String.empty_append]
    exact .inl ⟨hempty, rfl⟩
  -- A slash is put between only if there is none and something comes before.
  · by_cases hlast : p.chars.getLast? = some '/'
    · rcases List.getLast?_eq_some_iff.1 hlast with ⟨front, hfront⟩
      rw [if_pos (by simp [hlast])]
      refine .inr (.inl ⟨front, hfront, ?_⟩)
      rw [chars, String.toList_append, ← chars, hfront, List.append_assoc]
      rfl
    · have htext : p.text ≠ "" := fun h => hempty (String.toList_eq_nil_iff.2 h)
      rw [if_neg (by simp [isEmpty, htext, hlast])]
      refine .inr (.inr ⟨hempty, ?_⟩)
      rw [chars, String.toList_append, String.toList_append, hslash, List.append_assoc]
      rfl

theorem chars_joinText_cases (p : Path) {s : String} (hs : '/' ∉ s.toList) :
    (p.chars = [] ∧ (p.joinText s).chars = s.toList) ∨
      (∃ front, p.chars = front ++ ['/'] ∧ (p.joinText s).chars = front ++ '/' :: s.toList) ∨
      (p.chars ≠ [] ∧ (p.joinText s).chars = p.chars ++ '/' :: s.toList) :=
  chars_join_cases p (isAbsolute_of_not_mem hs)

theorem size_joinText (p : Path) {s : String} (hs : '/' ∉ s.toList) :
    p.size ≤ (p.joinText s).size := by
  rw [joinText, join, if_neg (by simp [isAbsolute_of_not_mem hs])]
  split
  · rw [size, size, String.utf8ByteSize_append]
    omega
  · rw [size, size, String.utf8ByteSize_append, String.utf8ByteSize_append]
    omega

/-- What stands between two slashes follows a slash, an old one or a new one, when it is joined. -/
theorem chars_joinSegment {p : Path} (h : p.isAbsolute = true) {s : String} (hs : '/' ∉ s.toList) :
    (p.chars.getLast? = some '/' ∧ (p.joinText s).chars = p.chars ++ s.toList) ∨
      (p.joinText s).chars = p.chars ++ '/' :: s.toList := by
  rcases chars_joinText_cases p hs with ⟨hempty, -⟩ | ⟨front, hfront, hjoined⟩ | ⟨-, hjoined⟩
  · simp [isAbsolute, hempty] at h
  · refine .inl ⟨by rw [hfront, List.getLast?_concat], ?_⟩
    rw [hjoined, hfront, List.append_assoc, List.singleton_append]
  · exact .inr hjoined

theorem chars_joinText {p : Path} (h : p.isAbsolute = true) {name : String} (hname : IsName name) :
    (p.chars.getLast? = some '/' ∧ (p.joinText name).chars = p.chars ++ name.toList) ∨
      (p.joinText name).chars = p.chars ++ '/' :: name.toList :=
  chars_joinSegment h hname.noSlash

/-- What is joined counts with its own components. -/
theorem components_joinSegment {p : Path} (h : p.isAbsolute = true) {s : String}
    (hs : '/' ∉ s.toList) : (p.joinText s).isAbsolute = true ∧
      (p.joinText s).components = p.components ++ bodyComponents s.toList := by
  rcases components_of_isAbsolute h with ⟨body, hchars, hcomponents⟩
  rcases chars_joinSegment h hs with ⟨hlast, hjoined⟩ | hjoined
  · -- The old slash is the leading one, or it ends the body.
    rcases List.eq_nil_or_concat body with rfl | ⟨front, last, rfl⟩
    · have hsplit : (p.joinText s).chars = '/' :: s.toList := by rw [hjoined, hchars]; rfl
      rcases components_of_chars hsplit with ⟨habsolute, hlonger⟩
      refine ⟨habsolute, ?_⟩
      rw [hlonger, hcomponents]
      rfl
    · rw [List.concat_eq_append] at hchars hcomponents
      have hslash : last = '/' := by
        have hend : ('/' :: front ++ [last]).getLast? = some last := List.getLast?_concat ..
        rw [hchars, ← List.cons_append, hend] at hlast
        exact Option.some.inj hlast
      subst hslash
      have hsplit : (p.joinText s).chars = '/' :: (front ++ '/' :: s.toList) := by
        rw [hjoined, hchars]
        simp
      rcases components_of_chars hsplit with ⟨habsolute, hlonger⟩
      refine ⟨habsolute, ?_⟩
      have hend : bodyComponents [] = [] := rfl
      rw [hlonger, hcomponents, bodyComponents_append, bodyComponents_append, hend]
      simp
  · rw [hchars, List.cons_append] at hjoined
    rcases components_of_chars hjoined with ⟨habsolute, hlonger⟩
    refine ⟨habsolute, ?_⟩
    rw [hlonger, hcomponents, bodyComponents_append]
    rfl

theorem components_joinText {p : Path} (h : p.isAbsolute = true) {name : String}
    (hname : IsName name) : (p.joinText name).isAbsolute = true ∧
      (p.joinText name).components = p.components ++ [.name name] := by
  rw [← segmentComponent_name hname, ← bodyComponents_segment hname.isSegment]
  exact components_joinSegment h hname.noSlash

/-- A name that is joined is the last segment. -/
theorem splitOn_joinText {p : Path} (h : p.isAbsolute = true) {s : String} (hs : '/' ∉ s.toList) :
    ∃ rest front, (p.joinText s).chars = '/' :: rest ∧
      Text.splitOn '/' rest = front ++ [s.toList] := by
  have hsegment : Text.splitOn '/' s.toList = [s.toList] := Text.splitOn_of_not_mem hs
  rcases components_of_isAbsolute (isAbsolute_join h ⟨s⟩) with ⟨rest, hrest, -⟩
  have hends : ∃ front, (p.joinText s).chars = front ++ '/' :: s.toList := by
    rcases chars_joinText_cases p hs with ⟨hnil, -⟩ | ⟨front, -, hjoined⟩ | ⟨-, hjoined⟩
    · simp [isAbsolute, hnil] at h
    · exact ⟨front, hjoined⟩
    · exact ⟨p.chars, hjoined⟩
  rcases hends with ⟨front, hfront⟩
  have heq : front ++ '/' :: s.toList = '/' :: rest := hfront.symm.trans hrest
  cases front with
  | nil => exact ⟨rest, [], hrest, by rw [← List.tail_eq_of_cons_eq heq, hsegment]; rfl⟩
  | cons c front =>
      refine ⟨rest, Text.splitOn '/' front, hrest, ?_⟩
      have htail : front ++ '/' :: s.toList = rest := List.tail_eq_of_cons_eq heq
      rw [← htail, Text.splitOn_append, hsegment]

/-- What was joined is the end of the spelling. -/
theorem chars_joinText_append (p : Path) {s : String} (hs : '/' ∉ s.toList) :
    ∃ front, (p.joinText s).chars = front ++ s.toList := by
  rcases chars_joinText_cases p hs with ⟨-, hjoined⟩ | ⟨front, -, hjoined⟩ | ⟨-, hjoined⟩
  · exact ⟨[], hjoined⟩
  · exact ⟨front ++ ['/'], by rw [hjoined]; simp⟩
  · exact ⟨p.chars ++ ['/'], by rw [hjoined]; simp⟩

theorem isEmpty_joinText (p : Path) {s : String} (hs : IsName s) :
    (p.joinText s).isEmpty = false := by
  rcases chars_joinText_append p hs.noSlash with ⟨front, hfront⟩
  refine Bool.eq_false_iff.2 fun hempty => hs.isSegment.ne_nil ?_
  have htext : (p.joinText s).text = "" := by simpa [isEmpty] using hempty
  rw [chars, htext] at hfront
  exact (List.append_eq_nil_iff.1 hfront.symm).2

theorem getLast?_joinText (p : Path) {s : String} (hs : IsName s) :
    (p.joinText s).chars.getLast? ≠ some '/' := by
  rcases chars_joinText_append p hs.noSlash with ⟨front, hfront⟩
  have hne : s.toList ≠ [] := hs.isSegment.ne_nil
  rw [hfront, List.getLast?_append, List.getLast?_eq_some_getLast hne, Option.some_or]
  intro hslash
  exact hs.noSlash (Option.some.inj hslash ▸ List.getLast_mem hne)

/-- The name that was joined last is cut off again, and what is left is spelled as before. -/
theorem parent?_joinText {p : Path} (h : p.isAbsolute = true) {s name : String} (hs : IsName s)
    (hname : IsName name) : ((p.joinText s).joinText name).parent? = some (p.joinText s) := by
  rcases splitOn_joinText h hs.noSlash with ⟨rest, front, hrest, hsplit⟩
  have hlonger : ((p.joinText s).joinText name).chars = '/' :: (rest ++ '/' :: name.toList) := by
    have habsolute : (p.joinText s).isAbsolute = true := isAbsolute_join h ⟨s⟩
    rcases chars_joinText habsolute hname with ⟨hlast, -⟩ | hjoined
    · exact absurd hlast (getLast?_joinText p hs)
    · rw [hjoined, hrest]
      rfl
  -- The last slash is the one in front of the name.
  have hparts : Text.splitOn '/' (rest ++ '/' :: name.toList) =
      front ++ [s.toList] ++ [name.toList] := by
    rw [Text.splitOn_append, hsplit, Text.splitOn_of_not_mem hname.noSlash]
  have hreverse : (front ++ [s.toList] ++ [name.toList]).reverse =
      name.toList :: s.toList :: front.reverse := by simp
  have hkept : ∀ {part : List Char} (parts : List (List Char)), isSilent part = false →
      soundFromEnd (part :: parts) = part :: parts := fun parts hsound =>
    List.dropWhile_cons_of_neg (by simp [hsound])
  have hjoined : Text.joinWith '/' (front ++ [s.toList]) = rest := by
    rw [← hsplit, Text.joinWith_splitOn]
  have hcut : cut ('/' :: (rest ++ '/' :: name.toList)) = (['/'], rest ++ '/' :: name.toList) := by
    rw [cut]
  rw [parent?, hlonger, hcut]
  simp only [hparts, hreverse, hkept _ hname.sound, hkept _ hs.sound, List.reverse_cons,
    List.reverse_reverse, hjoined]
  refine congrArg some (eq_of_chars ?_)
  rw [hrest]
  simp [ofChars, chars]

/-! ## Paths without `..` -/

/-- Absolute, and never up; slashes and `.` segments may stand anywhere. -/
structure IsStraight (p : Path) : Prop where
  absolute : p.isAbsolute = true
  noUp : Component.up ∉ p.components

/-- Without steps up nothing is lost in the names. -/
theorem eq_map_names {cs : List Component} (h : ∀ c ∈ cs, IsStep c) (hup : .up ∉ cs) :
    cs = (names cs).map .name := by
  induction cs with
  | nil => rfl
  | cons c rest ih =>
      have hrest := ih (fun c hc => h c (List.mem_cons_of_mem _ hc))
        fun hin => hup (List.mem_cons_of_mem _ hin)
      rcases h c (List.mem_cons_self ..) with rfl | ⟨name, rfl, _⟩
      · exact absurd (List.mem_cons_self ..) hup
      · have hnames : names (.name name :: rest) = name :: names rest := rfl
        rw [hnames, List.map_cons, ← hrest]

theorem isName_of_mem_names {cs : List Component} (h : ∀ c ∈ cs, IsStep c) {name : String}
    (hname : name ∈ names cs) : IsName name := by
  rcases List.mem_filterMap.1 hname with ⟨c, hc, hcomponent⟩
  rcases h c hc with rfl | ⟨name', rfl, hall⟩
  · simp at hcomponent
  · have heq : name' = name := by simpa using hcomponent
    rwa [← heq]

theorem IsStraight.exists_names {p : Path} (h : p.IsStraight) :
    ∃ names : List String, (∀ n ∈ names, IsName n) ∧
      p.components = .root :: names.map .name := by
  rcases components_of_isAbsolute h.absolute with ⟨body, _, hcomponents⟩
  have hsteps : ∀ c ∈ bodyComponents body, IsStep c := fun c hc => isStep_of_mem_bodyComponents hc
  have hnoUp : Component.up ∉ bodyComponents body := by
    intro hin
    apply h.noUp
    rw [hcomponents]
    exact List.mem_cons_of_mem _ hin
  refine ⟨names (bodyComponents body), fun n hn => isName_of_mem_names hsteps hn, ?_⟩
  rw [hcomponents, ← eq_map_names hsteps hnoUp]

/-- Folding takes a path to the path of its names. -/
theorem fold_of_names {p : Path} {names : List String} (hnames : ∀ n ∈ names, IsName n)
    (h : p.components = .root :: names.map .name) : p.fold = ofNames names := by
  have hsame : p.components = (ofNames names).components := by rw [h, components_ofNames hnames]
  calc
    p.fold = (ofNames names).fold := by rw [fold, fold, hsame]
    _ = ofNames names := (isNormal_ofNames hnames).2

/-- Two paths without `..` fold to one path when they have the same components. -/
theorem fold_eq_iff {p q : Path} (hp : p.IsStraight) (hq : q.IsStraight) :
    p.fold = q.fold ↔ p.components = q.components := by
  rcases hp.exists_names with ⟨names, hnames, hcomponents⟩
  rcases hq.exists_names with ⟨names', hnames', hcomponents'⟩
  constructor
  · intro hfold
    rw [fold_of_names hnames hcomponents, fold_of_names hnames' hcomponents'] at hfold
    have hsame : names = names' := ofNames_injective hnames hnames' (by rw [hfold])
    rw [hcomponents, hcomponents', hsame]
  · intro hsame
    rw [fold, fold, hsame]

namespace Above

variable {q p : Path} {below : List Component}

/-- What lies below a folder that is spelled as a beginning of a path consists of steps. -/
theorem isStep (h : Above q p below) {c : Component} (hc : c ∈ below) : IsStep c := by
  rcases components_of_isAbsolute h.absolute with ⟨body, hchars, hfolder⟩
  have hp : p.isAbsolute = true := by
    rcases h.spelled with ⟨rest, hrest⟩
    rw [hchars] at hrest
    exact (components_of_chars hrest.symm).1
  apply isStep_of_mem_components hp
  rw [h.components, hfolder]
  exact List.mem_append_right _ hc

theorem isStraight (h : Above q p below) (hp : p.IsStraight) : q.IsStraight := by
  refine ⟨h.absolute, fun hin => hp.noUp ?_⟩
  rw [h.components]
  exact List.mem_append_left _ hin

theorem eq_map_names (h : Above q p below) (hp : p.IsStraight) :
    below = (names below).map .name := by
  apply Path.eq_map_names fun c hc => h.isStep hc
  intro hin
  apply hp.noUp
  rw [h.components]
  exact List.mem_append_right _ hin

end Above

end Path
end Testbench
