import Testbench.Proofs.Cache.Table
import Testbench.Proofs.Parsing.Address

/-!
# Spelling — files are found under each spelling of their folder

A walk passes by empty segments and `.` segments, as long as a segment that counts comes after them.
So a path that ends with a name leads to one place under all its spellings, through symbolic links
too. Only a spelling that is too long leads nowhere.

- `segment?`, `filter_segmentsOf` : the segments that count are those of the components;
- `walkFrom_counting`               : no other segments matter to a walk;
- `Alike`, `walk_congr`           : two spellings of one path;
- `Cache.load_of_same`            : the table of a folder.
-/

namespace Testbench

open Testbench.Path (IsName isSilent bodyComponents segmentComponent)

/-- The segment that a component is spelled with, if it counts. -/
def Path.Component.segment? : Path.Component → Option String
  | .root | .here => none
  | .up => some ".."
  | .name s => some s

namespace FileTree

/-! ## Segments that count -/

/-- Without the segments that a walk passes by. -/
abbrev counting (segments : List String) : List String := segments.filter fun s => !isIdle s

theorem counting_body (body : List Char) :
    counting ((Text.splitOn '/' body).map String.ofList) =
      (bodyComponents body).filterMap Path.Component.segment? := by
  have hsegment : ∀ part, (segmentComponent part).segment? = some (String.ofList part) := by
    intro part
    unfold segmentComponent
    split
    · rename_i hup
      rw [beq_iff_eq.1 hup]
      rfl
    · rfl
  rw [counting, List.filter_map, bodyComponents, List.filterMap_map]
  simp only [Function.comp_def, isIdle_ofList, hsegment]
  exact (congrFun List.filterMap_eq_map _).symm

/-- The segments that count are those of the components. -/
theorem filter_segmentsOf (p : Path) :
    counting (segmentsOf p) = p.components.filterMap Path.Component.segment? := by
  have hidle : ∀ {s : String} {rest : List String}, isIdle s = true →
      counting (s :: rest) = counting rest := fun h => List.filter_cons_of_neg (by simp [h])
  rw [Path.components_eq_append, segmentsOf]
  -- What the lead stands for is no segment, and its segments do not count.
  unfold Path.cut
  split
  · rename_i rest hchars
    rw [hchars, Text.splitOn, if_pos rfl, List.map_cons, hidle rfl, counting_body]
    rfl
  · rename_i hchars
    rw [hchars]
    rfl
  · rename_i rest hchars
    have hsplit : Text.splitOn '/' ('.' :: '/' :: rest) = ['.'] :: Text.splitOn '/' rest :=
      Text.splitOn_append_cons (by decide : '/' ∉ ['.']) rest
    rw [hchars, hsplit, List.map_cons, hidle rfl, counting_body]
    rfl
  · rw [counting_body]
    rfl

/-- Nothing is left, or a segment that counts comes last. -/
def EndsSound (segments : List String) : Prop :=
  ∀ s ∈ segments.getLast?, isIdle s = false

namespace EndsSound

variable {segment : String} {rest : List String}

theorem append (h : EndsSound rest) (hne : rest ≠ []) (front : List String) :
    EndsSound (front ++ rest) := by
  intro s hs
  rw [List.getLast?_append_of_ne_nil front hne] at hs
  exact h s hs

theorem tail (h : EndsSound (segment :: rest)) : EndsSound rest := by
  intro s hs
  cases rest with
  | nil => simp at hs
  | cons next more => exact h s (by rwa [List.getLast?_cons_cons])

theorem all_eq_false (h : EndsSound rest) (hne : rest ≠ []) : rest.all (· == "") = false := by
  have hlast := h _ (List.getLast?_eq_some_getLast hne)
  refine List.all_eq_false.2 ⟨_, List.getLast_mem hne, fun hempty => ?_⟩
  rw [beq_iff_eq.1 hempty] at hlast
  simp [isIdle] at hlast

theorem counting_ne_nil {segments : List String} (h : EndsSound segments) (hne : segments ≠ []) :
    counting segments ≠ [] := by
  have hlast := List.getLast?_eq_some_getLast hne
  have hmem : segments.getLast hne ∈ counting segments :=
    List.mem_filter.2 ⟨List.getLast_mem hne, by rw [h _ hlast]; rfl⟩
  exact List.ne_nil_of_mem hmem

end EndsSound

theorem counting_append (front back : List String) :
    counting (front ++ back) = counting front ++ counting back := List.filter_append _ _

theorem endsSound_counting (segments : List String) : EndsSound (counting segments) := by
  intro s hs
  have hmem := (List.mem_filter.1 (List.mem_of_getLast? hs)).2
  simpa using hmem

/-! ## Walks -/

/-- Two legs that end in the same way, or follow a link with the same segments that count. -/
inductive SameLeg : Except FileError Leg → Except FileError Leg → Prop where
  | same (x : Except FileError Leg) : SameLeg x x
  | follow (start : Location) (segments : List String) {rest : List String} (h : EndsSound rest) :
      SameLeg (.ok (.follow start (segments ++ rest)))
        (.ok (.follow start (segments ++ counting rest)))

section

variable {t : FileTree} {here : Location} {segment : String} {rest : List String}

/-- A leg passes by all other segments. -/
theorem sameLeg_counting (t : FileTree) (here : Location) {segments : List String}
    (h : EndsSound segments) :
    SameLeg (t.leg true here segments) (t.leg true here (counting segments)) := by
  induction segments generalizing here with
  | nil => exact .same _
  | cons segment rest ih =>
      rcases List.exists_cons_of_ne_nil (h.counting_ne_nil (List.cons_ne_nil _ _)) with
        ⟨first, more, hcounting⟩
      -- Where no directory is, it does not matter which segment comes next.
      have hstuck : ∀ cause, (∀ s l, t.leg true here (s :: l) = .error cause) →
          SameLeg (t.leg true here (segment :: rest))
            (t.leg true here (counting (segment :: rest))) := by
        intro cause hcause
        rw [hcounting, hcause, hcause]
        exact .same _
      cases hnode : t.node? here with
      | none => exact hstuck .notFound fun s l => by simp [leg, hnode]
      | some node =>
          cases node with
          | link target => exact hstuck .notDirectory fun s l => by simp [leg, hnode]
          | file data => exact hstuck .notDirectory fun s l => by simp [leg, hnode]
          | dir =>
              cases hidle : isIdle segment with
              | true =>
                  rw [leg_idle hnode hidle, counting, List.filter_cons_of_neg (by simp [hidle])]
                  exact ih here h.tail
              | false =>
                  rw [counting, List.filter_cons_of_pos (by simp [hidle]), leg_sound hnode hidle,
                    leg_sound hnode hidle]
                  simp only [Bool.not_true, Bool.and_false, Bool.false_eq_true, if_false]
                  split
                  · exact ih here.dropLast h.tail
                  · split
                    · exact .same _
                    · split
                      · by_cases hnil : rest = []
                        · rw [hnil]
                          exact .same _
                        · rw [h.tail.all_eq_false hnil, (endsSound_counting rest).all_eq_false
                            (h.tail.counting_ne_nil hnil)]
                          exact .same _
                      · exact .follow _ _ h.tail
                      · exact ih _ h.tail

theorem walkFrom_counting (t : FileTree) (links : Nat) (here : Location) {segments : List String}
    (h : EndsSound segments) :
    t.walkFrom true links here segments = t.walkFrom true links here (counting segments) := by
  induction links generalizing here segments with
  | zero => rfl
  | succ links ih =>
      have hlegs := sameLeg_counting t here h
      rw [walkFrom, walkFrom]
      generalize t.leg true here segments = x at hlegs
      generalize t.leg true here (counting segments) = y at hlegs
      cases hlegs with
      | same => rfl
      | @follow start front rest hrest =>
          -- The segments of the link are the same on both sides, whether they count or not. They
          -- stand in front of a rest that ends in one that counts, so the walk from the link may
          -- drop the others.
          change t.walkFrom true links start (front ++ rest) =
            t.walkFrom true links start (front ++ counting rest)
          by_cases hnil : rest = []
          · rw [hnil]
            rfl
          · rw [ih start (hrest.append hnil front),
              ih start ((endsSound_counting rest).append (hrest.counting_ne_nil hnil) front)]
            simp only [counting_append, counting, List.filter_filter, Bool.and_self]

end

/-! ## Spellings of one path -/

/-- Two spellings of one path, as far as walks go. -/
structure Alike (p q : Path) : Prop where
  segments : counting (segmentsOf p) = counting (segmentsOf q)
  absolute : p.isAbsolute = q.isAbsolute

theorem isAbsolute_iff (p : Path) : p.isAbsolute = true ↔ .root ∈ p.components := by
  rw [Path.components_eq_append, List.mem_append,
    or_iff_left (Path.root_not_mem_bodyComponents _), Path.isAbsolute]
  -- The lead tells: only a slash stands for the root.
  unfold Path.cut
  split
  · rename_i rest hchars
    simp [hchars, Path.leadComponents]
  · rename_i hchars
    simp [hchars, Path.leadComponents]
  · rename_i rest hchars
    simp [hchars, Path.leadComponents]
  · rename_i hnot _ _
    refine iff_of_false ?_ List.not_mem_nil
    intro hslash
    cases hchars : p.chars with
    | nil => simp [hchars] at hslash
    | cons c rest =>
        have hc : c = '/' := by simpa [hchars] using hslash
        exact hnot rest (hc ▸ hchars)

theorem alike_of_components {p q : Path} (h : p.components = q.components) : Alike p q := by
  refine ⟨by rw [filter_segmentsOf, filter_segmentsOf, h], Bool.eq_iff_iff.2 ?_⟩
  rw [isAbsolute_iff, isAbsolute_iff, h]

/-- A character that is neither a slash nor a dot stands in a segment that counts. -/
theorem mem_chars_iff {p : Path} {c : Char} (hslash : c ≠ '/') (hdot : c ≠ '.') :
    c ∈ p.chars ↔ ∃ s ∈ counting (segmentsOf p), c ∈ s.toList := by
  rw [Text.mem_iff_splitOn hslash]
  constructor
  · rintro ⟨part, hpart, hc⟩
    -- A segment that does not count is empty or a dot.
    have hsound : isSilent part = false := by
      rw [isSilent, Bool.or_eq_false_iff]
      refine ⟨List.isEmpty_eq_false_iff.2 (List.ne_nil_of_mem hc), beq_eq_false_iff_ne.2 ?_⟩
      rintro rfl
      exact hdot (List.mem_singleton.1 hc)
    refine ⟨String.ofList part, List.mem_filter.2 ⟨List.mem_map_of_mem hpart, ?_⟩, ?_⟩
    · rw [isIdle_ofList, hsound]
      rfl
    · rwa [String.toList_ofList]
  · rintro ⟨s, hs, hc⟩
    rcases List.mem_map.1 (List.mem_filter.1 hs).1 with ⟨part, hpart, rfl⟩
    rw [String.toList_ofList] at hc
    exact ⟨part, hpart, hc⟩

/-- A path that ends with a name leads to one place under all its spellings that are not too
long. -/
theorem walk_congr {t : FileTree} {p q : Path} (h : Alike p q) (hp : EndsSound (segmentsOf p))
    (hq : EndsSound (segmentsOf q)) (hpsize : p.size ≤ pathLimit) (hqsize : q.size ≤ pathLimit) :
    t.walk true p = t.walk true q := by
  have hne : ∀ r : Path, segmentsOf r ≠ [] := fun r hnil =>
    Text.splitOn_ne_nil '/' r.chars (List.map_eq_nil_iff.1 hnil)
  have hnonempty : ∀ {r : Path}, EndsSound (segmentsOf r) → r.isEmpty = false := by
    intro r hr
    refine Bool.eq_false_iff.2 fun hempty => ?_
    have htext : r.text = "" := by simpa [Path.isEmpty] using hempty
    have hidle := hr "" (by rw [segmentsOf, Path.chars, htext]; rfl)
    simp [isIdle] at hidle
  -- What a walk checks in front of its first leg is the same for both spellings.
  have hnul : p.chars.contains '\x00' = q.chars.contains '\x00' := by
    rw [Bool.eq_iff_iff, List.contains_iff_mem, List.contains_iff_mem,
      mem_chars_iff (by decide) (by decide), mem_chars_iff (by decide) (by decide), h.segments]
  have hfrom : ∀ front : List String,
      t.walkFrom true (linkLimit + 1) [] (front ++ segmentsOf p) =
        t.walkFrom true (linkLimit + 1) [] (front ++ segmentsOf q) := by
    intro front
    rw [walkFrom_counting t _ _ (hp.append (hne p) front),
      walkFrom_counting t _ _ (hq.append (hne q) front), counting_append,
        counting_append, h.segments]
  unfold walk
  rw [hnul, hnonempty hp, hnonempty hq, if_neg (Nat.not_lt.2 hpsize), if_neg (Nat.not_lt.2 hqsize),
    h.absolute]
  split
  · rfl
  · rw [if_neg Bool.false_ne_true, if_neg Bool.false_ne_true]
    cases q.isAbsolute with
    | true => exact hfrom []
    | false => exact hfrom (segmentsOf t.cwd)

/-! ## Names below a folder -/

theorem segmentsOf_joinText (p : Path) {s : String} (hs : IsName s) :
    (∃ front, segmentsOf (p.joinText s) = front ++ [s] ∧ counting front = counting (segmentsOf p)) ∧
      (p.joinText s).isAbsolute = p.isAbsolute := by
  have hsegment : Text.splitOn '/' s.toList = [s.toList] := Text.splitOn_of_not_mem hs.noSlash
  have hslash : ∀ front : List Char, (p.joinText s).chars = front ++ '/' :: s.toList →
      segmentsOf (p.joinText s) = (Text.splitOn '/' front).map String.ofList ++ [s] := by
    intro front hchars
    rw [segmentsOf, hchars, Text.splitOn_append, hsegment, List.map_append, List.map_singleton,
      String.ofList_toList]
  -- Onto nothing, onto a slash, or onto what needs one.
  rcases Path.chars_joinText_cases p hs.noSlash with
    ⟨hnil, hchars⟩ | ⟨front, hfront, hchars⟩ | ⟨hne, hchars⟩
  · refine ⟨⟨[], ?_, ?_⟩, ?_⟩
    · rw [segmentsOf, hchars, hsegment, List.map_singleton, String.ofList_toList, List.nil_append]
    · rw [segmentsOf, hnil]
      rfl
    · have hnot : p.isAbsolute = false := by
        rw [Path.isAbsolute, hnil]
        rfl
      rw [hnot, Path.isAbsolute, hchars]
      exact Path.isAbsolute_of_not_mem hs.noSlash
  · refine ⟨⟨_, hslash front hchars, ?_⟩, ?_⟩
    · have hend : Text.splitOn '/' [] = [[]] := rfl
      rw [segmentsOf, hfront, Text.splitOn_append, hend]
      simp [counting, isIdle]
    · rw [Path.isAbsolute, hchars, Path.isAbsolute, hfront]
      cases front <;> rfl
  · refine ⟨⟨_, hslash p.chars hchars, rfl⟩, ?_⟩
    rw [Path.isAbsolute, hchars, Path.isAbsolute]
    cases hp : p.chars with
    | nil => exact absurd hp hne
    | cons c rest => rfl

theorem Alike.joinText {p q : Path} (h : Alike p q) {s : String} (hs : IsName s) :
    Alike (p.joinText s) (q.joinText s) := by
  rcases segmentsOf_joinText p hs with ⟨⟨front, hp, hfront⟩, habsolute⟩
  rcases segmentsOf_joinText q hs with ⟨⟨front', hq, hfront'⟩, habsolute'⟩
  refine ⟨?_, by rw [habsolute, habsolute', h.absolute]⟩
  rw [hp, hq, counting_append, counting_append, hfront, hfront', h.segments]

theorem endsSound_joinText (p : Path) {s : String} (hs : IsName s) :
    EndsSound (segmentsOf (p.joinText s)) := by
  rcases segmentsOf_joinText p hs with ⟨⟨front, hp, -⟩, -⟩
  rw [hp]
  intro last hlast
  rw [List.getLast?_concat, Option.mem_some_iff] at hlast
  rw [← hlast, ← String.ofList_toList (s := s), isIdle_ofList]
  exact hs.sound

end FileTree

namespace Cache

theorem isName_fileName : IsName fileName := by
  refine ⟨?_, ?_, ?_⟩ <;> decide

/-- A table is loaded under each spelling of its folder that is not too long. -/
theorem load_of_same (t : FileTree) {p q : Path} (h : p.same q = true)
    (hp : (fileOf p).size ≤ FileTree.pathLimit) (hq : (fileOf q).size ≤ FileTree.pathLimit) :
    onFiles.load t p = onFiles.load t q := by
  have hfolder := FileTree.alike_of_components (Path.same_iff.1 h)
  have hfile : FileTree.Alike (fileOf p) (fileOf q) :=
    (hfolder.joinText ProjectFiles.isName_settingsDirName).joinText isName_fileName
  have hwalk := FileTree.walk_congr (t := t) hfile (FileTree.endsSound_joinText _ isName_fileName)
    (FileTree.endsSound_joinText _ isName_fileName) hp hq
  rw [onFiles_load, onFiles_load]
  simp only [Table.load, FileTree.readText, FileTree.read, FileTree.stat, hwalk]

end Cache
end Testbench
