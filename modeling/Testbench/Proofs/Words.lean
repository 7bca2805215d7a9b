import Testbench.Invocation
import Testbench.Shell.Word

/-!
# Words — a line as a shell reads it

White space separates the words of a line outside double quotes, and the quotes themselves are
dropped. Which characters are white space is left open between the space alone and every blank of
Unicode.

- `words?`             : the words of a line, `none` if a quote is left open;
- `Separates`          : what is asked of white space;
- `IsWord`             : words that stand for themselves;
- `Spells`             : a part of a line that adds to a word, wherever it stands;
- `words?_quote_cons`  : a quoted word is one word, and none if it is empty;
- `words?_single_iff`  : when a text without quotes is one word.
-/

namespace Testbench
namespace Words

/-- The words from a character on. `word` is what has been read of the word that is open. -/
def read? (isSpace : Char → Bool) :
    (quoted : Bool) → (word : Option (List Char)) → List Char → Option (List (List Char))
  | true, _, [] => none
  | false, word, [] => some word.toList
  | quoted, word, c :: rest =>
    if c == '"' then read? isSpace (!quoted) (some (word.getD [])) rest
    else if isSpace c && !quoted then (read? isSpace false none rest).map (word.toList ++ ·)
    else read? isSpace quoted (some (word.getD [] ++ [c])) rest

def words? (isSpace : Char → Bool) (line : String) : Option (List String) :=
  (read? isSpace false none line.toList).map (·.map String.ofList)

/-- The space is white space, and white space is blank. -/
structure Separates (isSpace : Char → Bool) : Prop where
  space : isSpace ' ' = true
  blank : ∀ c, isSpace c = true → Text.isBlank c = true

theorem separates_isBlank : Separates Text.isBlank := ⟨rfl, fun _ h => h⟩

/-- What separates the words of a command line. -/
theorem separates_isSpace : Separates Shell.isSpace where
  space := rfl
  blank c h := by
    rcases Bool.or_eq_true _ _ ▸ h with h | h
    · rw [beq_iff_eq.1 h]
      rfl
    · rw [beq_iff_eq.1 h]
      rfl

/-- No white space inside. -/
def Solid (isSpace : Char → Bool) (s : String) : Prop :=
  ∀ c ∈ s.toList, isSpace c = false

instance (isSpace : Char → Bool) (s : String) : Decidable (Solid isSpace s) :=
  inferInstanceAs (Decidable (∀ c ∈ s.toList, isSpace c = false))

/-- A word that stands for itself. -/
structure IsWord (isSpace : Char → Bool) (s : String) : Prop where
  ne_empty : s ≠ ""
  noQuote : '"' ∉ s.toList
  solid : Solid isSpace s

/-- A word that stands for itself, whatever white space is. -/
def IsPlain (s : String) : Prop :=
  s ≠ "" ∧ '"' ∉ s.toList ∧ Text.hasBlank s = false

instance (s : String) : Decidable (IsPlain s) :=
  inferInstanceAs (Decidable (s ≠ "" ∧ '"' ∉ s.toList ∧ Text.hasBlank s = false))

/-- The words that stand for a word, of which there is none if it is empty. -/
def kept (s : String) : List String := if s = "" then [] else [s]

theorem kept_of_ne {s : String} (h : s ≠ "") : kept s = [s] := if_neg h

theorem toList_ne_nil {s : String} (h : s ≠ "") : s.toList ≠ [] :=
  fun hnil => h (String.toList_eq_nil_iff.1 hnil)

section

variable {isSpace : Char → Bool}

/-! ## One character after the other -/

theorem read?_plain {c : Char} (hquote : c ≠ '"') (hspace : isSpace c = false)
    (word : Option (List Char)) (rest : List Char) :
    read? isSpace false word (c :: rest) =
      read? isSpace false (some (word.getD [] ++ [c])) rest := by
  rw [read?, if_neg (by simpa using hquote), if_neg (by simp [hspace])]

theorem read?_space {c : Char} (hquote : c ≠ '"') (hspace : isSpace c = true)
    (word : Option (List Char)) (rest : List Char) : read? isSpace false word (c :: rest) =
      (read? isSpace false none rest).map (word.toList ++ ·) := by
  rw [read?, if_neg (by simpa using hquote), if_pos (by simp [hspace])]

theorem read?_mark (quoted : Bool) (word : Option (List Char)) (rest : List Char) :
    read? isSpace quoted word ('"' :: rest) =
      read? isSpace (!quoted) (some (word.getD [])) rest := by
  rw [read?, if_pos (beq_self_eq_true _)]

theorem read?_inside {c : Char} (hquote : c ≠ '"') (word : Option (List Char)) (rest : List Char) :
    read? isSpace true word (c :: rest) = read? isSpace true (some (word.getD [] ++ [c])) rest := by
  rw [read?, if_neg (by simpa using hquote), if_neg (by simp)]

theorem read?_solid {cs : List Char} (hne : cs ≠ []) (hquote : '"' ∉ cs)
    (hsolid : ∀ c ∈ cs, isSpace c = false) (word : Option (List Char)) (rest : List Char) :
    read? isSpace false word (cs ++ rest) =
      read? isSpace false (some (word.getD [] ++ cs)) rest := by
  induction cs generalizing word with
  | nil => exact absurd rfl hne
  | cons c cs ih =>
      rw [List.cons_append, read?_plain (List.ne_of_not_mem_cons hquote).symm
        (hsolid c List.mem_cons_self)]
      by_cases hcs : cs = []
      · rw [hcs]
        rfl
      · rw [ih hcs (List.not_mem_of_not_mem_cons hquote)
          fun d hd => hsolid d (List.mem_cons_of_mem _ hd)]
        simp only [Option.getD_some, List.append_assoc, List.singleton_append]

theorem read?_quoted {cs : List Char} (hquote : '"' ∉ cs) (word rest : List Char) :
    read? isSpace true (some word) (cs ++ rest) = read? isSpace true (some (word ++ cs)) rest := by
  induction cs generalizing word with
  | nil => rw [List.nil_append, List.append_nil]
  | cons c cs ih =>
      rw [List.cons_append, read?_inside (List.ne_of_not_mem_cons hquote).symm,
        ih (List.not_mem_of_not_mem_cons hquote)]
      simp only [Option.getD_some, List.append_assoc, List.singleton_append]

/-! ## Parts of words -/

/-- Outside quotes, a part of a line adds to the open word, and leaves it open. -/
def Spells (isSpace : Char → Bool) (part word : String) : Prop :=
  ∀ before rest, read? isSpace false before (part.toList ++ rest) =
    read? isSpace false (some (before.getD [] ++ word.toList)) rest

theorem Spells.append {part word part' word' : String} (h : Spells isSpace part word)
    (h' : Spells isSpace part' word') : Spells isSpace (part ++ part') (word ++ word') := by
  intro before rest
  rw [String.toList_append, List.append_assoc, h, h', String.toList_append]
  simp only [Option.getD_some, List.append_assoc]

theorem IsWord.spells {s : String} (h : IsWord isSpace s) : Spells isSpace s s :=
  read?_solid (toList_ne_nil h.ne_empty) h.noQuote h.solid

theorem spells_quoted {s : String} (hquote : '"' ∉ s.toList) :
    Spells isSpace ("\"" ++ s ++ "\"") s := by
  intro before rest
  have hmark : "\"".toList = ['"'] := rfl
  rw [String.toList_append, String.toList_append, hmark, List.append_assoc, List.append_assoc,
    List.singleton_append, read?_mark, Bool.not_false, read?_quoted hquote, List.singleton_append,
    read?_mark, Bool.not_true]
  rfl

/-! ## Words of a line -/

theorem words?_empty : words? isSpace "" = some [] := rfl

theorem words?_last {part word : String} (h : Spells isSpace part word) :
    words? isSpace part = some [word] := by
  have hread := h none []
  rw [List.append_nil, read?, Option.getD_none, List.nil_append] at hread
  rw [words?, hread]
  simp

variable (hsep : Separates isSpace)
include hsep

theorem isWord_of_isPlain {s : String} (h : IsPlain s) : IsWord isSpace s := by
  rcases h with ⟨hne, hquote, hblank⟩
  refine ⟨hne, hquote, fun c hc => ?_⟩
  have hno : Text.isBlank c = false := by
    simpa using List.any_eq_false.1 hblank c hc
  exact Bool.eq_false_iff.2 fun hspace => Bool.eq_false_iff.1 hno (hsep.blank c hspace)

/-- A word that is quoted where it holds a blank is read as it is. -/
theorem spells_quote {s : String} (hne : s ≠ "") (hquote : '"' ∉ s.toList) :
    Spells isSpace (quote s) s := by
  unfold quote
  split
  · exact spells_quoted hquote
  · rename_i hblank
    exact (isWord_of_isPlain hsep ⟨hne, hquote, by simpa using hblank⟩).spells

theorem words?_cons {part word : String} (h : Spells isSpace part word) (rest : String) :
    words? isSpace (part ++ " " ++ rest) = (words? isSpace rest).map (word :: ·) := by
  have hspace : " ".toList = [' '] := rfl
  rw [words?, String.toList_append, String.toList_append, hspace, List.append_assoc, h,
    List.singleton_append, read?_space (by decide) hsep.space, words?]
  cases read? isSpace false none rest.toList <;> simp

theorem words?_space (rest : String) : words? isSpace (" " ++ rest) = words? isSpace rest := by
  have hspace : " ".toList = [' '] := rfl
  rw [words?, String.toList_append, hspace, List.singleton_append,
    read?_space (by decide) hsep.space, words?]
  cases read? isSpace false none rest.toList <;> simp

/-- What remains of a quoted word: the empty word has no quotes, and leaves nothing. -/
theorem words?_quote {s : String} (hquote : '"' ∉ s.toList) :
    words? isSpace (quote s) = some (kept s) := by
  unfold kept
  split
  · rename_i hempty
    rw [hempty]
    rfl
  · rename_i hne
    exact words?_last (spells_quote hsep hne hquote)

theorem words?_quote_cons {s : String} (hquote : '"' ∉ s.toList) (rest : String) :
    words? isSpace (quote s ++ " " ++ rest) = (words? isSpace rest).map (kept s ++ ·) := by
  unfold kept
  split
  · rename_i hempty
    have hnothing : quote s = "" := by
      rw [hempty]
      rfl
    rw [hnothing, String.empty_append, words?_space hsep]
    simp
  · rename_i hne
    exact words?_cons hsep (spells_quote hsep hne hquote) rest

omit hsep

/-! ## Texts without quotes -/

/-- Without quotes, there is no white space in a word. -/
theorem solid_of_read? {cs : List Char} (hquote : '"' ∉ cs) {word : Option (List Char)}
    (hword : ∀ c ∈ word.getD [], isSpace c = false) {ws : List (List Char)}
    (h : read? isSpace false word cs = some ws) : ∀ w ∈ ws, ∀ c ∈ w, isSpace c = false := by
  induction cs generalizing word ws with
  | nil =>
      rw [read?, Option.some.injEq] at h
      subst h
      intro w hw
      cases word with
      | none => simp at hw
      | some cs =>
          rw [Option.toList_some, List.mem_singleton] at hw
          exact hw ▸ hword
  | cons c cs ih =>
      have hc : c ≠ '"' := (List.ne_of_not_mem_cons hquote).symm
      have hrest : '"' ∉ cs := List.not_mem_of_not_mem_cons hquote
      cases hspace : isSpace c with
      | true =>
          -- The open word ends here, and the words after it are read from none.
          rw [read?_space hc hspace, Option.map_eq_some_iff] at h
          rcases h with ⟨others, hothers, rfl⟩
          intro w hw
          rcases List.mem_append.1 hw with hw | hw
          · cases word with
            | none => simp at hw
            | some cs =>
                rw [Option.toList_some, List.mem_singleton] at hw
                exact hw ▸ hword
          · exact ih hrest (by simp) hothers w hw
      | false =>
          rw [read?_plain hc hspace] at h
          refine ih hrest ?_ h
          intro d hd
          rcases List.mem_append.1 hd with hd | hd
          · exact hword d hd
          · rw [List.mem_singleton.1 hd, hspace]

theorem solid_of_words? {line : String} (hquote : '"' ∉ line.toList) {ws : List String}
    (h : words? isSpace line = some ws) : ∀ w ∈ ws, Solid isSpace w := by
  rcases Option.map_eq_some_iff.1 h with ⟨read, hread, rfl⟩
  intro w hw
  rcases List.mem_map.1 hw with ⟨cs, hcs, rfl⟩
  intro c hc
  rw [String.toList_ofList] at hc
  exact solid_of_read? hquote (by simp) hread cs hcs c hc

/-- A text without quotes is one word exactly if there is something in it, and no white space. -/
theorem words?_single_iff {s : String} (hquote : '"' ∉ s.toList) :
    words? isSpace s = some [s] ↔ s ≠ "" ∧ Solid isSpace s := by
  constructor
  · intro h
    refine ⟨?_, solid_of_words? hquote h s List.mem_cons_self⟩
    rintro rfl
    rw [words?_empty] at h
    simp at h
  · rintro ⟨hne, hsolid⟩
    exact words?_last (IsWord.spells ⟨hne, hquote, hsolid⟩)

end

end Words
end Testbench
