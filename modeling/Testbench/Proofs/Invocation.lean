import Testbench.Proofs.Words

/-!
# Invocation — the line of an invocation, read back

The line that names an invocation holds the program and its arguments, in order, with a space
between each two. A word that holds a blank is quoted, so whoever cuts the line at the blanks
outside quotes finds the words again. An empty word leaves nothing to be found, and a quote inside a
word is taken for one around it; without these the line tells the program and the arguments.

- `shellCommand_eq`           : the line, word by word;
- `words?_intercalate`        : the words of such a line;
- `Invocation.IsLegible`      : invocations without empty words and without quotes;
- `shellCommand_read_back`    : what the line tells.
-/

namespace Testbench

namespace Words

/-- Quoted words with spaces between them are read as the words, of which the empty ones are
lost. -/
theorem words?_intercalate {isSpace : Char → Bool} (hsep : Separates isSpace) {words : List String}
    (h : ∀ s ∈ words, '"' ∉ s.toList) :
    words? isSpace (" ".intercalate (words.map quote)) = some (words.flatMap kept) := by
  induction words with
  | nil => rfl
  | cons s rest ih =>
      rcases List.forall_mem_cons.1 h with ⟨hs, hrest⟩
      cases rest with
      | nil =>
          rw [List.flatMap_cons, List.flatMap_nil, List.append_nil]
          exact words?_quote hsep hs
      | cons next more =>
          rw [List.map_cons] at ih ⊢
          rw [List.map_cons, String.intercalate_cons_cons, words?_quote_cons hsep hs, ih hrest,
            Option.map_some]
          rfl

/-- Nothing is lost where no word is empty. -/
theorem flatMap_kept {words : List String} (h : ∀ s ∈ words, s ≠ "") :
    words.flatMap kept = words := by
  induction words with
  | nil => rfl
  | cons s rest ih =>
      rcases List.forall_mem_cons.1 h with ⟨hs, hrest⟩
      rw [List.flatMap_cons, kept_of_ne hs, ih hrest]
      rfl

end Words

namespace Invocation

open Words (words?)

/-! ## The line -/

/-- Words that are put behind a line one after the other. -/
theorem foldl_quote (line : String) (words : List String) :
    words.foldl (fun line word => line ++ " " ++ quote word) line =
      " ".intercalate (line :: words.map quote) := by
  induction words generalizing line with
  | nil => rfl
  | cons word rest ih => exact ih (line ++ " " ++ quote word)

theorem shellCommand_eq (i : Invocation) :
    i.shellCommand = " ".intercalate ((i.program :: i.arguments).map quote) :=
  foldl_quote (quote i.program) i.arguments

/-! ## What the line tells -/

/-- No word is empty, and none holds a double quote. -/
def IsLegible (i : Invocation) : Prop :=
  ∀ s ∈ i.program :: i.arguments, s ≠ "" ∧ '"' ∉ s.toList

instance (i : Invocation) : Decidable i.IsLegible :=
  inferInstanceAs (Decidable (∀ s ∈ i.program :: i.arguments, s ≠ "" ∧ '"' ∉ s.toList))

theorem words?_shellCommand {i : Invocation} (h : i.IsLegible) :
    words? Text.isBlank i.shellCommand = some (i.program :: i.arguments) := by
  rw [shellCommand_eq, Words.words?_intercalate Words.separates_isBlank fun s hs => (h s hs).2,
    Words.flatMap_kept fun s hs => (h s hs).1]

/-- The line of an invocation without empty words and without double quotes, cut at the blanks
outside quotes and with the quotes taken off, is the program followed by the arguments. So such
invocations have the same line only if they have the same program and the same arguments. -/
theorem shellCommand_read_back {i : Invocation} (h : i.IsLegible) :
    words? Text.isBlank i.shellCommand = some (i.program :: i.arguments) ∧
      ∀ j : Invocation, j.IsLegible →
        (j.shellCommand = i.shellCommand ↔ j.program = i.program ∧ j.arguments = i.arguments) := by
  refine ⟨words?_shellCommand h, fun j hj => ⟨fun hline => ?_, fun hwords => ?_⟩⟩
  · have hsame := words?_shellCommand hj
    rw [hline, words?_shellCommand h, Option.some.injEq, List.cons.injEq] at hsame
    exact ⟨hsame.1.symm, hsame.2.symm⟩
  · rw [shellCommand_eq, shellCommand_eq, hwords.1, hwords.2]

/-- An invocation with a space in one word, and an ideographic one in another. -/
def spaced : Invocation :=
  .here "/opt/my python/bin/python" ["parse_file.py", "/work/a\u3000b/test.py", "-v"]

theorem read_back_spaced : spaced.IsLegible ∧
    spaced.shellCommand =
      "\"/opt/my python/bin/python\" parse_file.py \"/work/a\u3000b/test.py\" -v" ∧
    words? Text.isBlank spaced.shellCommand =
      some ["/opt/my python/bin/python", "parse_file.py", "/work/a\u3000b/test.py", "-v"] ∧
    spaced.shellCommand ≠ (Invocation.here "/opt/my" ["python/bin/python", "-v"]).shellCommand := by
  have hlegible : spaced.IsLegible := by decide +kernel
  have hother : (Invocation.here "/opt/my" ["python/bin/python", "-v"]).IsLegible := by
    decide +kernel
  have hread := shellCommand_read_back hlegible
  refine ⟨hlegible, by decide +kernel, hread.1, fun hline => ?_⟩
  exact absurd ((hread.2 _ hother).1 hline.symm).1 (by decide)

end Invocation
end Testbench
