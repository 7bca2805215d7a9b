import Mathlib.Algebra.Ring.Nat
import Testbench.CommandLine.Target
import Testbench.Proofs.Text.Count

/-!
# Target — the arguments that name a line of a file

An argument names a line of a file if a file stands before its last colon and a number behind it.
The number is positive and below 2³², and may have a plus sign and zeros in front. Every other
argument is the name of a file as a whole. Only the last colon counts, so that a file may have
colons of its own.

- `NamesLine`              : arguments of the form `FILE:LINE`;
- `NamesLine.splitLine_eq` : these are taken apart;
- `splitLine_cases`        : and no others;
- `splitLine_exact`        : what becomes of every argument.
-/

namespace Testbench
namespace CommandLine

/-- A file, a colon, and the number of a line. -/
def NamesLine (argument file : String) (n : Nat) : Prop :=
  ∃ suffix : String, argument = file ++ ":" ++ suffix ∧ ':' ∉ suffix.toList ∧ file ≠ "" ∧
    Text.IsCount suffix.toList n ∧ 1 ≤ n ∧ n < 2 ^ 32

section

variable {argument file suffix : String} {n : Nat}

/-! ## The parts of an argument -/

theorem splitLast?_colon_iff :
    Text.splitLast? ':' argument.toList = some (file.toList, suffix.toList) ↔
      argument = file ++ ":" ++ suffix ∧ ':' ∉ suffix.toList := by
  have hparts : (file ++ ":" ++ suffix).toList = file.toList ++ ':' :: suffix.toList := by
    rw [String.toList_append, String.toList_append, List.append_assoc]
    rfl
  rw [Text.splitLast?_eq_some_iff, ← hparts, String.toList_inj]

/-- What is asked of the parts, beyond their form. -/
theorem isAdmitted_iff :
    (decide (n > 0) && !file.toList.isEmpty) = true ↔ 1 ≤ n ∧ file ≠ "" := by
  rw [Bool.and_eq_true, decide_eq_true_iff, Bool.not_eq_true', List.isEmpty_eq_false_iff, ne_eq,
    String.toList_eq_nil_iff]
  rfl

/-! ## Arguments with a line, and without -/

theorem NamesLine.splitLine_eq (h : NamesLine argument file n) :
    splitLine argument = (file, some n) := by
  rcases h with ⟨suffix, hargument, hlast, hfile, hcount, hpos, hbound⟩
  have hsplit := splitLast?_colon_iff.2 ⟨hargument, hlast⟩
  have hread : Text.readCount? Text.lineBound suffix.toList = some n :=
    Text.readCount?_eq_some_iff.2 ⟨hcount, hbound⟩
  simp only [splitLine, hsplit, hread]
  rw [if_pos (isAdmitted_iff.2 ⟨hpos, hfile⟩), String.ofList_toList]

theorem splitLine_cases (argument : String) :
    (∃ file n, NamesLine argument file n ∧ splitLine argument = (file, some n)) ∨
      splitLine argument = (argument, none) := by
  unfold splitLine
  split
  · rename_i before line hsplit
    -- Both parts are taken as texts, whose characters the splitting gives.
    obtain ⟨file, rfl⟩ : ∃ file : String, file.toList = before := ⟨_, String.toList_ofList⟩
    obtain ⟨suffix, rfl⟩ : ∃ suffix : String, suffix.toList = line := ⟨_, String.toList_ofList⟩
    rcases splitLast?_colon_iff.1 hsplit with ⟨hargument, hlast⟩
    split
    · rename_i n hread
      rcases Text.readCount?_eq_some_iff.1 hread with ⟨hcount, hbound⟩
      split
      · rename_i hadmitted
        rcases isAdmitted_iff.1 hadmitted with ⟨hpos, hfile⟩
        rw [String.ofList_toList]
        exact .inl ⟨file, n, ⟨suffix, hargument, hlast, hfile, hcount, hpos, hbound⟩, rfl⟩
      · exact .inr rfl
    · exact .inr rfl
  · exact .inr rfl

theorem splitLine_eq_some_iff :
    splitLine argument = (file, some n) ↔ NamesLine argument file n := by
  refine ⟨fun h => ?_, NamesLine.splitLine_eq⟩
  rcases splitLine_cases argument with ⟨file', n', hnames, heq⟩ | heq
  · rw [heq] at h
    cases h
    exact hnames
  · rw [heq] at h
    cases h

theorem splitLine_eq_none_iff :
    splitLine argument = (argument, none) ↔ ∀ file n, ¬NamesLine argument file n := by
  refine ⟨fun h file n hnames => ?_, fun h => ?_⟩
  · rw [hnames.splitLine_eq] at h
    cases h
  · rcases splitLine_cases argument with ⟨file, n, hnames, -⟩ | heq
    · exact absurd hnames (h file n)
    · exact heq

theorem namesLine_toString (hfile : file ≠ "") (hpos : 1 ≤ n) (hbound : n < 2 ^ 32) :
    NamesLine (file ++ ":" ++ toString n) file n := by
  have hprinted := Text.isDecimal_toString n
  have hlast : ':' ∉ (toString n).toList := hprinted.not_mem (by decide)
  exact ⟨toString n, rfl, hlast, hfile, .plain hprinted, hpos, hbound⟩

end

/-- An argument is a file and a line exactly if it consists of some text, a colon and a suffix
without a colon, where the text is not empty and the suffix is one ASCII digit or more, after a plus
sign or not, with a value from 1 up to 2³²; the text is the file and the value the line. Every other
argument is a file as a whole. So a file and a line that are put together with a colon are found
again. -/
theorem splitLine_exact :
    (∀ argument file n, splitLine argument = (file, some n) ↔ NamesLine argument file n) ∧
    (∀ argument, splitLine argument = (argument, none) ↔ ∀ file n, ¬NamesLine argument file n) ∧
    ∀ file n, file ≠ "" → 1 ≤ n → n < 2 ^ 32 →
      splitLine (file ++ ":" ++ toString n) = (file, some n) := by
  refine ⟨fun _ _ _ => splitLine_eq_some_iff, fun _ => splitLine_eq_none_iff, ?_⟩
  intro file n hfile hpos hbound
  exact (namesLine_toString hfile hpos hbound).splitLine_eq

/-- Files with colons of their own, at the greatest line and beyond it. -/
theorem splitLine_exact_colons :
    ("C:\\work:2\\test_login.py" ≠ "" ∧ 1 ≤ 4294967295 ∧ 4294967295 < 2 ^ 32 ∧
      splitLine ("C:\\work:2\\test_login.py" ++ ":" ++ toString 4294967295) =
        ("C:\\work:2\\test_login.py", some 4294967295)) ∧
    NamesLine "C:\\work:2:+0042" "C:\\work:2" 42 ∧
    ∀ file n, ¬NamesLine "C:\\work:4294967296" file n := by
  have hfile : "C:\\work:2\\test_login.py" ≠ "" := by decide
  have hsigned : splitLine "C:\\work:2:+0042" = ("C:\\work:2", some 42) := by decide +kernel
  have hbeyond : splitLine "C:\\work:4294967296" = ("C:\\work:4294967296", none) := by
    decide +kernel
  exact ⟨⟨hfile, by decide, by decide, splitLine_exact.2.2 _ _ hfile (by decide) (by decide)⟩,
    (splitLine_exact.1 _ _ _).1 hsigned, (splitLine_exact.2.1 _).1 hbeyond⟩

end CommandLine
end Testbench
