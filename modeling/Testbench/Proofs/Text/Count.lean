import Testbench.Text.Digit

/-!
# Count — numbers as they may be written

A count is written with ASCII digits. Zeros in front of them do not matter, and a plus sign may
stand there. Only the value of a count is bounded, not its length.

- `IsDecimal`, `IsCount`   : digits with their value, and a sign in front of them;
- `readNat?_eq_some_iff`, `readCount?_eq_some_iff` : what is read is what is written;
- `isDecimal_toString`     : numbers as they are printed.
-/

namespace Testbench
namespace Text

/-- One ASCII digit at least, and nothing else; the number that they stand for. -/
def IsDecimal (digits : List Char) (n : Nat) : Prop :=
  digits ≠ [] ∧ (∀ c ∈ digits, c.isDigit = true) ∧ Nat.ofDigitChars 10 digits 0 = n

/-- A number, with a plus sign in front or without. -/
inductive IsCount : List Char → Nat → Prop where
  | plain {digits : List Char} {n : Nat} (h : IsDecimal digits n) : IsCount digits n
  | signed {digits : List Char} {n : Nat} (h : IsDecimal digits n) : IsCount ('+' :: digits) n

variable {digits written : List Char} {n : Nat}

/-! ## Digits -/

theorem digitsValue_eq_ofDigitChars (acc : Nat) (digits : List Char) :
    digitsValue acc digits = Nat.ofDigitChars 10 digits acc := by
  rw [Nat.ofDigitChars_eq_foldl, digitsValue]
  congr 1
  funext m c
  rw [Nat.mul_comm, digitValue]

theorem readNat?_eq_some_iff : readNat? digits = some n ↔ IsDecimal digits n := by
  rw [readNat?, digitsValue_eq_ofDigitChars, IsDecimal, ← and_assoc]
  by_cases hread : digits ≠ [] ∧ ∀ c ∈ digits, c.isDigit = true
  · have hguard : ¬(digits.isEmpty || !digits.all Char.isDigit) = true := by simpa using hread
    rw [if_neg hguard, Option.some.injEq]
    exact ⟨fun h => ⟨hread, h⟩, fun h => h.2⟩
  · have hguard : (digits.isEmpty || !digits.all Char.isDigit) = true :=
      Decidable.not_not.1 fun hno => hread (by simpa using hno)
    rw [if_pos hguard]
    exact iff_of_false nofun fun h => hread h.1

theorem IsDecimal.not_mem (h : IsDecimal digits n) {c : Char} (hc : c.isDigit = false) :
    c ∉ digits :=
  fun hmem => Bool.eq_false_iff.1 hc (h.2.1 c hmem)

theorem isDecimal_toString (n : Nat) : IsDecimal (toString n).toList n := by
  have hdigits : (toString n).toList = Nat.toDigits 10 n := Nat.toList_repr
  rw [hdigits]
  exact ⟨Nat.toDigits_ne_nil, fun _ hc => Nat.isDigit_of_mem_toDigits (by decide) (by decide) hc,
    Nat.ofDigitChars_ten_toDigits⟩

/-! ## Counts -/

theorem readCount?_eq_some_iff {bound : Nat} :
    readCount? bound written = some n ↔ IsCount written n ∧ n < bound := by
  unfold readCount?
  dsimp only
  rw [Option.filter_eq_some_iff, decide_eq_true_iff]
  refine and_congr_left fun _ => ?_
  -- A plus sign is passed over, and what is left has none.
  split
  · rename_i rest
    rw [readNat?_eq_some_iff]
    refine ⟨.signed, fun h => ?_⟩
    cases h with
    | plain h => exact absurd List.mem_cons_self (h.not_mem (by decide))
    | signed h => exact h
  · rename_i hsign
    rw [readNat?_eq_some_iff]
    refine ⟨.plain, fun h => ?_⟩
    cases h with
    | plain h => exact h
    | signed _ => exact absurd rfl (hsign _)

end Text
end Testbench
