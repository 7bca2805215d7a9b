import Mathlib.Algebra.Order.Field.Power
import Mathlib.Algebra.Order.Field.Rat
import Mathlib.Tactic.FieldSimp
import Mathlib.Tactic.Linarith
import Mathlib.Tactic.NormNum
import Mathlib.Tactic.Positivity
import Mathlib.Tactic.Ring
import Testbench.Json.Double

/-!
# Rounding — how far a rounded quotient can be off

A quotient is rounded to a multiple of the power of two that leaves it a mantissa of 53 digits. The
error is half of that power at most, so a quotient that is not among the least ones grows by a
factor of `1 + 2 ^ -53` at most, and a double comes out as long as the quotient stays below the last
number that is rounded to one.

- `Double.magnitude`        : what a double stands for, without its sign;
- `Double.IsFinite`         : the doubles that there are;
- `near_roundHalfEven`      : rounding to an integer;
- `fittingExponent_spec`    : the power of two that is chosen;
- `ratio?_of_lt`, `isFinite_of_ratio?` : the rounded quotient;
- `mul?_of_lt`, `div?_of_lt` : products and quotients of doubles.
-/

namespace Testbench
namespace Json
namespace Double

/-- What a double stands for, without its sign. -/
def magnitude (x : Double) : ℚ := x.mantissa * 2 ^ x.exponent

/-- Mantissa and exponent are in range. -/
structure IsFinite (x : Double) : Prop where
  mantissa : x.mantissa < 2 ^ 53
  least : leastExponent ≤ x.exponent
  greatest : x.exponent ≤ greatestExponent

/-! ## Scaling -/

theorem cast_two_pow {e : Int} (h : 0 ≤ e) : ((Nat.pow 2 e.toNat : Nat) : ℚ) = 2 ^ e := by
  obtain ⟨n, rfl⟩ := Int.eq_ofNat_of_zero_le h
  rw [Int.toNat_natCast, Nat.pow_eq, Nat.cast_pow, zpow_natCast, Nat.cast_ofNat]

section

variable {num den : Nat}

theorem scaled_pos (hden : 0 < den) (e : Int) : 0 < (scaled num den e).2 := by
  unfold scaled
  split
  · exact Nat.mul_pos hden (Nat.pow_pos (by decide))
  · exact hden

theorem scaled_eq (num den : Nat) (e : Int) :
    ((scaled num den e).1 : ℚ) / (scaled num den e).2 = num / den / 2 ^ e := by
  unfold scaled
  split
  · rename_i he
    rw [Nat.cast_mul, cast_two_pow he, div_div]
  · rename_i he
    have hneg : 0 ≤ -e := by omega
    rw [Nat.cast_mul, cast_two_pow hneg, zpow_neg]
    field_simp

/-- A number fits if its quotient stays below the bound. -/
theorem scaled_fits_iff (hden : 0 < den) (e : Int) :
    (scaled num den e).1 < mantissaBound * (scaled num den e).2 ↔
      (num : ℚ) / den < 2 ^ 53 * 2 ^ e := by
  have hpos : (0 : ℚ) < (scaled num den e).2 := by exact_mod_cast scaled_pos hden e
  have hpow : (0 : ℚ) < 2 ^ e := by positivity
  rw [← div_lt_iff₀ hpow, ← scaled_eq num den e, div_lt_iff₀ hpos]
  have hbound : mantissaBound = 2 ^ 53 := rfl
  rw [hbound]
  exact_mod_cast Iff.rfl

end

/-! ## Rounding to an integer -/

theorem roundHalfEven_bounds (num : Nat) {den : Nat} (hden : 0 < den) :
    2 * (den * roundHalfEven num den) ≤ 2 * num + den ∧
      2 * num ≤ 2 * (den * roundHalfEven num den) + den := by
  have hdiv := Nat.div_add_mod num den
  have hmod := Nat.mod_lt num hden
  have hnext : den * (num / den + 1) = den * (num / den) + den := Nat.mul_succ _ _
  unfold roundHalfEven
  dsimp only
  split
  · omega
  · split
    · rename_i hhalf
      have htwice : 2 * (num % den) = den := by simpa using hhalf
      -- A half goes to one of the two neighbours.
      rcases Nat.mod_two_eq_zero_or_one (num / den) with heven | hodd
      · rw [heven, Nat.add_zero]
        omega
      · rw [hodd, hnext]
        omega
    · rw [hnext]
      omega

theorem near_roundHalfEven (num : Nat) {den : Nat} (hden : 0 < den) :
    (roundHalfEven num den : ℚ) ≤ num / den + 1 / 2 ∧
      (num : ℚ) / den ≤ roundHalfEven num den + 1 / 2 := by
  rcases roundHalfEven_bounds num hden with ⟨hle, hge⟩
  have hpos : (0 : ℚ) < den := by exact_mod_cast hden
  have hle' : 2 * ((den : ℚ) * roundHalfEven num den) ≤ 2 * num + den := by exact_mod_cast hle
  have hge' : 2 * (num : ℚ) ≤ 2 * (den * roundHalfEven num den) + den := by exact_mod_cast hge
  constructor
  · rw [← sub_le_iff_le_add, le_div_iff₀ hpos]
    linarith
  · rw [div_le_iff₀ hpos]
    linarith

/-! ## The exponent -/

/-- The exponent that is chosen. -/
structure Fits (q : ℚ) (e : Int) : Prop where
  below : q < 2 ^ 53 * 2 ^ e
  least : leastExponent ≤ e
  full : leastExponent < e → 2 ^ 52 * 2 ^ e ≤ q

theorem pow_log2_le {n : Nat} (h : n ≠ 0) : (2 : ℚ) ^ (Nat.log2 n : Int) ≤ n := by
  rw [zpow_natCast]
  exact_mod_cast Nat.log2_self_le h

theorem lt_pow_log2 (n : Nat) : (n : ℚ) < 2 ^ ((Nat.log2 n : Int) + 1) := by
  have hlt := Nat.lt_log2_self (n := n)
  have hcast : ((Nat.log2 n : Int) + 1) = ((Nat.log2 n + 1 : Nat) : Int) := by omega
  rw [hcast, zpow_natCast]
  exact_mod_cast hlt

theorem two_zpow_add (a b : Int) : (2 : ℚ) ^ (a + b) = 2 ^ a * 2 ^ b := zpow_add₀ (by norm_num) a b

theorem two_zpow_le {a b : Int} (h : a ≤ b) : (2 : ℚ) ^ a ≤ 2 ^ b :=
  zpow_le_zpow_right₀ (by norm_num) h

/-- The logarithms tell a quotient up to a factor of four. -/
theorem log2_bounds {num den : Nat} (hnum : num ≠ 0) (hden : den ≠ 0) :
    (2 : ℚ) ^ ((Nat.log2 num : Int) - Nat.log2 den - 1) ≤ num / den ∧
      (num : ℚ) / den < 2 ^ ((Nat.log2 num : Int) - Nat.log2 den + 1) := by
  have hpos : (0 : ℚ) < den := by exact_mod_cast Nat.pos_of_ne_zero hden
  -- Each of the two is a power of two up to a factor of two.
  constructor
  · rw [le_div_iff₀ hpos]
    calc (2 : ℚ) ^ ((Nat.log2 num : Int) - Nat.log2 den - 1) * den
        ≤ 2 ^ ((Nat.log2 num : Int) - Nat.log2 den - 1) * 2 ^ ((Nat.log2 den : Int) + 1) := by
          have hlt := (lt_pow_log2 den).le
          have hpow : (0 : ℚ) ≤ 2 ^ ((Nat.log2 num : Int) - Nat.log2 den - 1) := by positivity
          exact mul_le_mul_of_nonneg_left hlt hpow
      _ = 2 ^ (Nat.log2 num : Int) := by
          rw [← two_zpow_add]
          congr 1
          omega
      _ ≤ num := pow_log2_le hnum
  · rw [div_lt_iff₀ hpos]
    calc (num : ℚ) < 2 ^ ((Nat.log2 num : Int) + 1) := lt_pow_log2 num
      _ = 2 ^ ((Nat.log2 num : Int) - Nat.log2 den + 1) * 2 ^ (Nat.log2 den : Int) := by
          rw [← two_zpow_add]
          congr 1
          omega
      _ ≤ 2 ^ ((Nat.log2 num : Int) - Nat.log2 den + 1) * den := by
          have hpow : (0 : ℚ) ≤ 2 ^ ((Nat.log2 num : Int) - Nat.log2 den + 1) := by positivity
          exact mul_le_mul_of_nonneg_left (pow_log2_le hden) hpow

theorem fittingExponent_spec {num den : Nat} (hnum : num ≠ 0) (hden : 0 < den) :
    Fits ((num : ℚ) / den) (fittingExponent num den) := by
  rcases log2_bounds hnum hden.ne' with ⟨hlow, hhigh⟩
  unfold fittingExponent
  extract_lets guess start fits
  have hfits : ∀ e, fits e = true ↔ (num : ℚ) / den < 2 ^ 53 * 2 ^ e := by
    intro e
    rw [← scaled_fits_iff hden e]
    exact decide_eq_true_iff
  have hguess : guess = (Nat.log2 num : Int) - Nat.log2 den - 53 := rfl
  have hlow' : (2 : ℚ) ^ 52 * 2 ^ guess ≤ num / den := by
    refine le_trans (le_of_eq ?_) hlow
    rw [← zpow_natCast, ← two_zpow_add]
    congr 1
    simp only [Nat.cast_ofNat]
    omega
  have hhigh' : (num : ℚ) / den < 2 ^ 53 * 2 ^ (guess + 1) := by
    refine lt_of_lt_of_eq hhigh ?_
    rw [← zpow_natCast, ← two_zpow_add]
    congr 1
    simp only [Nat.cast_ofNat]
    omega
  have hstart : guess ≤ start ∧ leastExponent ≤ start ∧
      (start = guess ∨ start = leastExponent) := by
    simp only [start]
    omega
  split
  · rename_i hfit
    refine ⟨(hfits start).1 hfit, hstart.2.1, fun hlt => ?_⟩
    rcases hstart.2.2 with heq | heq
    · rw [heq]
      exact hlow'
    · omega
  · rename_i hno
    -- If the least exponent were chosen although the guess is below it, the number would fit.
    have hover : ¬ (num : ℚ) / den < 2 ^ 53 * 2 ^ start := fun h => hno ((hfits start).2 h)
    have heq : start = guess := by
      by_contra hne
      have hnext : guess + 1 ≤ start := by omega
      refine hover (lt_of_lt_of_le hhigh' ?_)
      exact mul_le_mul_of_nonneg_left (two_zpow_le hnext) (by positivity)
    have hnext : fits (start + 1) = true := by
      rw [hfits, heq]
      exact hhigh'
    rw [if_pos hnext]
    refine ⟨(hfits (start + 1)).1 hnext, by omega, fun _ => ?_⟩
    calc (2 : ℚ) ^ 52 * (2 : ℚ) ^ (start + 1) = 2 ^ 53 * 2 ^ start := by
          rw [two_zpow_add, zpow_one]
          ring
      _ ≤ (num : ℚ) / den := not_lt.1 hover

/-! ## Rounded quotients -/

/-- The last number that is rounded to a double lies below this. -/
def overflowBound : ℚ := (2 ^ 54 - 1) * 2 ^ 970

theorem isFinite_zero (negative : Bool) : (zero negative).IsFinite :=
  ⟨by norm_num [zero], le_refl leastExponent, (by decide : leastExponent ≤ greatestExponent)⟩

/-- The significand to the chosen power of two, with one digit too many if it is the bound. -/
def significand (num den : Nat) : Nat :=
  roundHalfEven (scaled num den (fittingExponent num den)).1
    (scaled num den (fittingExponent num den)).2

theorem significand_bounds {num den : Nat} (hnum : num ≠ 0) (hden : 0 < den) :
    (significand num den : ℚ) * 2 ^ fittingExponent num den ≤
        num / den + 2 ^ fittingExponent num den / 2 ∧
      (num : ℚ) / den ≤
        significand num den * 2 ^ fittingExponent num den + 2 ^ fittingExponent num den / 2 ∧
      significand num den ≤ 2 ^ 53 := by
  have hspec := fittingExponent_spec hnum hden
  unfold significand
  generalize fittingExponent num den = f at hspec ⊢
  have hpow : (0 : ℚ) < 2 ^ f := by positivity
  rcases near_roundHalfEven (scaled num den f).1 (@scaled_pos num den hden f) with ⟨hle, hge⟩
  rw [scaled_eq] at hle hge
  generalize roundHalfEven (scaled num den f).1 (scaled num den f).2 = r at hle hge ⊢
  refine ⟨?_, ?_, ?_⟩
  · have h := mul_le_mul_of_nonneg_right hle hpow.le
    rw [add_mul, div_mul_cancel₀ _ hpow.ne'] at h
    linarith
  · have h := mul_le_mul_of_nonneg_right hge hpow.le
    rw [add_mul, div_mul_cancel₀ _ hpow.ne'] at h
    linarith
  · have hquot : (num : ℚ) / den / 2 ^ f < 2 ^ 53 := (div_lt_iff₀ hpow).2 hspec.below
    have hlt : (r : ℚ) < 2 ^ 53 + 1 := by linarith
    exact Nat.le_of_lt_succ (by exact_mod_cast hlt)

/-- A digit too many goes to the exponent. -/
def carried (num den : Nat) : Nat × Int :=
  if significand num den = 2 ^ 53 then (2 ^ 52, fittingExponent num den + 1)
  else (significand num den, fittingExponent num den)

theorem ratio?_eq (negative : Bool) {num den : Nat} (hnum : num ≠ 0) :
    ratio? negative num den = if (carried num den).2 > greatestExponent then none
      else some ⟨negative, (carried num den).1, (carried num den).2⟩ := by
  have hcarried : carried num den = if significand num den == mantissaBound
      then (mantissaBound / 2, fittingExponent num den + 1)
      else (significand num den, fittingExponent num den) := by
    have hbound : mantissaBound = 2 ^ 53 := rfl
    unfold carried
    by_cases hcarry : significand num den = 2 ^ 53
    · rw [if_pos hcarry, if_pos (by rw [hcarry, hbound, beq_self_eq_true])]
      rfl
    · rw [if_neg hcarry, if_neg (by simpa [hbound] using hcarry)]
  have hne : (num == 0) = false := by simpa using hnum
  unfold ratio?
  rw [hne, hcarried]
  rfl

/-- A full significand to a power above the greatest one. -/
theorem overflowBound_le_of_full {e : Int} (h : 972 ≤ e) :
    overflowBound ≤ 2 ^ 52 * 2 ^ e := by
  have hpow : (2 : ℚ) ^ 52 * 2 ^ (972 : Int) = 2 ^ 54 * 2 ^ 970 := by
    rw [← zpow_natCast 2 52, ← zpow_natCast 2 54, ← zpow_natCast 2 970, ← two_zpow_add,
      ← two_zpow_add]
    rfl
  calc overflowBound ≤ 2 ^ 54 * 2 ^ 970 := mul_le_mul_of_nonneg_right (by norm_num) (by positivity)
    _ = 2 ^ 52 * 2 ^ (972 : Int) := hpow.symm
    _ ≤ 2 ^ 52 * 2 ^ e := mul_le_mul_of_nonneg_left (two_zpow_le h) (by positivity)

/-- What is rounded to one digit too many, to the greatest power. -/
theorem overflowBound_le_of_carry {e : Int} (h : 971 ≤ e) :
    overflowBound ≤ 2 ^ 53 * 2 ^ e - 2 ^ e / 2 := by
  have hsplit : (2 : ℚ) ^ e = 2 ^ (e - 1) * 2 := by
    rw [← zpow_add_one₀ (by norm_num)]
    congr 1
    omega
  calc overflowBound = (2 ^ 54 - 1) * 2 ^ (970 : Int) := by norm_num [overflowBound]
    _ ≤ (2 ^ 54 - 1) * 2 ^ (e - 1) :=
        mul_le_mul_of_nonneg_left (two_zpow_le (by omega)) (by norm_num)
    _ = 2 ^ 53 * 2 ^ e - 2 ^ e / 2 := by
        rw [hsplit]
        ring

/-- What a quotient is rounded to before it is looked whether that is a double. -/
theorem ratio?_cases (negative : Bool) {num den : Nat} (hnum : num ≠ 0) (hden : 0 < den) :
    ∃ (m : Nat) (e : Int), m < 2 ^ 53 ∧ leastExponent ≤ e ∧
      (ratio? negative num den = if e > greatestExponent then none else some ⟨negative, m, e⟩) ∧
      (num : ℚ) / den ≤ m * 2 ^ e + 2 ^ (fittingExponent num den) / 2 ∧
      (m : ℚ) * 2 ^ e ≤ num / den + 2 ^ (fittingExponent num den) / 2 ∧
      (e > greatestExponent → overflowBound ≤ num / den) := by
  have hspec := fittingExponent_spec hnum hden
  have hratio := @ratio?_eq negative num den hnum
  rcases significand_bounds hnum hden with ⟨hle, hge, hbelow⟩
  unfold carried at hratio
  generalize significand num den = r at hratio hle hge hbelow
  generalize fittingExponent num den = f at hratio hspec hle hge ⊢
  have hgreatest : greatestExponent = 971 := rfl
  have hleast : leastExponent = -1074 := rfl
  -- Rounding up can carry. Then the significand is halved, and the product stays the same.
  by_cases hcarry : r = 2 ^ 53
  · rw [if_pos hcarry] at hratio
    have hsame : ((2 ^ 52 : Nat) : ℚ) * 2 ^ (f + 1) = r * 2 ^ f := by
      rw [hcarry, two_zpow_add]
      push_cast
      ring
    refine ⟨2 ^ 52, f + 1, by norm_num, by have := hspec.least; omega, hratio, ?_, ?_, ?_⟩
    · rw [hsame]
      exact hge
    · rw [hsame]
      exact hle
    · intro hover
      have hbound := overflowBound_le_of_carry (by omega : 971 ≤ f)
      rw [hcarry] at hle
      push_cast at hle
      linarith
  · rw [if_neg hcarry] at hratio
    refine ⟨r, f, by omega, hspec.least, hratio, hge, hle, fun hover => ?_⟩
    exact (overflowBound_le_of_full (by omega)).trans (hspec.full (by omega))

theorem isFinite_of_ratio? {negative : Bool} {num den : Nat} {x : Double} (hden : 0 < den)
    (h : ratio? negative num den = some x) : x.IsFinite := by
  by_cases hnum : num = 0
  · have hx : zero negative = x := by simpa [ratio?, hnum] using h
    exact hx ▸ isFinite_zero negative
  · rcases ratio?_cases negative hnum hden with ⟨m, e, hm, hleast, hratio, -⟩
    rw [hratio] at h
    split at h
    · simp at h
    · rename_i hgreatest
      rw [← Option.some.inj h]
      exact ⟨hm, hleast, by simpa using hgreatest⟩

/-- A quotient that is not among the least ones grows by the relative error of one rounding at most;
any quotient grows by that and by half of the least double. -/
structure Rounds (q : ℚ) (x : Double) : Prop where
  relative : 2 ^ (-1021 : Int) ≤ q → x.magnitude ≤ q * (1 + 2 ^ (-53 : Int))
  crude : x.magnitude ≤ 2 * q + 1
  above : 1 ≤ q → 1 ≤ 2 * x.magnitude

theorem rounds_zero (negative : Bool) : Rounds 0 (zero negative) := by
  have hzero : (zero negative).magnitude = 0 := by simp [magnitude, zero]
  refine ⟨fun h => ?_, by rw [hzero]; norm_num, fun h => by norm_num at h⟩
  rw [hzero]
  norm_num

/-- Half a unit is small against a quotient that is not among the least ones. -/
theorem Fits.half_unit {q : ℚ} {e : Int} (h : Fits q e) (hlt : leastExponent < e) :
    (2 : ℚ) ^ e / 2 ≤ q * 2 ^ (-53 : Int) := by
  have hpow : (2 : ℚ) ^ (-53 : Int) * (2 ^ 52 * 2 ^ e) = 2 ^ e / 2 := by
    norm_num
    ring
  rw [← hpow, mul_comm q]
  exact mul_le_mul_of_nonneg_left (h.full hlt) (by positivity)

/-- The least exponent is chosen for the least quotients only. -/
theorem Fits.least_lt {q : ℚ} {e : Int} (h : Fits q e) (hbig : 2 ^ (-1021 : Int) ≤ q) :
    leastExponent < e := by
  refine h.least.lt_of_ne fun heq => ?_
  have hpow : (2 : ℚ) ^ 53 * 2 ^ (-1074 : Int) = 2 ^ (-1021 : Int) := by
    rw [← zpow_natCast, ← two_zpow_add]
    rfl
  have hleast : leastExponent = -1074 := rfl
  have hbelow := h.below
  rw [← heq, hleast, hpow] at hbelow
  exact absurd hbig (not_le.2 hbelow)

theorem two_zpow_le_one {e : Int} (h : e ≤ 0) : (2 : ℚ) ^ e ≤ 1 :=
  zpow_le_one_of_nonpos₀ (by norm_num) h

theorem ratio?_of_lt (negative : Bool) {num den : Nat} (hden : 0 < den)
    (h : (num : ℚ) / den < overflowBound) :
    ∃ x, ratio? negative num den = some x ∧ Rounds ((num : ℚ) / den) x := by
  by_cases hnum : num = 0
  · refine ⟨zero negative, by simp [ratio?, hnum], ?_⟩
    rw [hnum, Nat.cast_zero, zero_div]
    exact rounds_zero negative
  · have hspec := fittingExponent_spec hnum hden
    rcases ratio?_cases negative hnum hden with ⟨m, e, -, -, hratio, hge, hle, hover⟩
    rw [if_neg fun hgreat => absurd h (not_lt.2 (hover hgreat))] at hratio
    have hq : (0 : ℚ) ≤ num / den := by positivity
    -- The error is half a unit, which is small wherever the quotient is not.
    generalize (num : ℚ) / den = q at hspec hge hle hq ⊢
    have hsmall : q * 2 ^ (-53 : Int) ≤ q * (1 / 2) :=
      mul_le_mul_of_nonneg_left (by norm_num) hq
    have hmagnitude : (⟨negative, m, e⟩ : Double).magnitude = m * 2 ^ e := rfl
    refine ⟨⟨negative, m, e⟩, hratio, fun hbig => ?_, ?_, fun hone => ?_⟩
    · have herror := hspec.half_unit (hspec.least_lt hbig)
      rw [mul_add, mul_one, hmagnitude]
      exact hle.trans ((add_le_add_iff_left q).2 herror)
    · rw [hmagnitude]
      rcases hspec.least.lt_or_eq with hlt | heq
      · have herror := hspec.half_unit hlt
        linarith
      · have hunit : (2 : ℚ) ^ fittingExponent num den ≤ 1 := two_zpow_le_one (heq ▸ by decide)
        linarith
    · have hbig : (2 : ℚ) ^ (-1021 : Int) ≤ q := (two_zpow_le_one (by decide)).trans hone
      have herror := hspec.half_unit (hspec.least_lt hbig)
      rw [hmagnitude]
      linarith

/-! ## Arithmetic -/

theorem fraction_pos (x : Double) : 0 < x.fraction.2 := by
  unfold fraction
  split
  · exact Nat.one_pos
  · exact Nat.pow_pos (by decide)

theorem fraction_eq (x : Double) : (x.fraction.1 : ℚ) / x.fraction.2 = x.magnitude := by
  unfold fraction magnitude
  split
  · rename_i he
    rw [Nat.cast_mul, cast_two_pow he, Nat.cast_one, div_one]
  · rename_i he
    have hneg : 0 ≤ -x.exponent := by omega
    rw [cast_two_pow hneg, zpow_neg, div_inv_eq_mul]

theorem magnitude_nonneg (x : Double) : 0 ≤ x.magnitude := by
  unfold magnitude
  positivity

theorem mul?_of_lt {x y : Double} (h : x.magnitude * y.magnitude < overflowBound) :
    ∃ z, x.mul? y = some z := by
  have hquot : ((x.fraction.1 * y.fraction.1 : Nat) : ℚ) / (x.fraction.2 * y.fraction.2 : Nat) =
      x.magnitude * y.magnitude := by
    rw [Nat.cast_mul, Nat.cast_mul, ← fraction_eq x, ← fraction_eq y, div_mul_div_comm]
  rcases ratio?_of_lt (x.negative != y.negative)
    (Nat.mul_pos (fraction_pos x) (fraction_pos y)) (by rw [hquot]; exact h) with ⟨z, hz, -⟩
  exact ⟨z, hz⟩

theorem isFinite_of_mul? {x y z : Double} (h : x.mul? y = some z) : z.IsFinite :=
  isFinite_of_ratio? (Nat.mul_pos (fraction_pos x) (fraction_pos y)) h

theorem fraction_num_pos {y : Double} (hy : 1 ≤ 2 * y.magnitude) : 0 < y.fraction.1 := by
  rw [← fraction_eq y] at hy
  by_contra hzero
  have heq : y.fraction.1 = 0 := by omega
  rw [heq] at hy
  norm_num at hy

theorem isFinite_of_div? {x y z : Double} (hy : 1 ≤ 2 * y.magnitude) (h : x.div? y = some z) :
    z.IsFinite :=
  isFinite_of_ratio? (Nat.mul_pos (fraction_pos x) (fraction_num_pos hy)) h

theorem div?_of_lt {x y : Double} (hy : 1 ≤ 2 * y.magnitude)
    (h : 2 * x.magnitude < overflowBound) :
    ∃ z, x.div? y = some z ∧ z.magnitude ≤ 4 * x.magnitude + 1 := by
  have hpos : 0 < y.magnitude := by linarith
  have hnum := fraction_num_pos hy
  have hquot : ((x.fraction.1 * y.fraction.2 : Nat) : ℚ) / (x.fraction.2 * y.fraction.1 : Nat) =
      x.magnitude / y.magnitude := by
    rw [Nat.cast_mul, Nat.cast_mul, ← fraction_eq x, ← fraction_eq y, div_div_div_eq]
  have hle : x.magnitude / y.magnitude ≤ 2 * x.magnitude := by
    rw [div_le_iff₀ hpos]
    have hmul := mul_le_mul_of_nonneg_left hy (magnitude_nonneg x)
    linarith
  rcases ratio?_of_lt (x.negative != y.negative) (Nat.mul_pos (fraction_pos x) hnum)
    (by rw [hquot]; exact lt_of_le_of_lt hle h) with ⟨z, hz, hrounds⟩
  rw [hquot] at hrounds
  exact ⟨z, hz, hrounds.crude.trans (by linarith)⟩

end Double
end Json
end Testbench
