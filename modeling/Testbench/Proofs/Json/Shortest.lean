import Testbench.Proofs.Json.Scaling

/-!
# Shortest — a printed double is a number again

The search for the shortest decimal goes from coarse grids to finer ones. The last grid that it
tries is finer than half the distance to the next double, so the search comes to a decimal, and that
lies between the ends of the interval. Laid out as a text, it is a numeral whose value stays below
the bound of the doubles.

- `Numeral.value?_isSome`  : numerals that have a value;
- `Interval.search_spec`   : what the search comes to;
- `Double.shortest_spec`   : the shortest decimal of a double;
- `Double.numeral`         : the numeral that a double is printed as, with its text
  (`numeralChars_numeral`), its form (`isProper_numeral`) and its value (`value?_numeral`).
-/

namespace Testbench
namespace Json
namespace Numeral

/-! ## Digits -/

/-- The number that digits stand for. -/
def worth (digits : List Char) : Nat := Nat.ofDigitChars 10 digits 0

theorem worth_append (front back : List Char) :
    worth (front ++ back) = 10 ^ back.length * worth front + worth back := by
  unfold worth
  rw [Nat.ofDigitChars_append, Nat.ofDigitChars_eq_ofDigitChars_zero]

theorem worth_zeros (n : Nat) : worth (Double.zeros n) = 0 := by
  unfold worth Double.zeros
  rw [Nat.ofDigitChars_replicate_zero, Nat.mul_zero]

theorem worth_lt {digits : List Char} (h : ∀ c ∈ digits, c.isDigit = true) :
    worth digits < 10 ^ digits.length := by
  induction digits with
  | nil => decide
  | cons c cs ih =>
      have htail := ih fun d hd => h d (List.mem_cons_of_mem c hd)
      have hc : c.toNat - '0'.toNat ≤ 9 := by
        have hdigit := h c List.mem_cons_self
        have hle : c.toNat ≤ 57 := by
          simp only [Char.isDigit, Bool.and_eq_true, decide_eq_true_eq] at hdigit
          exact UInt32.le_iff_toNat_le.1 hdigit.2
        have hzero : '0'.toNat = 48 := rfl
        omega
      -- The first digit counts for at most nine of the power.
      have hsplit : worth (c :: cs) = 10 ^ cs.length * (c.toNat - '0'.toNat) + worth cs := by
        have happ := worth_append [c] cs
        have hone : worth [c] = c.toNat - '0'.toNat := by
          simp [worth, Nat.ofDigitChars_cons]
        rwa [hone] at happ
      rw [hsplit, List.length_cons, Nat.pow_succ]
      have hmul : 10 ^ cs.length * (c.toNat - '0'.toNat) ≤ 10 ^ cs.length * 9 :=
        Nat.mul_le_mul_left _ hc
      omega

/-- Digits that are not cut off, from the start. -/
theorem accumulate_short {digits : List Char} (h : ∀ c ∈ digits, c.isDigit = true)
    (hlength : digits.length ≤ 16) : accumulate significandMax 0 digits = (worth digits, []) := by
  refine accumulate_eq _ _ _ ?_
  have hlt := worth_lt h
  have hpow : 10 ^ digits.length ≤ 10 ^ 16 := Nat.pow_le_pow_right (by decide) hlength
  have hmax : 10 ^ 16 ≤ significandMax := by decide
  exact (hlt.le.trans hpow).trans hmax

/-! ## Numerals that have a value -/

/-- The digits of a fraction. -/
def fractionDigits (n : Numeral) : List Char := n.fraction.getD []

/-- The power of ten that is spelled. -/
def spelledPower : Option (Bool × List Char) → Int
  | none => 0
  | some (down, digits) => if down then -worth digits else worth digits

theorem withExponent?_eq {negative : Bool} {n : Nat} {p : Int}
    {exponent : Option (Bool × List Char)}
    (hexponent : ∀ down digits, exponent = some (down, digits) → worth digits ≤ 1000)
    (hp : -1000 ≤ p ∧ p ≤ 1000) :
    withExponent? negative n p exponent = scale? negative n (p + spelledPower exponent) := by
  cases exponent with
  | none => rw [spelledPower, add_zero, withExponent?]
  | some part =>
      rcases part with ⟨down, digits⟩
      have hsmall := hexponent down digits rfl
      have hmax : exponentMax = 2147483647 := rfl
      have hdigits : accumulate exponentMax 0 digits = (worth digits, []) :=
        accumulate_eq _ _ _ (hsmall.trans (by decide))
      -- Such small exponents are not clamped.
      have hclamp : clamp (if down then p - worth digits else p + worth digits) =
          p + if down then -(worth digits : Int) else worth digits := by
        unfold clamp
        cases down
        · simp only [Bool.false_eq_true, if_false]
          omega
        · simp only [if_true]
          omega
      rw [withExponent?, hdigits]
      exact congrArg (scale? negative n) hclamp

/-- As many digits of the fraction are taken as fit, and the power is the one of the last of
them. -/
theorem value?_eq {n : Numeral} (hwhole : ∀ c ∈ n.whole, c.isDigit = true)
    (hlength : n.whole.length ≤ 16) (hspelled : n.fraction ≠ none ∨ n.exponent ≠ none)
    (hfraction : n.fractionDigits.length ≤ 900)
    (hexponent : ∀ down digits, n.exponent = some (down, digits) → worth digits ≤ 1000) :
    ∃ taken dropped, n.fractionDigits = taken ++ dropped ∧
      worth (n.whole ++ taken) ≤ significandMax ∧
      n.value? = scale? n.negative (worth (n.whole ++ taken))
        (spelledPower n.exponent - taken.length) := by
  have hwhole' := accumulate_short hwhole hlength
  have hsmall : worth n.whole ≤ significandMax := by
    rcases accumulate_spec (Nat.zero_le significandMax) n.whole with ⟨-, -, -, hle⟩
    rwa [hwhole'] at hle
  rcases accumulate_spec hsmall n.fractionDigits with ⟨taken, htaken, hvalue, hle⟩
  generalize haccumulated : accumulate significandMax (worth n.whole) n.fractionDigits = result
    at htaken hvalue hle
  rcases result with ⟨s, dropped⟩
  dsimp only at htaken hvalue hle
  have hworth : worth (n.whole ++ taken) = s := by
    rw [hvalue]
    unfold worth
    rw [Nat.ofDigitChars_append]
  rw [← hworth] at hle haccumulated
  refine ⟨taken, dropped, htaken, hle, ?_⟩
  have hscaled : ∀ p : Int, -1000 ≤ p ∧ p ≤ 1000 → p = -taken.length →
      withExponent? n.negative (worth (n.whole ++ taken)) p n.exponent =
        scale? n.negative (worth (n.whole ++ taken)) (spelledPower n.exponent - taken.length) := by
    intro p hp htake
    rw [withExponent?_eq hexponent hp, htake, neg_add_eq_sub]
  have hlengths := congrArg List.length htaken
  rw [List.length_append] at hlengths
  unfold value?
  rw [hwhole']
  dsimp only
  cases hn : n.fraction with
  | some digits =>
      have hdigits : n.fractionDigits = digits := by rw [fractionDigits, hn, Option.getD_some]
      rw [hdigits] at haccumulated hfraction hlengths
      dsimp only
      rw [haccumulated]
      refine hscaled _ ?_ ?_
      · simp only [List.length_nil, Int.natCast_zero]
        omega
      · simp only [List.length_nil, Int.natCast_zero]
        omega
  | none =>
      -- Without a fraction there is an exponent, so the numeral is not read as a whole number.
      have hdigits : n.fractionDigits = [] := by rw [fractionDigits, hn, Option.getD_none]
      rw [hdigits] at haccumulated htaken
      have hempty : taken = [] := (List.append_eq_nil_iff.1 htaken.symm).1
      have hexp : n.exponent.isNone = false := by
        rcases hspelled with hno | hexp
        · exact absurd hn hno
        · exact Option.isNone_eq_false_iff.2 (Option.isSome_iff_ne_none.2 hexp)
      dsimp only
      rw [hexp, Bool.and_false, if_neg Bool.false_ne_true, (Prod.mk.inj haccumulated).1]
      exact hscaled _ (by simp) (by simp [hempty])

/-- What is dropped makes no number smaller. -/
theorem worth_le_append (cs ds : List Char) :
    (worth cs : ℚ) * 10 ^ (ds.length : Int) ≤ worth (cs ++ ds) := by
  rw [worth_append, zpow_natCast, mul_comm]
  push_cast
  exact le_add_of_nonneg_right (Nat.cast_nonneg _)

/-- A numeral with a short whole part and some digits in all, and a fraction or an exponent. -/
theorem value?_isSome {n : Numeral} (hwhole : ∀ c ∈ n.whole, c.isDigit = true)
    (hlength : n.whole.length ≤ 16) (hspelled : n.fraction ≠ none ∨ n.exponent ≠ none)
    (hfraction : n.fractionDigits.length ≤ 900)
    (hexponent : ∀ down digits, n.exponent = some (down, digits) → worth digits ≤ 1000)
    (hleast : -616 ≤ spelledPower n.exponent - n.fractionDigits.length)
    (hbelow : (worth (n.whole ++ n.fractionDigits) : ℚ) *
      10 ^ (spelledPower n.exponent - n.fractionDigits.length) * slack < Double.overflowBound) :
    ∃ r, n.value? = some r := by
  rcases value?_eq hwhole hlength hspelled hfraction hexponent with
    ⟨taken, dropped, htaken, hle, hvalue⟩
  have hlengths := congrArg List.length htaken
  rw [List.length_append] at hlengths
  rw [hvalue]
  refine scale?_isSome hle (by omega) (lt_of_le_of_lt ?_ hbelow)
  have hpower : spelledPower n.exponent - taken.length =
      dropped.length + (spelledPower n.exponent - n.fractionDigits.length) := by omega
  have hworth := worth_le_append (n.whole ++ taken) dropped
  rw [List.append_assoc, ← htaken] at hworth
  have hslack : 0 ≤ slack := zero_le_one.trans one_le_slack
  refine mul_le_mul_of_nonneg_right ?_ hslack
  rw [hpower, zpow_add₀ (by norm_num : (10 : ℚ) ≠ 0), ← mul_assoc]
  exact mul_le_mul_of_nonneg_right hworth (by positivity)

end Numeral

namespace Double

theorem ten_zpow_add (a b : Int) : (10 : ℚ) ^ (a + b) = 10 ^ a * 10 ^ b :=
  zpow_add₀ (by norm_num) a b

theorem cast_ten_zpow {p : Int} (h : 0 ≤ p) : ((Nat.pow 10 p.toNat : Nat) : ℚ) = 10 ^ p := by
  obtain ⟨n, rfl⟩ := Int.eq_ofNat_of_zero_le h
  rw [Int.toNat_natCast, Numeral.cast_ten_pow, zpow_natCast]

namespace Interval

variable {i : Interval} {count : Nat} {power : Int}

/-- The sides of a comparison, brought to natural numbers. -/
def counted (i : Interval) (count : Nat) (power : Int) : Nat :=
  if power ≥ 0 then count * Nat.pow 10 power.toNat * i.den else count * i.den

def scale (power : Int) : Nat := if power ≥ 0 then 1 else Nat.pow 10 (-power).toNat

theorem scale_pos (power : Int) : (0 : ℚ) < scale power := by
  unfold scale
  split
  · norm_num
  · rw [cast_ten_zpow (by omega)]
    positivity

theorem counted_eq (i : Interval) (count : Nat) (power : Int) :
    (i.counted count power : ℚ) = count * 10 ^ power * i.den * scale power := by
  unfold counted scale
  split
  · rename_i h
    rw [Nat.cast_mul, Nat.cast_mul, cast_ten_zpow h, Nat.cast_one, mul_one]
  · rename_i h
    rw [Nat.cast_mul, cast_ten_zpow (by omega), zpow_neg]
    field_simp

theorem holds_eq (i : Interval) (count : Nat) (power : Int) : i.holds count power =
    if i.closed then decide (i.low * scale power ≤ i.counted count power) &&
        decide (i.counted count power ≤ i.high * scale power)
    else decide (i.low * scale power < i.counted count power) &&
      decide (i.counted count power < i.high * scale power) := rfl

/-- A decimal of the interval lies between its ends. -/
theorem bounds_of_holds (hden : 0 < i.den) (h : i.holds count power = true) :
    (i.low : ℚ) / i.den ≤ count * 10 ^ power ∧ (count : ℚ) * 10 ^ power ≤ i.high / i.den := by
  have hden' : (0 : ℚ) < i.den := by exact_mod_cast hden
  have hscale := scale_pos power
  have hends : i.low * scale power ≤ i.counted count power ∧
      i.counted count power ≤ i.high * scale power := by
    rw [holds_eq] at h
    split at h
    · simpa using h
    · have hlt : i.low * scale power < i.counted count power ∧
          i.counted count power < i.high * scale power := by simpa using h
      exact ⟨hlt.1.le, hlt.2.le⟩
  have hcasts : (i.low : ℚ) * scale power ≤ count * 10 ^ power * i.den * scale power ∧
      (count : ℚ) * 10 ^ power * i.den * scale power ≤ i.high * scale power := by
    rw [← counted_eq]
    exact_mod_cast hends
  rw [div_le_iff₀ hden', le_div_iff₀ hden']
  exact ⟨le_of_mul_le_mul_right hcasts.1 hscale, le_of_mul_le_mul_right hcasts.2 hscale⟩

/-- What lies strictly between the ends is in the interval. -/
theorem holds_of_bounds (hden : 0 < i.den) (hlow : (i.low : ℚ) / i.den < count * 10 ^ power)
    (hhigh : (count : ℚ) * 10 ^ power < i.high / i.den) : i.holds count power = true := by
  have hden' : (0 : ℚ) < i.den := by exact_mod_cast hden
  have hscale := scale_pos power
  rw [div_lt_iff₀ hden'] at hlow
  rw [lt_div_iff₀ hden'] at hhigh
  have hlow' : i.low * scale power < i.counted count power := by
    have hcast := mul_lt_mul_of_pos_right hlow hscale
    rw [← counted_eq] at hcast
    exact_mod_cast hcast
  have hhigh' : i.counted count power < i.high * scale power := by
    have hcast := mul_lt_mul_of_pos_right hhigh hscale
    rw [← counted_eq] at hcast
    exact_mod_cast hcast
  rw [holds_eq]
  split
  · simp [hlow'.le, hhigh'.le]
  · simp [hlow', hhigh']

theorem holds_of_onGrid (h : i.onGrid power = some count) : i.holds count power = true := by
  unfold onGrid at h
  extract_lets num den below nearest at h
  split at h
  · rename_i hholds
    exact Option.some.inj h ▸ hholds
  · split at h
    · rename_i hholds
      exact Option.some.inj h ▸ hholds
    · split at h
      · rename_i hholds
        exact Option.some.inj h ▸ hholds
      · simp at h

/-- A grid that is finer than the distances of the ends meets the interval. -/
theorem onGrid_isSome (hden : 0 < i.den)
    (hbelow : (10 : ℚ) ^ power < 2 * ((i.value - i.low) / i.den))
    (habove : (10 : ℚ) ^ power < 2 * ((i.high - i.value) / i.den)) :
    ∃ count, i.onGrid power = some count := by
  have hden' : (0 : ℚ) < i.den := by exact_mod_cast hden
  have hten : (0 : ℚ) < 10 ^ power := by positivity
  unfold onGrid
  extract_lets num den below nearest
  have hquot : (num : ℚ) / den = i.value / i.den / 10 ^ power ∧ 0 < den := by
    simp only [num, den]
    split
    · rename_i h
      rw [Nat.cast_mul, cast_ten_zpow h, div_div]
      exact ⟨rfl, Nat.mul_pos hden (Nat.pow_pos (by decide))⟩
    · rename_i h
      rw [Nat.cast_mul, cast_ten_zpow (by omega), zpow_neg]
      exact ⟨by field_simp, hden⟩
  rcases near_roundHalfEven num hquot.2 with ⟨hle, hge⟩
  have hnear : nearest = roundHalfEven num den := rfl
  rw [← hnear, hquot.1] at hle hge
  have hle' : (nearest : ℚ) * 10 ^ power ≤ i.value / i.den + 10 ^ power / 2 := by
    have hmul := mul_le_mul_of_nonneg_right hle hten.le
    rw [add_mul, div_mul_cancel₀ _ hten.ne'] at hmul
    linarith
  have hge' : (i.value : ℚ) / i.den ≤ nearest * 10 ^ power + 10 ^ power / 2 := by
    have hmul := mul_le_mul_of_nonneg_right hge hten.le
    rw [add_mul, div_mul_cancel₀ _ hten.ne'] at hmul
    linarith
  rw [sub_div] at hbelow habove
  -- The nearest point of the grid is off by half a step, which both ends are further away.
  have hholds : i.holds nearest power = true :=
    holds_of_bounds hden (by linarith) (by linarith)
  rw [if_pos hholds]
  exact ⟨nearest, rfl⟩

/-- The search comes to a grid that meets the interval if there is one within its reach. -/
theorem search_spec {fuel k : Nat} (hk : k < fuel) (h : ∃ c, i.onGrid (power - k) = some c) :
    i.onGrid (i.search power fuel).2 = some (i.search power fuel).1 ∧
      power - k ≤ (i.search power fuel).2 := by
  induction fuel generalizing power k with
  | zero => omega
  | succ fuel ih =>
      unfold search
      cases hgrid : i.onGrid power with
      | some count => exact ⟨hgrid, by dsimp only; omega⟩
      | none =>
          cases k with
          | zero =>
              rw [Int.natCast_zero, sub_zero, hgrid] at h
              simp at h
          | succ k =>
              have hshift : power - (k + 1 : Nat) = power - 1 - k := by omega
              rw [hshift] at h ⊢
              exact ih (by omega) h

end Interval

/-! ## Powers of ten and of two -/

/-- Three decimal digits are less than ten binary ones. -/
theorem ten_zpow_le_of_nonneg {p k : Int} (hp : 0 ≤ p) (h : 10 * p ≤ 3 * k) :
    (10 : ℚ) ^ p ≤ 2 ^ k := by
  refine le_of_pow_le_pow_left₀ (by decide : 3 ≠ 0) (by positivity) ?_
  obtain ⟨n, rfl⟩ := Int.eq_ofNat_of_zero_le hp
  calc ((10 : ℚ) ^ (n : Int)) ^ 3 = 1000 ^ n := by
        rw [zpow_natCast, ← pow_mul, mul_comm, pow_mul]
        norm_num
    _ ≤ 1024 ^ n := pow_le_pow_left₀ (by norm_num) (by norm_num) n
    _ = 2 ^ (10 * (n : Int)) := by
        rw [zpow_mul, zpow_natCast]
        norm_num
    _ ≤ 2 ^ (k * 3) := two_zpow_le (by omega)
    _ = (2 ^ k) ^ 3 := by
        rw [zpow_mul]
        rfl

/-- Ten decimal digits are more than thirty-three binary ones. -/
theorem ten_zpow_le_of_nonpos {p k : Int} (hp : p ≤ 0) (h : 33 * p ≤ 10 * k) :
    (10 : ℚ) ^ p ≤ 2 ^ k := by
  refine le_of_pow_le_pow_left₀ (by decide : 10 ≠ 0) (by positivity) ?_
  obtain ⟨n, hn⟩ := Int.eq_ofNat_of_zero_le (Int.neg_nonneg_of_nonpos hp)
  obtain rfl : p = -(n : Int) := by omega
  calc ((10 : ℚ) ^ (-(n : Int))) ^ 10 = ((10 ^ 10) ^ n)⁻¹ := by
        rw [zpow_neg, zpow_natCast, inv_pow, ← pow_mul, ← pow_mul, mul_comm]
    _ ≤ ((2 ^ 33) ^ n)⁻¹ :=
        inv_anti₀ (by positivity) (pow_le_pow_left₀ (by norm_num) (by norm_num) n)
    _ = 2 ^ (33 * -(n : Int)) := by
        rw [mul_neg, zpow_neg, zpow_mul, zpow_natCast]
        rfl
    _ ≤ 2 ^ (k * 10) := two_zpow_le (by omega)
    _ = (2 ^ k) ^ 10 := by
        rw [zpow_mul]
        rfl

/-! ## The interval of a double -/

section

variable {x : Double}

/-- A quarter of the distance to the next double. -/
def quarter (x : Double) : ℚ := 2 ^ (x.exponent - 2)

theorem quarter_pos (x : Double) : 0 < x.quarter := by
  unfold quarter
  positivity

theorem den_interval_pos (x : Double) : 0 < x.interval.den := by
  change 0 < if x.exponent ≥ 2 then 1 else Nat.pow 2 (2 - x.exponent).toNat
  split
  · exact Nat.one_pos
  · exact Nat.pow_pos (by decide)

theorem quarter_eq (x : Double) (n : Nat) :
    ((n * (if x.exponent ≥ 2 then Nat.pow 2 (x.exponent - 2).toNat else 1) : Nat) : ℚ) /
      x.interval.den = n * x.quarter := by
  change _ / ((if x.exponent ≥ 2 then 1 else Nat.pow 2 (2 - x.exponent).toNat : Nat) : ℚ) = _
  unfold quarter
  split
  · rw [Nat.cast_mul, cast_two_pow (by omega), Nat.cast_one, div_one]
  · have hneg : x.exponent - 2 = -(2 - x.exponent) := by omega
    rw [mul_one, cast_two_pow (by omega), hneg, zpow_neg, div_eq_mul_inv]

theorem value_interval (x : Double) :
    (x.interval.value : ℚ) / x.interval.den = (4 * x.mantissa : Nat) * x.quarter :=
  quarter_eq x _

theorem high_interval (x : Double) :
    (x.interval.high : ℚ) / x.interval.den = (4 * x.mantissa + 2 : Nat) * x.quarter :=
  quarter_eq x _

theorem low_interval (hm : x.mantissa ≠ 0) : 0 < (x.interval.low : ℚ) / x.interval.den ∧
    (x.interval.low : ℚ) / x.interval.den ≤ (4 * x.mantissa : Nat) * x.quarter - x.quarter := by
  have hlow : ∃ n : Nat, 0 < n ∧ n + 1 ≤ 4 * x.mantissa ∧
      (x.interval.low : ℚ) / x.interval.den = n * x.quarter := by
    refine ⟨_, ?_, ?_, quarter_eq x _⟩
    · split <;> omega
    · split <;> omega
  have hquarter := x.quarter_pos
  rcases hlow with ⟨n, hpos, hle, heq⟩
  have hpos' : (0 : ℚ) < n := by exact_mod_cast hpos
  have hle' : (n : ℚ) + 1 ≤ (4 * x.mantissa : Nat) := by exact_mod_cast hle
  rw [heq]
  refine ⟨by positivity, ?_⟩
  have hmul := mul_le_mul_of_nonneg_right hle' hquarter.le
  linarith

/-- The binary logarithm that the search starts from, between those of the least double and of the
mantissa bound. -/
theorem log2_interval (h : x.IsFinite) (hm : x.mantissa ≠ 0) :
    let log : Int := (Nat.log2 x.interval.value : Int) - Nat.log2 x.interval.den
    log - 53 ≤ x.exponent ∧ -1076 ≤ log := by
  intro log
  have hpos : 0 < x.mantissa := Nat.pos_of_ne_zero hm
  have hvalue : x.interval.value ≠ 0 := by
    change 4 * x.mantissa * (if x.exponent ≥ 2 then Nat.pow 2 (x.exponent - 2).toNat else 1) ≠ 0
    split
    · exact Nat.mul_ne_zero (by omega) (Nat.pow_pos (by decide)).ne'
    · omega
  rcases log2_bounds hvalue (den_interval_pos x).ne' with ⟨hlow, hhigh⟩
  rw [value_interval] at hlow hhigh
  -- Four times the mantissa is between two powers of two, and so the logarithm is known up to the
  -- exponent.
  have hmant : ((4 * x.mantissa : Nat) : ℚ) < 2 ^ (55 : Int) := by
    have hnat : 4 * x.mantissa < 2 ^ 55 := by
      have := h.mantissa
      omega
    exact_mod_cast hnat
  have hone : (2 : ℚ) ^ (2 : Int) ≤ (4 * x.mantissa : Nat) := by
    have hnat : 4 ≤ 4 * x.mantissa := by omega
    have : ((2 : ℚ) ^ (2 : Int)) = (4 : Nat) := by norm_num
    rw [this]
    exact_mod_cast hnat
  have hquarter := x.quarter_pos
  constructor
  · have hlt : (2 : ℚ) ^ (log - 1) < 2 ^ (x.exponent + 53) := by
      calc (2 : ℚ) ^ (log - 1) ≤ (4 * x.mantissa : Nat) * x.quarter := hlow
        _ < 2 ^ (55 : Int) * x.quarter := mul_lt_mul_of_pos_right hmant hquarter
        _ = 2 ^ (x.exponent + 53) := by
            rw [quarter, ← two_zpow_add]
            congr 1
            omega
    have := (zpow_lt_zpow_iff_right₀ (by norm_num : (1 : ℚ) < 2)).1 hlt
    omega
  · have hlt : (2 : ℚ) ^ x.exponent < 2 ^ (log + 1) := by
      calc (2 : ℚ) ^ x.exponent = 2 ^ (2 : Int) * x.quarter := by
            rw [quarter, ← two_zpow_add]
            congr 1
            omega
        _ ≤ (4 * x.mantissa : Nat) * x.quarter := mul_le_mul_of_nonneg_right hone hquarter.le
        _ < 2 ^ (log + 1) := hhigh
    have hexp := (zpow_lt_zpow_iff_right₀ (by norm_num : (1 : ℚ) < 2)).1 hlt
    have hleast : -1074 ≤ x.exponent := h.least
    omega

/-- The shortest decimal of a double. -/
structure IsDecimal (x : Double) (count : Nat) (power : Int) : Prop where
  count_ne : count ≠ 0
  least : -400 ≤ power
  below : (count : ℚ) * 10 ^ power ≤ (4 * x.mantissa + 2 : Nat) * x.quarter

theorem shortest_spec (h : x.IsFinite) (hm : x.mantissa ≠ 0) :
    x.IsDecimal x.shortest.1 x.shortest.2 := by
  have hlog := log2_interval h hm
  rcases low_interval hm with ⟨hpos, hlow⟩
  have hden := den_interval_pos x
  have hquarter := x.quarter_pos
  have hgreatest : x.exponent ≤ 971 := h.greatest
  extract_lets log at hlog
  generalize htop : log * 30103 / 100000 + 2 = top
  have hshortest : x.shortest = x.interval.search top 25 := by
    rw [← htop]
    rfl
  -- The last grid is finer than half the distance to the next double.
  have hfine : (10 : ℚ) ^ (top - (24 : Nat)) ≤ x.quarter := by
    rcases le_or_gt 0 (top - (24 : Nat)) with hsign | hsign
    · exact ten_zpow_le_of_nonneg hsign (by omega)
    · exact ten_zpow_le_of_nonpos hsign.le (by omega)
  have hfound : ∃ c, x.interval.onGrid (top - (24 : Nat)) = some c := by
    refine Interval.onGrid_isSome hden (lt_of_le_of_lt hfine ?_) (lt_of_le_of_lt hfine ?_)
    · rw [sub_div, value_interval]
      linarith
    · rw [sub_div, value_interval, high_interval]
      push_cast
      linarith
  rcases Interval.search_spec (by decide : 24 < 25) hfound with ⟨hgrid, hleast⟩
  rw [hshortest]
  rcases Interval.bounds_of_holds hden (Interval.holds_of_onGrid hgrid) with ⟨hge, hle⟩
  rw [high_interval] at hle
  refine ⟨?_, by omega, hle⟩
  intro hzero
  rw [hzero, Nat.cast_zero, zero_mul] at hge
  exact absurd hpos (not_lt.2 hge)

end

/-! ## The numeral of a double -/

/-- The numeral of digits whose first one stands for `10 ^ lead`. -/
def layOut (negative : Bool) (digits : List Char) (lead : Int) : Numeral :=
  if leastPositional ≤ lead && lead ≤ greatestPositional then
    if (digits.length : Int) - 1 ≤ lead then
      ⟨negative, digits ++ zeros (lead - digits.length + 1).toNat, some ['0'], none⟩
    else if 0 ≤ lead then
      ⟨negative, digits.take (lead + 1).toNat, some (digits.drop (lead + 1).toNat), none⟩
    else ⟨negative, ['0'], some (zeros (-lead - 1).toNat ++ digits), none⟩
  else
    ⟨negative, digits.take 1, if digits.length == 1 then none else some (digits.drop 1),
      some (decide (lead < 0), Nat.toDigits 10 lead.natAbs)⟩

section

variable {negative : Bool} {digits : List Char} {lead : Int}

theorem numeralChars_layOut (negative : Bool) (digits : List Char) (lead : Int) :
    Draft.numeralChars (layOut negative digits lead) =
      (if negative then ['-'] else []) ++ renderDigits digits lead := by
  by_cases hpositional : (leastPositional ≤ lead && lead ≤ greatestPositional) = true
  · by_cases hwhole : (digits.length : Int) - 1 ≤ lead
    · simp only [layOut, renderDigits, hpositional, hwhole, if_true]
      simp [Draft.numeralChars, Draft.fractionChars, Draft.exponentChars]
    · by_cases hone : 0 ≤ lead
      · simp only [layOut, renderDigits, hpositional, hwhole, hone, if_true, if_false]
        simp [Draft.numeralChars, Draft.fractionChars, Draft.exponentChars]
      · simp only [layOut, renderDigits, hpositional, hwhole, hone, if_true, if_false]
        simp [Draft.numeralChars, Draft.fractionChars, Draft.exponentChars]
  · rw [layOut, renderDigits, if_neg hpositional, if_neg hpositional]
    by_cases hsign : lead < 0 <;> by_cases hone : digits.length = 1 <;>
      simp [Draft.numeralChars, Draft.fractionChars, Draft.exponentChars, hsign, hone]

theorem isDigit_of_mem_zeros {n : Nat} {c : Char} (h : c ∈ zeros n) : c.isDigit = true := by
  rw [List.eq_of_mem_replicate h]
  rfl

/-- Digits that do not start with a zero. -/
structure AreLeading (digits : List Char) : Prop where
  all : Draft.AreDigits digits
  head : digits.head? ≠ some '0'

theorem AreLeading.take (h : AreLeading digits) {n : Nat} (hn : 0 < n) :
    Draft.IsWholePart (digits.take n) := by
  rcases h with ⟨⟨hne, hall⟩, hhead⟩
  refine ⟨⟨?_, fun c hc => hall c (List.mem_of_mem_take hc)⟩, Or.inr ?_⟩
  · simp [hne, hn.ne']
  · rwa [List.head?_take, if_neg hn.ne']

theorem areDigits_drop (h : ∀ c ∈ digits, c.isDigit = true) {n : Nat} (hn : n < digits.length) :
    Draft.AreDigits (digits.drop n) := by
  refine ⟨?_, fun c hc => h c (List.mem_of_mem_drop hc)⟩
  simpa using hn

theorem isProper_layOut (h : AreLeading digits) : Draft.IsProper (layOut negative digits lead) := by
  rcases h.all with ⟨hne, hall⟩
  have hlength := List.length_pos_iff.2 hne
  have hzero : Draft.AreDigits ['0'] := ⟨by simp, by simp⟩
  -- An integer, a point among the digits, a point before them, or an exponent.
  unfold layOut
  split
  · split
    · refine ⟨⟨⟨by simp [hne], fun c hc => ?_⟩, Or.inr ?_⟩, ?_, by simp⟩
      · exact (List.mem_append.1 hc).elim (hall c) isDigit_of_mem_zeros
      · rw [List.head?_append_of_ne_nil _ hne]
        exact h.head
      · rintro _ ⟨⟩
        exact hzero
    · split
      · refine ⟨h.take (by omega), ?_, by simp⟩
        rintro _ ⟨⟩
        exact areDigits_drop hall (by omega)
      · refine ⟨⟨hzero, Or.inl rfl⟩, ?_, by simp⟩
        rintro _ ⟨⟩
        exact ⟨by simp [hne],
          fun c hc => (List.mem_append.1 hc).elim isDigit_of_mem_zeros (hall c)⟩
  · refine ⟨h.take Nat.one_pos, fun fraction hfraction => ?_, ?_⟩
    · dsimp only at hfraction
      split at hfraction
      · simp at hfraction
      · rename_i hone
        have hone' : digits.length ≠ 1 := by simpa using hone
        rw [← Option.some.inj hfraction]
        exact areDigits_drop hall (by omega)
    · rintro _ _ ⟨⟩
      exact Draft.areDigits_toDigits _

theorem range_of_positional
    (h : (decide (leastPositional ≤ lead) && decide (lead ≤ greatestPositional)) = true) :
    -5 ≤ lead ∧ lead ≤ 15 := by
  rcases Bool.and_eq_true_iff.1 h with ⟨hleast, hgreatest⟩
  exact ⟨of_decide_eq_true hleast, of_decide_eq_true hgreatest⟩

theorem spelledPower_toDigits (power : Int) :
    Numeral.spelledPower (some (decide (power < 0), Nat.toDigits 10 power.natAbs)) = power := by
  simp only [Numeral.spelledPower, Numeral.worth, Nat.ofDigitChars_ten_toDigits]
  by_cases hsign : power < 0
  · simp only [hsign, decide_true, if_true]
    omega
  · simp only [hsign, decide_false, Bool.false_eq_true, if_false]
    omega

/-- All digits of a numeral, and the power of ten of the last one. -/
theorem worth_layOut (hne : digits ≠ []) :
    ∃ k : Nat, Numeral.worth ((layOut negative digits lead).whole ++
        (layOut negative digits lead).fractionDigits) = Numeral.worth digits * 10 ^ k ∧
      Numeral.spelledPower (layOut negative digits lead).exponent -
        (layOut negative digits lead).fractionDigits.length + k = lead + 1 - digits.length ∧
      k ≤ 17 ∧ (layOut negative digits lead).fractionDigits.length ≤ digits.length + 4 := by
  have hlength := List.length_pos_iff.2 hne
  unfold layOut
  split
  · rename_i hpositional
    have hrange := range_of_positional hpositional
    split
    -- All digits stand before the point, with zeros up to it and one behind.
    · rename_i hle
      refine ⟨(lead - digits.length + 1).toNat + 1, ?_, ?_⟩
      · have hzeros : zeros (lead - digits.length + 1).toNat ++ ['0'] =
            zeros ((lead - digits.length + 1).toNat + 1) := by
          rw [zeros, zeros, List.replicate_succ']
        rw [Numeral.fractionDigits, Option.getD_some, List.append_assoc, hzeros,
          Numeral.worth_append, Numeral.worth_zeros, Nat.add_zero, zeros, List.length_replicate,
          Nat.mul_comm]
      · simp only [Numeral.spelledPower, Numeral.fractionDigits, Option.getD_some,
          List.length_singleton]
        omega
    · split
      -- The point stands among the digits, or zeros stand between it and the first one.
      · refine ⟨0, ?_, ?_⟩
        · rw [Numeral.fractionDigits, Option.getD_some, List.take_append_drop, Nat.pow_zero,
            Nat.mul_one]
        · simp only [Numeral.spelledPower, Numeral.fractionDigits, Option.getD_some,
            List.length_drop]
          omega
      · refine ⟨0, ?_, ?_⟩
        · have hzero : ['0'] ++ zeros (-lead - 1).toNat = zeros ((-lead - 1).toNat + 1) := rfl
          rw [Numeral.fractionDigits, Option.getD_some, ← List.append_assoc, hzero,
            Numeral.worth_append, Numeral.worth_zeros, Nat.mul_zero, Nat.zero_add, Nat.pow_zero,
            Nat.mul_one]
        · simp only [Numeral.spelledPower, Numeral.fractionDigits, Option.getD_some,
            List.length_append, zeros, List.length_replicate]
          omega
  -- One digit stands before the point, and the exponent tells the power of that one.
  · refine ⟨0, ?_, ?_⟩
    · rw [Nat.pow_zero, Nat.mul_one, Numeral.fractionDigits]
      dsimp only
      split
      · rename_i hone
        have hone' : digits.length = 1 := by simpa using hone
        rw [Option.getD_none, List.append_nil, List.take_of_length_le (by omega)]
      · rw [Option.getD_some, List.take_append_drop]
    · rw [spelledPower_toDigits, Numeral.fractionDigits]
      dsimp only
      split
      · rename_i hone
        have hone' : digits.length = 1 := by simpa using hone
        simp only [Option.getD_none, List.length_nil, Int.natCast_zero]
        omega
      · simp only [Option.getD_some, List.length_drop]
        omega

theorem length_whole_layOut : (layOut negative digits lead).whole.length ≤ 16 := by
  unfold layOut
  split
  · rename_i hpositional
    have hrange := range_of_positional hpositional
    split
    · simp only [List.length_append, zeros, List.length_replicate]
      omega
    · split
      · simp only [List.length_take]
        omega
      · simp
  · simp only [List.length_take]
    omega

theorem spelled_layOut : (layOut negative digits lead).fraction ≠ none ∨
    (layOut negative digits lead).exponent ≠ none := by
  unfold layOut
  split
  · split
    · simp
    · split <;> simp
  · simp

theorem worth_exponent_layOut (hlead : lead.natAbs ≤ 1000) {down : Bool} {power : List Char}
    (h : (layOut negative digits lead).exponent = some (down, power)) :
    Numeral.worth power ≤ 1000 := by
  unfold layOut at h
  split at h
  · split at h
    · simp at h
    · split at h <;> simp at h
  · rcases Prod.mk.inj (Option.some.inj h) with ⟨-, rfl⟩
    rwa [Numeral.worth, Nat.ofDigitChars_ten_toDigits]

/-- Digits that are laid out have a value if the decimal is below the bound. -/
theorem value?_layOut (h : AreLeading digits) (hlead : lead.natAbs ≤ 400)
    (hleast : -400 ≤ lead + 1 - digits.length)
    (hbelow : (Numeral.worth digits : ℚ) * 10 ^ (lead + 1 - digits.length) * Numeral.slack <
      overflowBound) : ∃ r, (layOut negative digits lead).value? = some r := by
  have hproper : Draft.IsProper (layOut negative digits lead) := isProper_layOut h
  rcases @worth_layOut negative digits lead h.all.1 with ⟨k, hworth, hpower, hk, hlength⟩
  refine Numeral.value?_isSome hproper.whole.1.2 length_whole_layOut spelled_layOut (by omega)
    (fun down power => worth_exponent_layOut (by omega)) (by omega) (lt_of_eq_of_lt ?_ hbelow)
  rw [hworth, ← hpower, ten_zpow_add, zpow_natCast]
  push_cast
  ring

end

/-! ### Its digits -/

/-- Only zeros are dropped. -/
theorem significant_append (digits : List Char) :
    ∃ k, digits = significant digits ++ zeros k := by
  refine ⟨(digits.reverse.takeWhile (· == '0')).length, ?_⟩
  have hzeros : zeros (digits.reverse.takeWhile (· == '0')).length =
      digits.reverse.takeWhile (· == '0') := by
    refine (List.eq_replicate_of_mem fun c hc => ?_).symm
    simpa using List.all_eq_true.1 List.all_takeWhile c hc
  have hreverse := congrArg List.reverse (List.takeWhile_append_dropWhile
    (p := (· == '0')) (l := digits.reverse))
  rw [List.reverse_append, List.reverse_reverse] at hreverse
  have hsame : (digits.reverse.takeWhile (· == '0')).reverse =
      digits.reverse.takeWhile (· == '0') := by
    rw [← hzeros, zeros, List.reverse_replicate]
  rw [hzeros, significant, ← hsame]
  exact hreverse.symm

theorem significant_spec {n : Nat} (hn : n ≠ 0) :
    AreLeading (significant (Nat.toDigits 10 n)) ∧
      ∃ k : Nat, (significant (Nat.toDigits 10 n)).length + k = (Nat.toDigits 10 n).length ∧
        Numeral.worth (significant (Nat.toDigits 10 n)) * 10 ^ k = n := by
  rcases significant_append (Nat.toDigits 10 n) with ⟨k, hk⟩
  -- What is cut off are zeros.
  have hworth : Numeral.worth (significant (Nat.toDigits 10 n)) * 10 ^ k = n := by
    have hall : Numeral.worth (Nat.toDigits 10 n) = n := by
      rw [Numeral.worth, Nat.ofDigitChars_ten_toDigits]
    rw [hk, Numeral.worth_append, Numeral.worth_zeros, Nat.add_zero, zeros,
      List.length_replicate] at hall
    rw [Nat.mul_comm]
    exact hall
  have hne : significant (Nat.toDigits 10 n) ≠ [] := by
    intro hempty
    rw [hempty, Numeral.worth, Nat.ofDigitChars_nil, Nat.zero_mul] at hworth
    exact hn hworth.symm
  refine ⟨⟨⟨hne, fun c hc => ?_⟩, ?_⟩, k, ?_, hworth⟩
  · exact (Draft.areDigits_toDigits n).2 c (hk ▸ List.mem_append_left _ hc)
  · have hhead := Draft.head_toDigits_ne_zero n (Nat.pos_of_ne_zero hn)
    rwa [hk, List.head?_append_of_ne_nil _ hne] at hhead
  · have hlength := congrArg List.length hk
    rw [List.length_append, zeros, List.length_replicate] at hlength
    exact hlength.symm

/-- The numeral that a double is printed as. -/
def numeral (x : Double) : Numeral :=
  if x.isZero then ⟨x.negative, ['0'], some ['0'], none⟩
  else
    let (count, power) := x.shortest
    let digits := Nat.toDigits 10 count
    layOut x.negative (significant digits) (power + digits.length - 1)

theorem numeralChars_numeral (x : Double) : Draft.numeralChars x.numeral = x.render := by
  unfold numeral render
  split
  · rfl
  · exact numeralChars_layOut _ _ _

section

variable {x : Double}

theorem mantissa_ne_of_not_isZero (h : ¬ x.isZero = true) : x.mantissa ≠ 0 := by
  simpa [isZero] using h

theorem isProper_numeral (h : x.IsFinite) : Draft.IsProper x.numeral := by
  unfold numeral
  split
  · have hzero : Draft.AreDigits ['0'] := ⟨by simp, by simp⟩
    refine ⟨⟨hzero, Or.inl rfl⟩, ?_, by simp⟩
    rintro _ ⟨⟩
    exact hzero
  · rename_i hzero
    have hdecimal := shortest_spec h (mantissa_ne_of_not_isZero hzero)
    exact isProper_layOut (significant_spec hdecimal.count_ne).1

/-- The last two doubles, whose decimals leave no room for all the roundings of a reader. -/
theorem value?_numeral_last (negative : Bool) {m : Nat} (h : m = 2 ^ 53 - 1 ∨ m = 2 ^ 53 - 2) :
    ∃ r, (numeral ⟨negative, m, greatestExponent⟩).value? = some r := by
  refine Option.isSome_iff_exists.1 ?_
  rcases h with rfl | rfl
  · cases negative <;> decide +kernel
  · cases negative <;> decide +kernel

theorem mul_slack_lt {a q top : ℚ} {e : Int} (ha : a ≤ top) (hq : q ≤ 2 ^ e) (hq' : 0 ≤ q)
    (htop : 0 ≤ top) (hlt : top * Numeral.slack < (2 ^ 54 - 1) * 2 ^ (970 - e)) :
    a * q * Numeral.slack < overflowBound := by
  have hslack : 0 ≤ Numeral.slack := zero_le_one.trans Numeral.one_le_slack
  have hpow : (2 : ℚ) ^ (970 - e) * 2 ^ e = 2 ^ (970 : Nat) := by
    rw [← two_zpow_add, ← zpow_natCast]
    congr 1
    omega
  calc a * q * Numeral.slack ≤ top * 2 ^ e * Numeral.slack :=
        mul_le_mul_of_nonneg_right (mul_le_mul ha hq hq' htop) hslack
    _ = top * Numeral.slack * 2 ^ e := mul_right_comm _ _ _
    _ < (2 ^ 54 - 1) * 2 ^ (970 - e) * 2 ^ e := mul_lt_mul_of_pos_right hlt (by positivity)
    _ = overflowBound := by rw [mul_assoc, hpow, overflowBound]

/-- The others stay below the bound, with the roundings of a reader. -/
theorem end_lt_overflowBound (h : x.IsFinite)
    (hlast : x.exponent < greatestExponent ∨ x.mantissa + 2 < 2 ^ 53) :
    ((4 * x.mantissa + 2 : Nat) : ℚ) * x.quarter * Numeral.slack < overflowBound := by
  have hquarter := x.quarter_pos.le
  have hgreatest : greatestExponent = 971 := rfl
  have hmost := h.greatest
  rcases hlast with hexponent | hmantissa
  · have hnum : ((4 * x.mantissa + 2 : Nat) : ℚ) ≤ (2 ^ 55 - 2 : Nat) := by
      have hmantissa := h.mantissa
      exact_mod_cast (by omega : 4 * x.mantissa + 2 ≤ 2 ^ 55 - 2)
    have hpow : x.quarter ≤ 2 ^ (968 : Int) := two_zpow_le (by omega)
    refine mul_slack_lt hnum hpow hquarter (by positivity) ?_
    unfold Numeral.slack
    norm_num
  · have hnum : ((4 * x.mantissa + 2 : Nat) : ℚ) ≤ (2 ^ 55 - 10 : Nat) := by
      exact_mod_cast (by omega : 4 * x.mantissa + 2 ≤ 2 ^ 55 - 10)
    have hpow : x.quarter ≤ 2 ^ (969 : Int) := two_zpow_le (by omega)
    refine mul_slack_lt hnum hpow hquarter (by positivity) ?_
    unfold Numeral.slack
    norm_num

/-- The first digit of a decimal below the bound. -/
theorem lead_lt {count : Nat} {power : Int} (hcount : count ≠ 0)
    (h : (count : ℚ) * 10 ^ power * Numeral.slack < overflowBound) :
    power + (Nat.toDigits 10 count).length - 1 < 309 := by
  have hpos : 0 < (Nat.toDigits 10 count).length := Nat.length_toDigits_pos
  -- A number is not below the power of ten that its number of digits tells.
  have hle : 10 ^ ((Nat.toDigits 10 count).length - 1) ≤ count := by
    by_contra hlt
    by_cases hone : (Nat.toDigits 10 count).length = 1
    · rw [hone] at hlt
      omega
    · have hshort := (Nat.length_toDigits_le_iff (by decide) (by omega)).2 (Nat.not_le.1 hlt)
      omega
  have hexponent : power + (Nat.toDigits 10 count).length - 1 =
      ((Nat.toDigits 10 count).length - 1 : Nat) + power := by omega
  refine (zpow_lt_zpow_iff_right₀ (by norm_num : (1 : ℚ) < 10)).1 ?_
  calc (10 : ℚ) ^ (power + (Nat.toDigits 10 count).length - 1)
      = 10 ^ ((Nat.toDigits 10 count).length - 1) * 10 ^ power := by
        rw [hexponent, ten_zpow_add, zpow_natCast]
    _ ≤ count * 10 ^ power :=
        mul_le_mul_of_nonneg_right (by exact_mod_cast hle) (by positivity)
    _ ≤ count * 10 ^ power * Numeral.slack :=
        le_mul_of_one_le_right (by positivity) Numeral.one_le_slack
    _ < overflowBound := h
    _ < 10 ^ (309 : Int) := Numeral.overflowBound_lt

/-- What a double is printed as has a value. -/
theorem value?_numeral (h : x.IsFinite) : ∃ r, x.numeral.value? = some r := by
  by_cases hlast : x.exponent < greatestExponent ∨ x.mantissa + 2 < 2 ^ 53
  · unfold numeral
    split
    · cases x.negative <;> exact ⟨_, rfl⟩
    · rename_i hzero
      have hshortest := shortest_spec h (mantissa_ne_of_not_isZero hzero)
      have hbound := end_lt_overflowBound h hlast
      generalize x.shortest = found at hshortest ⊢
      rcases found with ⟨count, power⟩
      have hdecimal : x.IsDecimal count power := hshortest
      have hbelow : (count : ℚ) * 10 ^ power * Numeral.slack < overflowBound :=
        lt_of_le_of_lt (mul_le_mul_of_nonneg_right hdecimal.below
          (zero_le_one.trans Numeral.one_le_slack)) hbound
      have hlead := lead_lt hdecimal.count_ne hbelow
      have hpos : 0 < (Nat.toDigits 10 count).length := Nat.length_toDigits_pos
      have hleast := hdecimal.least
      rcases significant_spec hdecimal.count_ne with ⟨hleading, k, hlength, hworth⟩
      -- The digits that are left out stand for a power of ten, and the exponent makes up for it.
      have hpower : power + (Nat.toDigits 10 count).length - 1 + 1 -
          (significant (Nat.toDigits 10 count)).length = k + power := by omega
      refine value?_layOut hleading (by omega) (by omega) (lt_of_eq_of_lt ?_ hbelow)
      rw [hpower, ten_zpow_add, zpow_natCast, ← mul_assoc]
      congr 2
      exact_mod_cast hworth
  · have hgreatest := h.greatest
    have hmantissa := h.mantissa
    have heq : x.exponent = greatestExponent := by omega
    rcases x with ⟨negative, m, e⟩
    dsimp only at hlast heq hmantissa
    rw [heq]
    exact value?_numeral_last negative (by omega)

end
end Double
end Json
end Testbench
