import Testbench.Proofs.Json.Reading
import Testbench.Proofs.Json.Rounding

/-!
# Scaling — which numerals have a value

A numeral has no value only if it lies beyond the largest double. Its significand and the power of
ten are rounded to doubles before they are multiplied, so close to the largest double two more
roundings count.

- `Number.IsReadable`     : the numbers that a reader comes to;
- `isReadable_of_value?`  : the value of a numeral is one of them;
- `accumulate_spec`       : the digits that are taken;
- `scale?_isSome`         : a significand and a power of ten that stay below the bound.
-/

namespace Testbench
namespace Json

/-- An integer of 64 bits or a double. -/
def Number.IsReadable : Number → Prop
  | .int i => (Number.int i).IsWord
  | .double x => x.IsFinite

namespace Numeral

/-! ## Digits -/

/-- Digits are taken from the front, as long as they stay within the limit. -/
theorem accumulate_spec {limit acc : Nat} (hacc : acc ≤ limit) (cs : List Char) :
    ∃ taken, cs = taken ++ (accumulate limit acc cs).2 ∧
      (accumulate limit acc cs).1 = Nat.ofDigitChars 10 taken acc ∧
      (accumulate limit acc cs).1 ≤ limit := by
  induction cs generalizing acc with
  | nil => exact ⟨[], rfl, rfl, hacc⟩
  | cons c rest ih =>
      unfold accumulate
      dsimp only
      split
      · exact ⟨[], rfl, rfl, hacc⟩
      · rename_i hnext
        rcases ih (Nat.not_lt.1 hnext) with ⟨taken, hrest, hvalue, hle⟩
        refine ⟨c :: taken, congrArg (c :: ·) hrest, ?_, hle⟩
        rw [hvalue, Nat.ofDigitChars_cons, Text.digitValue, Nat.mul_comm]

/-! ## Powers of ten -/

theorem cast_ten_pow (k : Nat) : ((Nat.pow 10 k : Nat) : ℚ) = 10 ^ k := by
  rw [Nat.pow_eq, Nat.cast_pow, Nat.cast_ofNat]

theorem powerOfTen?_of_le {k : Nat} (h : k ≤ powerStep) :
    ∃ y, Double.powerOfTen? k = some y ∧ Double.Rounds (10 ^ k) y := by
  have hlt : (10 : ℚ) ^ k < Double.overflowBound := by
    have hstep : powerStep = 308 := rfl
    have hmax : (10 : ℕ) ^ 308 < (2 ^ 54 - 1) * 2 ^ 970 := by decide +kernel
    calc (10 : ℚ) ^ k ≤ 10 ^ 308 := pow_le_pow_right₀ (by norm_num) (by omega)
      _ < (((2 ^ 54 - 1) * 2 ^ 970 : ℕ) : ℚ) := by exact_mod_cast hmax
      _ = Double.overflowBound := by
          rw [Double.overflowBound, Nat.cast_mul, Nat.cast_pow, Nat.cast_ofNat]
          norm_num
  have hquot : ((Nat.pow 10 k : Nat) : ℚ) / (1 : Nat) = 10 ^ k := by
    rw [cast_ten_pow, Nat.cast_one, div_one]
  rw [← hquot] at hlt
  rcases Double.ratio?_of_lt false Nat.one_pos hlt with ⟨y, hy, hrounds⟩
  rw [hquot] at hrounds
  exact ⟨y, hy, hrounds⟩

theorem ofNat?_of_le {n : Nat} (h : n ≤ significandMax) :
    ∃ x, Double.ofNat? n = some x ∧ Double.Rounds n x := by
  have hquot : (n : ℚ) / (1 : Nat) = n := by rw [Nat.cast_one, div_one]
  have hlt : (n : ℚ) < Double.overflowBound := by
    have hmax : significandMax = 2 ^ 64 - 1 := rfl
    have hle : (n : ℚ) ≤ ((2 ^ 64 : ℕ) : ℚ) := by exact_mod_cast (by omega : n ≤ 2 ^ 64)
    have hbound : ((2 ^ 64 : ℕ) : ℚ) < (((2 ^ 54 - 1) * 2 ^ 970 : ℕ) : ℚ) := by
      have hnat : (2 : ℕ) ^ 64 < (2 ^ 54 - 1) * 2 ^ 970 := by decide +kernel
      exact_mod_cast hnat
    refine lt_of_le_of_lt hle (lt_of_lt_of_eq hbound ?_)
    rw [Double.overflowBound, Nat.cast_mul, Nat.cast_pow, Nat.cast_ofNat]
    norm_num
  rw [← hquot] at hlt
  rcases Double.ratio?_of_lt false Nat.one_pos hlt with ⟨x, hx, hrounds⟩
  rw [hquot] at hrounds
  exact ⟨x, hx, hrounds⟩

/-! ## Scaling down -/

theorem one_le_divisor {k : Nat} {y : Double} (hy : Double.Rounds (10 ^ k) y) :
    1 ≤ 2 * y.magnitude := hy.above (one_le_pow₀ (by norm_num))

/-- Each division may round up, but the magnitude stays small as long as there is fuel. -/
theorem shrink_isSome {fuel power : Nat} {x : Double} (hpower : power ≤ powerStep * (fuel + 1))
    (hx : (x.magnitude + 1) * 5 ^ fuel ≤ 2 ^ 100) : ∃ y, shrink x (fuel + 1) power = some y := by
  have hsmall : ∀ {z : Double} {n : Nat}, (z.magnitude + 1) * 5 ^ n ≤ 2 ^ 100 →
      2 * z.magnitude < Double.overflowBound := by
    intro z n hz
    have hone : (1 : ℚ) ≤ 5 ^ n := one_le_pow₀ (by norm_num)
    have hle : z.magnitude + 1 ≤ (z.magnitude + 1) * 5 ^ n :=
      le_mul_of_one_le_right (by linarith [z.magnitude_nonneg]) hone
    have hbig : (2 : ℚ) ^ 101 ≤ Double.overflowBound := by
      calc (2 : ℚ) ^ 101 ≤ 2 ^ 970 := pow_le_pow_right₀ (by norm_num) (by norm_num)
        _ ≤ (2 ^ 54 - 1) * 2 ^ 970 := le_mul_of_one_le_left (by positivity) (by norm_num)
    have htwice : (2 : ℚ) ^ 101 = 2 * 2 ^ 100 := by norm_num
    linarith
  induction fuel generalizing x power with
  | zero =>
      have hle : power ≤ powerStep := by omega
      rcases powerOfTen?_of_le hle with ⟨y, hy, hrounds⟩
      rcases Double.div?_of_lt (one_le_divisor hrounds) (hsmall hx) with ⟨z, hz, -⟩
      exact ⟨z, by simp [shrink, hle, hy, hz]⟩
  | succ fuel ih =>
      unfold shrink
      split
      · rename_i hle
        rcases powerOfTen?_of_le hle with ⟨y, hy, hrounds⟩
        rcases Double.div?_of_lt (one_le_divisor hrounds) (hsmall hx) with ⟨z, hz, -⟩
        exact ⟨z, by simp [hy, hz]⟩
      · split
        · exact ⟨x, rfl⟩
        · rcases powerOfTen?_of_le (le_refl powerStep) with ⟨y, hy, hrounds⟩
          rcases Double.div?_of_lt (one_le_divisor hrounds) (hsmall hx) with ⟨z, hz, hgrown⟩
          -- Even if it is not made smaller, one division takes up a factor of five at most.
          have hz' : (z.magnitude + 1) * 5 ^ fuel ≤ 2 ^ 100 := by
            refine le_trans ?_ hx
            rw [pow_succ', ← mul_assoc]
            refine mul_le_mul_of_nonneg_right ?_ (by positivity)
            linarith [x.magnitude_nonneg]
          have hpower' : power - powerStep ≤ powerStep * (fuel + 1) := by
            rw [Nat.mul_succ] at hpower
            omega
          rcases ih hpower' hz' with ⟨r, hr⟩
          exact ⟨r, by simp [hy, hz, hr]⟩

/-! ## Scaling -/

/-- The factor of the two roundings before the product. -/
def slack : ℚ := (1 + 2 ^ (-53 : Int)) ^ 2

theorem one_le_slack : 1 ≤ slack := by
  unfold slack
  norm_num

theorem overflowBound_lt_pow {k : Nat} (h : (2 ^ 54 - 1) * 2 ^ 970 < Nat.pow 10 k) :
    Double.overflowBound < 10 ^ k := by
  calc Double.overflowBound = (((2 ^ 54 - 1) * 2 ^ 970 : ℕ) : ℚ) := by
        rw [Double.overflowBound, Nat.cast_mul, Nat.cast_pow, Nat.cast_ofNat]
        norm_num
    _ < (Nat.pow 10 k : ℕ) := Nat.cast_lt.2 h
    _ = 10 ^ k := cast_ten_pow k

theorem overflowBound_lt : Double.overflowBound < 10 ^ 309 :=
  overflowBound_lt_pow (by decide +kernel)

theorem relative_of_one_le {q : ℚ} {x : Double} (h : Double.Rounds q x) (hq : 1 ≤ q) :
    x.magnitude ≤ q * (1 + 2 ^ (-53 : Int)) := by
  refine h.relative (le_trans ?_ hq)
  have hsmall : (2 : ℚ) ^ (-1021 : Int) ≤ 2 ^ (0 : Int) := Double.two_zpow_le (by norm_num)
  rwa [zpow_zero] at hsmall

/-- A product with a power of ten that one step can scale by. -/
theorem mul?_isSome {n k : Nat} {x y : Double} (hx : Double.ofNat? n = some x)
    (hxr : Double.Rounds n x) (hyr : Double.Rounds (10 ^ k) y)
    (hv : (n : ℚ) * 10 ^ k * slack < Double.overflowBound) : ∃ z, x.mul? y = some z := by
  refine Double.mul?_of_lt ?_
  rcases Nat.eq_zero_or_pos n with rfl | hpos
  · have hzero : x = Double.zero false := by simpa [Double.ofNat?, Double.ratio?] using hx.symm
    have hmag : x.magnitude = 0 := by rw [hzero]; simp [Double.magnitude, Double.zero]
    rw [hmag, zero_mul]
    unfold Double.overflowBound
    norm_num
  · have hle := relative_of_one_le hxr (by exact_mod_cast hpos)
    have hle' := relative_of_one_le hyr (one_le_pow₀ (by norm_num))
    refine lt_of_le_of_lt (mul_le_mul hle hle' y.magnitude_nonneg (by positivity)) ?_
    refine lt_of_eq_of_lt ?_ hv
    unfold slack
    ring

/-- A double scaled by a power of ten. -/
def rescale? (x : Double) (p : Int) : Option Double :=
  if p ≥ 0 then
    if p ≤ powerStep then (Double.powerOfTen? p.toNat).bind fun y => x.mul? y
    else if x.isZero then some x else none
  else shrink x 5 p.natAbs

theorem scale?_eq (negative : Bool) (n : Nat) (p : Int) : scale? negative n p =
    (Double.ofNat? n).bind fun x =>
      (rescale? x p).map fun z => .double (z.withSign negative) := by
  unfold scale? rescale?
  cases Double.ofNat? n with
  | none => rfl
  | some x =>
      simp only [Option.bind_eq_bind, Option.bind_some]
      split
      · split
        · cases Double.powerOfTen? p.toNat with
          | none => rfl
          | some y =>
              rw [Option.bind_some, Option.bind_some]
              cases x.mul? y <;> rfl
        · split <;> rfl
      · cases shrink x 5 p.natAbs <;> rfl

theorem rescale?_isSome {n : Nat} {p : Int} {x : Double} (hx : Double.ofNat? n = some x)
    (hxr : Double.Rounds n x) (hn : n ≤ significandMax) (hp : -616 ≤ p)
    (hv : (n : ℚ) * 10 ^ p * slack < Double.overflowBound) : ∃ z, rescale? x p = some z := by
  have hstep : powerStep = 308 := rfl
  unfold rescale?
  split
  · rename_i hnonneg
    obtain ⟨k, rfl⟩ := Int.eq_ofNat_of_zero_le hnonneg
    rw [zpow_natCast] at hv
    split
    · rename_i hle
      have hk : k ≤ powerStep := by exact_mod_cast hle
      rcases powerOfTen?_of_le hk with ⟨y, hy, hyr⟩
      rcases mul?_isSome hx hxr hyr hv with ⟨z, hz⟩
      exact ⟨z, by rw [Int.toNat_natCast, hy]; exact hz⟩
    · rename_i hgt
      -- A significand that is not zero would lie beyond the bound.
      rcases Nat.eq_zero_or_pos n with rfl | hpos
      · have hzero : x = Double.zero false := by
          simpa [Double.ofNat?, Double.ratio?] using hx.symm
        exact ⟨x, by rw [if_pos (by rw [hzero]; rfl)]⟩
      · exfalso
        have hk : 309 ≤ k := by
          have hgt' : ¬ k ≤ powerStep := fun h => hgt (by exact_mod_cast h)
          omega
        have hone : (1 : ℚ) ≤ n := by exact_mod_cast hpos
        have hpow : (10 : ℚ) ^ 309 ≤ 10 ^ k := pow_le_pow_right₀ (by norm_num) hk
        have hbig : (10 : ℚ) ^ k ≤ n * 10 ^ k * slack := by
          have hprod : (1 : ℚ) ≤ n * slack := one_le_mul_of_one_le_of_one_le hone one_le_slack
          calc (10 : ℚ) ^ k ≤ 10 ^ k * (n * slack) := le_mul_of_one_le_right (by positivity) hprod
            _ = n * 10 ^ k * slack := by ring
        exact absurd hv (not_lt.2 (overflowBound_lt.le.trans (hpow.trans hbig)))
  · refine shrink_isSome (by omega) ?_
    have hmax : significandMax = 2 ^ 64 - 1 := rfl
    have hle : (n : ℚ) ≤ 18446744073709551616 := by
      exact_mod_cast (by omega : n ≤ 18446744073709551616)
    have hcrude := hxr.crude
    norm_num
    linarith

theorem scale?_isSome {negative : Bool} {n : Nat} {p : Int} (hn : n ≤ significandMax)
    (hp : -616 ≤ p) (hv : (n : ℚ) * 10 ^ p * slack < Double.overflowBound) :
    ∃ r, scale? negative n p = some r := by
  rcases ofNat?_of_le hn with ⟨x, hx, hxr⟩
  rcases rescale?_isSome hx hxr hn hp hv with ⟨z, hz⟩
  exact ⟨.double (z.withSign negative), by rw [scale?_eq, hx, Option.bind_some, hz]; rfl⟩

/-! ## What a reader comes to -/

theorem isFinite_withSign {x : Double} (h : x.IsFinite) (negative : Bool) :
    (x.withSign negative).IsFinite := ⟨h.mantissa, h.least, h.greatest⟩

theorem isFinite_of_ofNat? {n : Nat} {x : Double} (h : Double.ofNat? n = some x) : x.IsFinite :=
  Double.isFinite_of_ratio? Nat.one_pos h

theorem isFinite_of_shrink {fuel power : Nat} {x z : Double} (hx : x.IsFinite)
    (h : shrink x fuel power = some z) : z.IsFinite := by
  induction fuel generalizing x power with
  | zero => simp [shrink] at h
  | succ fuel ih =>
      unfold shrink at h
      split at h
      · rename_i hle
        rcases powerOfTen?_of_le hle with ⟨y, hy, hrounds⟩
        rw [hy] at h
        exact Double.isFinite_of_div? (one_le_divisor hrounds) h
      · split at h
        · exact Option.some.inj h ▸ hx
        · rcases powerOfTen?_of_le (le_refl powerStep) with ⟨y, hy, hrounds⟩
          simp only [hy, Option.bind_eq_bind, Option.bind_some] at h
          rcases Option.bind_eq_some_iff.1 h with ⟨r, hr, hrest⟩
          exact ih (Double.isFinite_of_div? (one_le_divisor hrounds) hr) hrest

theorem isReadable_of_scale? {negative : Bool} {n : Nat} {p : Int} {r : Number}
    (h : scale? negative n p = some r) : r.IsReadable := by
  rw [scale?_eq] at h
  rcases Option.bind_eq_some_iff.1 h with ⟨x, hx, hscaled⟩
  rcases Option.map_eq_some_iff.1 hscaled with ⟨z, hz, rfl⟩
  refine isFinite_withSign ?_ negative
  unfold rescale? at hz
  split at hz
  · split at hz
    · rcases Option.bind_eq_some_iff.1 hz with ⟨y, -, hmul⟩
      exact Double.isFinite_of_mul? hmul
    · split at hz
      · exact Option.some.inj hz ▸ isFinite_of_ofNat? hx
      · simp at hz
  · exact isFinite_of_shrink (isFinite_of_ofNat? hx) hz

theorem isReadable_of_withExponent? {negative : Bool} {n : Nat} {p : Int}
    {exponent : Option (Bool × List Char)} {r : Number}
    (h : withExponent? negative n p exponent = some r) : r.IsReadable := by
  unfold withExponent? at h
  split at h
  · exact isReadable_of_scale? h
  · split at h
    · exact isReadable_of_scale? h
    · split at h
      · simp at h
      · rw [← Option.some.inj h]
        exact Double.isFinite_zero negative

/-- The value of a numeral is an integer of 64 bits or a double. -/
theorem isReadable_of_value? {n : Numeral} {r : Number} (h : n.value? = some r) :
    r.IsReadable := by
  rcases accumulate_spec (Nat.zero_le significandMax) n.whole with ⟨-, -, -, hle⟩
  unfold value? at h
  rcases hwhole : accumulate significandMax 0 n.whole with ⟨s, beyond⟩
  rw [hwhole] at h hle
  dsimp only at h
  -- Digits beyond the bound, a fraction or an exponent make it a double. What is left is an
  -- integer.
  split at h
  · exact isReadable_of_withExponent? h
  · split at h
    · have hmax : significandMax = 2 ^ 64 - 1 := rfl
      dsimp only at hle
      unfold integer? at h
      split at h
      · rw [← Option.some.inj h]
        exact ⟨by omega, by omega⟩
      · split at h
        · rename_i hrange
          have hpow : Nat.pow 2 63 = 2 ^ 63 := rfl
          rw [← Option.some.inj h]
          simp only [Bool.and_eq_true, decide_eq_true_eq] at hrange
          exact ⟨by omega, by omega⟩
        · rcases Option.map_eq_some_iff.1 h with ⟨x, hx, rfl⟩
          exact isFinite_withSign (isFinite_of_ofNat? hx) true
    · exact isReadable_of_withExponent? h

end Numeral
end Json
end Testbench
