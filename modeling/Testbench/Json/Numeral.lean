import Testbench.Json.Value
import Testbench.Text.Digit

/-!
# Numeral — numbers as they are spelled

A numeral is read into a significand of at most 64 bits and a power of ten. Digits beyond 64 bits
only move the power. The double is the significand, scaled by rounded powers of ten, one rounding
per step.

- `Numeral`     : sign, whole digits, optional fraction digits, optional exponent;
- `Numeral.value?` : its number, `none` beyond the largest double.
-/

namespace Testbench
namespace Json

/-- A number as it is spelled, in digit characters. -/
structure Numeral where
  negative : Bool
  whole : List Char
  fraction : Option (List Char)
  exponent : Option (Bool × List Char)
  deriving Repr, Inhabited

namespace Numeral

/-- The largest significand. -/
def significandMax : Nat := Nat.pow 2 64 - 1

/-- The largest magnitude of an exponent that is read as a number. -/
def exponentMax : Nat := Nat.pow 2 31 - 1

/-- The largest power of ten used in one scaling step. -/
def powerStep : Nat := 308

/-- Take digits into an accumulator while it stays within `limit`. -/
def accumulate (limit acc : Nat) : List Char → Nat × List Char
  | [] => (acc, [])
  | c :: rest =>
    let next := acc * 10 + Text.digitValue c
    if next > limit then (acc, c :: rest) else accumulate limit next rest

/-- Divide by the largest step until the power fits one step or nothing is left. -/
def shrink (x : Double) : Nat → Nat → Option Double
  | 0, _ => none
  | fuel + 1, power =>
    if power ≤ powerStep then do x.div? (← Double.powerOfTen? power)
    else if x.isZero then some x
    else do shrink (← x.div? (← Double.powerOfTen? powerStep)) fuel (power - powerStep)

/-- `significand · 10 ^ power`; three full steps down leave zero. -/
def scale? (negative : Bool) (significand : Nat) (power : Int) : Option Number := do
  let x ← Double.ofNat? significand
  let scaled ←
    if power ≥ 0 then
      if power ≤ powerStep then x.mul? (← Double.powerOfTen? power.toNat)
      else if x.isZero then some x else none
    else shrink x 5 power.natAbs
  some (.double (scaled.withSign negative))

/-- Confine a power to the range of the exponents that are read. -/
def clamp (power : Int) : Int :=
  max (-(exponentMax : Int) - 1) (min exponentMax power)

/-- Apply a spelled exponent. One beyond the range gives zero unless it is positive on a significand
that is not zero. -/
def withExponent? (negative : Bool) (significand : Nat) (power : Int) :
    Option (Bool × List Char) → Option Number
  | none => scale? negative significand power
  | some (down, digits) =>
    match accumulate exponentMax 0 digits with
    | (magnitude, []) =>
      scale? negative significand (clamp (if down then power - magnitude else power + magnitude))
    | (_, _ :: _) =>
      if significand != 0 && !down then none else some (.double (Double.zero negative))

/-- An integer that stays within 64 bits; a negative zero and what lies below are doubles. -/
def integer? (negative : Bool) (significand : Nat) : Option Number :=
  if !negative then some (.int significand)
  else if 1 ≤ significand && significand ≤ Nat.pow 2 63 then some (.int (-significand))
  else (Double.ofNat? significand).map fun x => .double (x.withSign true)

def value? (n : Numeral) : Option Number :=
  let (significand, beyond) := accumulate significandMax 0 n.whole
  let power : Int := beyond.length
  match n.fraction with
  | some digits =>
    let (significand, dropped) := accumulate significandMax significand digits
    withExponent? n.negative significand (power - (digits.length - dropped.length)) n.exponent
  | none =>
    if beyond.isEmpty && n.exponent.isNone then integer? n.negative significand
    else withExponent? n.negative significand power n.exponent

end Numeral
end Json
end Testbench
