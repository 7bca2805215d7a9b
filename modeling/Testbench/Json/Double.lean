/-!
# Double — finite binary floating-point numbers, exactly

A finite double is a sign and `mantissa · 2 ^ exponent`. All arithmetic is on natural numbers, so
every operation below is the exact one followed by one rounding to the nearest double, ties to the
even mantissa.

- `Double`      : a finite double in canonical form;
- `ratio?`      : the double nearest to a quotient, `none` beyond the largest one;
- `mul?`, `div?`: product and quotient;
- `shortest`    : the shortest decimal that reads back as the double;
- `render`      : its text.
-/

namespace Testbench
namespace Json

/-- `± mantissa · 2 ^ exponent`, with `exponent ≥ -1074`, and a mantissa of 53 binary digits unless
the exponent is the least one. -/
structure Double where
  negative : Bool
  mantissa : Nat
  exponent : Int
  deriving DecidableEq, Repr, Inhabited

namespace Double

/-! ## Rounding -/

def leastExponent : Int := -1074

def greatestExponent : Int := 971

/-- One past the largest mantissa. -/
def mantissaBound : Nat := Nat.pow 2 53

def zero (negative : Bool) : Double := ⟨negative, 0, leastExponent⟩

/-- Numerator and denominator of `num / den · 2 ^ -exponent`. -/
def scaled (num den : Nat) (exponent : Int) : Nat × Nat :=
  if exponent ≥ 0 then (num, den * Nat.pow 2 exponent.toNat)
  else (num * Nat.pow 2 (-exponent).toNat, den)

/-- The quotient rounded to the nearest integer, a half to the even one. -/
def roundHalfEven (num den : Nat) : Nat :=
  let q := num / den
  let twice := 2 * (num % den)
  if twice < den then q
  else if twice == den then q + q % 2
  else q + 1

/-- The exponent at which `num / den` has a mantissa of 53 digits, or the least exponent. -/
def fittingExponent (num den : Nat) : Int :=
  let guess : Int := (Nat.log2 num : Int) - (Nat.log2 den : Int) - 53
  let start := max guess leastExponent
  let fits (e : Int) : Bool :=
    let (n, d) := scaled num den e
    n < mantissaBound * d
  if fits start then start else if fits (start + 1) then start + 1 else start + 2

/-- The double nearest to `num / den`, `none` if that is beyond the largest double. -/
def ratio? (negative : Bool) (num den : Nat) : Option Double :=
  if num == 0 then some (zero negative)
  else
    let e := fittingExponent num den
    let (n, d) := scaled num den e
    let m := roundHalfEven n d
    let (m, e) := if m == mantissaBound then (mantissaBound / 2, e + 1) else (m, e)
    if e > greatestExponent then none else some ⟨negative, m, e⟩

/-! ## Arithmetic -/

/-- Numerator and denominator of the magnitude. -/
def fraction (x : Double) : Nat × Nat :=
  if x.exponent ≥ 0 then (x.mantissa * Nat.pow 2 x.exponent.toNat, 1)
  else (x.mantissa, Nat.pow 2 (-x.exponent).toNat)

def isZero (x : Double) : Bool := x.mantissa == 0

def mul? (x y : Double) : Option Double :=
  let (a, b) := x.fraction
  let (c, d) := y.fraction
  ratio? (x.negative != y.negative) (a * c) (b * d)

/-- The quotient, for a divisor that is not zero. -/
def div? (x y : Double) : Option Double :=
  let (a, b) := x.fraction
  let (c, d) := y.fraction
  ratio? (x.negative != y.negative) (a * d) (b * c)

/-- The double nearest to a natural number. -/
def ofNat? (n : Nat) : Option Double := ratio? false n 1

/-- The double nearest to a power of ten. -/
def powerOfTen? (k : Nat) : Option Double := ratio? false (Nat.pow 10 k) 1

def withSign (negative : Bool) (x : Double) : Double := { x with negative := negative }

/-- Equality of values: the two zeros are equal. -/
def same (x y : Double) : Bool := x == y || (x.isZero && y.isZero)

/-! ## Shortest decimal -/

/-- Numerators, over one denominator, of a magnitude and of the ends of the interval of reals that
round to it. -/
structure Interval where
  low : Nat
  value : Nat
  high : Nat
  den : Nat
  closed : Bool

def interval (x : Double) : Interval :=
  let m := x.mantissa
  let narrow := m == mantissaBound / 2 && x.exponent > leastExponent
  let up := if x.exponent ≥ 2 then Nat.pow 2 (x.exponent - 2).toNat else 1
  let down := if x.exponent ≥ 2 then 1 else Nat.pow 2 (2 - x.exponent).toNat
  { low := (4 * m - (if narrow then 1 else 2)) * up
    value := 4 * m * up
    high := (4 * m + 2) * up
    den := down
    closed := m % 2 == 0 }

/-- Whether `count · 10 ^ power` rounds to the double of the interval. -/
def Interval.holds (i : Interval) (count : Nat) (power : Int) : Bool :=
  let c := if power ≥ 0 then count * Nat.pow 10 power.toNat * i.den else count * i.den
  let scale := if power ≥ 0 then 1 else Nat.pow 10 (-power).toNat
  if i.closed then i.low * scale ≤ c && c ≤ i.high * scale
  else i.low * scale < c && c < i.high * scale

/-- The nearest multiple of `10 ^ power` that rounds to the double, if any does. -/
def Interval.onGrid (i : Interval) (power : Int) : Option Nat :=
  let num := if power ≥ 0 then i.value else i.value * Nat.pow 10 (-power).toNat
  let den := if power ≥ 0 then i.den * Nat.pow 10 power.toNat else i.den
  let below := num / den
  let nearest := roundHalfEven num den
  if i.holds nearest power then some nearest
  else if i.holds below power then some below
  else if i.holds (below + 1) power then some (below + 1)
  else none

/-- Search from a coarse grid to finer ones. -/
def Interval.search (i : Interval) (power : Int) : Nat → Nat × Int
  | 0 => (0, power)
  | fuel + 1 => match i.onGrid power with
    | some count => (count, power)
    | none => i.search (power - 1) fuel

/-- A count and a power of ten whose product is the shortest decimal that reads back as the
magnitude; of several the nearest. -/
def shortest (x : Double) : Nat × Int :=
  let i := x.interval
  let top := ((Nat.log2 i.value : Int) - (Nat.log2 i.den : Int)) * 30103 / 100000 + 2
  i.search top 25

/-! ## Text -/

/-- Positional notation holds while the first digit's power of ten is in this range. -/
def leastPositional : Int := -5

def greatestPositional : Int := 15

def zeros (n : Nat) : List Char := List.replicate n '0'

/-- The digits of a magnitude whose first digit stands for `10 ^ lead`. -/
def renderDigits (digits : List Char) (lead : Int) : List Char :=
  let count : Int := digits.length
  if leastPositional ≤ lead && lead ≤ greatestPositional then
    if count - 1 ≤ lead then digits ++ zeros (lead - count + 1).toNat ++ ['.', '0']
    else if 0 ≤ lead then
      digits.take (lead + 1).toNat ++ ['.'] ++ digits.drop (lead + 1).toNat
    else ['0', '.'] ++ zeros (-lead - 1).toNat ++ digits
  else
    let fraction := if digits.length == 1 then [] else '.' :: digits.drop 1
    let sign := if lead < 0 then '-' else '+'
    digits.take 1 ++ fraction ++ ['e', sign] ++ Nat.toDigits 10 lead.natAbs

/-- The digits without the zeros at the end. -/
def significant (digits : List Char) : List Char :=
  (digits.reverse.dropWhile (· == '0')).reverse

def render (x : Double) : List Char :=
  let sign := if x.negative then ['-'] else []
  if x.isZero then sign ++ ['0', '.', '0']
  else
    let (count, power) := x.shortest
    let digits := Nat.toDigits 10 count
    sign ++ renderDigits (significant digits) (power + digits.length - 1)

end Double
end Json
end Testbench
