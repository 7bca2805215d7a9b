/-!
# Punycode — labels outside ASCII in letters, digits and hyphens

A label is written as its ASCII characters, a hyphen, and the other characters as differences in a
mixed radix whose thresholds adapt after each of them.

- `encode` : the written form, without the leading `xn--`;
- `decode?` : the label of a written form.
-/

namespace Testbench
namespace Url
namespace Punycode

/-! ## Parameters -/

def base : Nat := 36
def tMin : Nat := 1
def tMax : Nat := 26
def skew : Nat := 38
def damp : Nat := 700
def firstBias : Nat := 72
def firstPoint : Nat := 128

/-- Halve the range of a difference until it is small. -/
def settle (delta k : Nat) : Nat → Nat × Nat
  | 0 => (delta, k)
  | fuel + 1 =>
    if delta > ((base - tMin) * tMax) / 2 then settle (delta / (base - tMin)) (k + base) fuel
    else (delta, k)

/-- The bias after a difference among `count` characters. -/
def adapt (delta count : Nat) (first : Bool) : Nat :=
  let delta := if first then delta / damp else delta / 2
  let (delta, k) := settle (delta + delta / count) 0 64
  k + (base - tMin + 1) * delta / (delta + skew)

def threshold (k bias : Nat) : Nat :=
  if k ≤ bias + tMin then tMin else if k ≥ bias + tMax then tMax else k - bias

def digitChar (d : Nat) : Char :=
  if d < 26 then Char.ofNat ('a'.toNat + d) else Char.ofNat ('0'.toNat + (d - 26))

def digitValue? (c : Char) : Option Nat :=
  if 'a' ≤ c && c ≤ 'z' then some (c.toNat - 'a'.toNat)
  else if '0' ≤ c && c ≤ '9' then some (c.toNat - '0'.toNat + 26)
  else none

/-! ## Encoding -/

/-- One difference in digits. -/
def encodeDelta (q k bias : Nat) : Nat → List Char
  | 0 => []
  | fuel + 1 =>
    let t := threshold k bias
    if q < t then [digitChar q]
    else digitChar (t + (q - t) % (base - t)) ::
      encodeDelta ((q - t) / (base - t)) (k + base) bias fuel

structure EncoderState where
  delta : Nat
  bias : Nat
  handled : Nat
  digits : List Char

/-- Walk over the label for one code point `n`. -/
def encodePoint (n asciiCount : Nat) (s : EncoderState) (c : Char) : EncoderState :=
  if c.toNat < n then { s with delta := s.delta + 1 }
  else if c.toNat == n then
    { delta := 0
      bias := adapt s.delta (s.handled + 1) (s.handled == asciiCount)
      handled := s.handled + 1
      digits := s.digits ++ encodeDelta s.delta base s.bias 64 }
  else s

/-- The code points outside ASCII, sorted, each once. -/
def pointsAbove (label : List Char) : List Nat :=
  ((label.map Char.toNat).filter (· ≥ firstPoint)).mergeSort.eraseDups

def encodePoints (label : List Char) (asciiCount : Nat) :
    List Nat → Nat → EncoderState → EncoderState
  | [], _, s => s
  | m :: rest, n, s =>
    let s := { s with delta := s.delta + (m - n) * (s.handled + 1) }
    let s := label.foldl (encodePoint m asciiCount) s
    encodePoints label asciiCount rest (m + 1) { s with delta := s.delta + 1 }

def encode (label : List Char) : List Char :=
  let ascii := label.filter fun c => c.toNat < firstPoint
  let start := if ascii.isEmpty then [] else ascii ++ ['-']
  let s := encodePoints label ascii.length (pointsAbove label) firstPoint
    ⟨0, firstBias, ascii.length, []⟩
  start ++ s.digits

/-! ## Decoding -/

/-- Read one difference: its value and what follows. -/
def decodeDelta? (i w k bias : Nat) : List Char → Option (Nat × List Char)
  | [] => none
  | c :: rest => do
    let d ← digitValue? c
    let i := i + d * w
    let t := threshold k bias
    if d < t then some (i, rest)
    else decodeDelta? i (w * (base - t)) (k + base) bias rest

def insertAt (cs : List Char) (i : Nat) (c : Char) : List Char := cs.take i ++ c :: cs.drop i

def decodeDeltas? (out : List Char) (n i bias : Nat) : Nat → List Char → Option (List Char)
  | _, [] => some out
  | 0, _ => none
  | fuel + 1, cs => do
    let (j, rest) ← decodeDelta? i 1 base bias cs
    let count := out.length + 1
    let bias := adapt (j - i) count (i == 0)
    let n := n + j / count
    let i := j % count
    if n < 0x110000 && !(0xD800 ≤ n && n < 0xE000) then
      decodeDeltas? (insertAt out i (Char.ofNat n)) n (i + 1) bias fuel rest
    else none

/-- The ASCII part before the last hyphen, and what follows. -/
def splitLastHyphen : List Char → List Char × List Char
  | cs => match cs.reverse.span (· != '-') with
    | (_, []) => ([], cs)
    | (after, _ :: before) => (before.reverse, after.reverse)

def decode? (cs : List Char) : Option (List Char) :=
  let (ascii, digits) := splitLastHyphen cs
  decodeDeltas? ascii firstPoint 0 firstBias (digits.length + 1) digits

end Punycode
end Url
end Testbench
