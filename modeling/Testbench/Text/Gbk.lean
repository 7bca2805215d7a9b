import Testbench.Text.Gbk.Pairs
import Testbench.Text.Gbk.Quads

/-!
# Gbk — reading bytes as GB 18030

The decoder never fails. A byte sequence outside the encoding gives one replacement character, and
what follows the first byte of a broken sequence is read again.

- `pair?`  : the character of a two-byte code;
- `quad?`  : the character of a four-byte code;
- `decode` : the text of a byte sequence.
-/

namespace Testbench
namespace Text
namespace Gbk

/-- Stands for bytes that encode nothing. -/
def replacement : Char := '\ufffd'

/-! ## Bytes by role -/

def isAscii (b : UInt8) : Bool := b < 0x80

def isLead (b : UInt8) : Bool := 0x81 ≤ b && b ≤ 0xFE

/-- Second and fourth byte of a four-byte code. -/
def isQuadDigit (b : UInt8) : Bool := 0x30 ≤ b && b ≤ 0x39

def isPairTrail (b : UInt8) : Bool := (0x40 ≤ b && b ≤ 0x7E) || (0x80 ≤ b && b ≤ 0xFE)

/-! ## Codes -/

/-- The rows of the pair table, ready to be indexed. -/
def pairTable : Array (Array Char) :=
  pairRows.map fun row => row.toList.toArray

def pair? (lead trail : UInt8) : Option Char :=
  if isLead lead && isPairTrail trail then
    let column := trail.toNat - (if trail < 0x7F then 0x40 else 0x41)
    (pairTable[lead.toNat - 0x81]?).bind fun row => row[column]?
  else none

/-- The code point of a four-byte number, by the last run that starts at or before it. -/
def quadPoint? (number : Nat) : Option Nat :=
  if number < quadPlaneEnd then
    (quadRuns.reverse.find? fun run => run.1 ≤ number).map fun run => run.2 + (number - run.1)
  else if quadUpperStart ≤ number && number - quadUpperStart + 0x10000 < 0x110000 then
    some (number - quadUpperStart + 0x10000)
  else none

def quad? (a b c d : UInt8) : Option Char :=
  let number := (((a.toNat - 0x81) * 10 + (b.toNat - 0x30)) * 126 + (c.toNat - 0x81)) * 10
    + (d.toNat - 0x30)
  (quadPoint? number).map Char.ofNat

/-! ## Decoding -/

def decode : List UInt8 → List Char
  | [] => []
  | a :: after =>
    if isAscii a then Char.ofNat a.toNat :: decode after
    else if a == 0x80 then '€' :: decode after
    else if !isLead a then replacement :: decode after
    else match after with
      | [] => [replacement]
      | b :: afterB =>
        if isQuadDigit b then
          match afterB with
          | [] => [replacement]
          | c :: afterC =>
            if isLead c then
              match afterC with
              | [] => [replacement]
              | d :: afterD =>
                if isQuadDigit d then (quad? a b c d).getD replacement :: decode afterD
                else replacement :: decode (b :: c :: d :: afterD)
            else replacement :: decode (b :: c :: afterC)
        else match pair? a b with
          | some character => character :: decode afterB
          | none =>
            if isAscii b then replacement :: decode (b :: afterB)
            else replacement :: decode afterB

@[simp] theorem decode_nil : decode [] = [] := by
  rw [decode.eq_def]

end Gbk
end Text
end Testbench
