/-!
# Blank — white space in text

White space here is the `White_Space` property of the Unicode Character Database.

- `isBlank` : the characters with the property;
- `trim`    : a text without the blanks at its two ends;
- `hasBlank`: whether a text holds a blank at all.
-/

namespace Testbench
namespace Text

/-- Membership in `White_Space`. -/
def isBlank (c : Char) : Bool :=
  let n := c.toNat
  (0x09 ≤ n && n ≤ 0x0D) || n == 0x20 || n == 0x85 || n == 0xA0 || n == 0x1680 ||
    (0x2000 ≤ n && n ≤ 0x200A) || n == 0x2028 || n == 0x2029 || n == 0x202F ||
    n == 0x205F || n == 0x3000

/-- The characters without the blanks in front. -/
def dropBlanks (cs : List Char) : List Char :=
  cs.dropWhile isBlank

/-- The characters without the blanks at either end. -/
def trimChars (cs : List Char) : List Char :=
  (dropBlanks (dropBlanks cs).reverse).reverse

def trim (s : String) : String :=
  String.ofList (trimChars s.toList)

def hasBlank (s : String) : Bool :=
  s.toList.any isBlank

end Text
end Testbench
