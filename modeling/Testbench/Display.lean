import Testbench.Outline.Node
import Testbench.Text.Blank

/-!
# Display — outline entries as lines of text
-/

namespace Testbench
namespace Display

open Outline (Node)

def icon (n : Node) : String :=
  match n.kind with
  | .class true .. => "🧪"
  | .class false .. => "📦"
  | .function (some _) _ => "🔧"
  | .function none _ => "ƒ"
  | .field => "📌"
  | .control => "🎛"
  | .step => "👣"

def number (n : Nat) : String := String.ofList (Nat.toDigits 10 n)

def lineRange (r : Outline.LineRange) : String :=
  if r.first == r.last then "L" ++ number r.first
  else "L" ++ number r.first ++ "-" ++ number r.last

def indentation (level : Nat) : String := String.join (List.replicate level "   ")

/-- The first line of the tooltip, unless the tooltip only repeats the label. -/
def docSuffix (n : Node) : String :=
  if n.settledTooltip == n.label then ""
  else "  # " ++ Text.trim (String.ofList (Text.firstLine n.settledTooltip.toList))

/-- Indentation, icon, label and lines of an entry. -/
def node (n : Node) (level : Nat) (withDocs : Bool) : String :=
  indentation level ++ icon n ++ " " ++ n.label ++ " (" ++ lineRange n.lines ++ ")"
    ++ (if withDocs then docSuffix n else "")

/-- Columns that a line number takes in a list of lenses. -/
def lensColumns : Nat := 5

def padRight (s : String) (columns : Nat) : String :=
  s ++ String.join (List.replicate (columns - s.length) " ")

end Display
end Testbench
