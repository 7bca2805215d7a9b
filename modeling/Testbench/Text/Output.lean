import Testbench.Text.Gbk

/-!
# Output — the text of what a process printed

An interpreter and the locale of its system need not agree on an encoding. Output is read as UTF-8
unless that leaves a replacement character, and as GB 18030 then.
-/

namespace Testbench
namespace Text

/-- Whether a text holds the replacement character. -/
def isMarred (s : String) : Bool :=
  s.toList.contains Gbk.replacement

def decodeOutput (bytes : ByteArray) : String :=
  match String.fromUTF8? bytes with
  | some s => if isMarred s then String.ofList (Gbk.decode bytes.toList) else s
  | none => String.ofList (Gbk.decode bytes.toList)

end Text
end Testbench
