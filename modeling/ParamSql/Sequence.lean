import ParamSql.Failure
import ParamSql.Value

/-!
# Sequences

What is given where a list of values is expected. Its elements come to light only when it is gone
through, which may break off.
-/

namespace ParamSql

/-- The elements of a sequence, or the failure in which going through it ends. -/
abbrev Sequence := Except Failure (List Value)

namespace Sequence

/-- What a value stands for where values are expected: null for no sequence, a collection for its
elements, a text for its characters. -/
def ofValue : Value → Option Sequence
  | .null => none
  | .collection _ items => some (.ok items)
  | .text s => some (.ok (s.toList.map fun c => .text c.toString))
  | .bool _ => some (.error (.notIterable "bool"))
  | .int _ => some (.error (.notIterable "int"))

def elements? : Option Sequence → Except Failure (Option (List Value))
  | some sequence => sequence.map some
  | none => .ok none

end Sequence
end ParamSql
