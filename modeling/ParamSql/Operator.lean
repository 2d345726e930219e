import ParamSql.Text.Blank
import ParamSql.Text.Search

/-!
# Operators

A comparison operator is any text. Blanks aside it may be a test for equality or its opposite, and
then it has a counterpart for lists of values and one for null.
-/

namespace ParamSql
namespace Operator

def equal : String := "="

def unequal : String := "<>"

def normalize (operator : String) : String :=
  String.ofList (Text.replaceAll ['!', '='] unequal.toList operator.toList)

/-- The comparison an operator makes, blanks aside. -/
inductive Comparison where
  | equal
  | unequal
  | other
  deriving DecidableEq, Repr

def comparison (operator : String) : Comparison :=
  let bare := Text.strip operator
  if bare = equal then .equal else if bare = unequal then .unequal else .other

/-- The test for membership that goes with a test for equality. -/
def membership? (operator : String) : Option String :=
  match comparison operator with
  | .equal => some " IN "
  | .unequal => some " NOT IN "
  | .other => none

def beforeList (operator : String) : String := (membership? operator).getD operator

/-- The test for null that goes with a test for equality. -/
def nullTest? (operator : String) : Option String :=
  match comparison operator with
  | .equal => some " IS NULL"
  | .unequal => some " IS NOT NULL"
  | .other => none

end Operator
end ParamSql
