import ParamSql.Failure
import ParamSql.Table
import ParamSql.Text.Literal

/-!
# Aggregates

What a totals query computes: expressions under the names of the columns that receive them.
-/

namespace ParamSql

/-- Result columns with the expressions they are computed by. -/
abbrev Aggregate := Table String

namespace Aggregate

def rowCount (column : String) : Aggregate := .ofList [(column, "count(*)")]

def totalRowCount : Aggregate := rowCount "rowcount"

def fields (a : Aggregate) : List String := a.entries.map fun e => e.2 ++ " AS " ++ e.1

def literal (a : Aggregate) : String :=
  let inside := a.entries.map fun e => Text.literal e.1 ++ ": " ++ Text.literal e.2
  "Aggregate(\x7b" ++ ", ".intercalate inside ++ "\x7d)"

end Aggregate

/-- Whoever says what a totals query computes, and may fail to. -/
structure Aggregater where
  definition : Except Failure Aggregate

/-- What is to be computed: the number of rows, unless somebody says otherwise. -/
def Aggregater.ask : Option Aggregater → Except Failure Aggregate
  | some aggregater => aggregater.definition
  | none => .ok .totalRowCount

/-- Counts rows under a name and receives the count once it is known. -/
structure RowCounter where
  definition : Aggregate := .totalRowCount
  rowCount : Int := 0

namespace RowCounter

def named (column : String) : RowCounter := { definition := .rowCount column }

def receive (c : RowCounter) (total : Int) : RowCounter := { c with rowCount := total }

end RowCounter
end ParamSql
