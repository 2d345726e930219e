import ParamSql.Table
import ParamSql.Text.Blank
import ParamSql.Text.Letters

/-!
# Sort lists

Fields in the order of their rank, each with a direction. The direction is descending when it spells
`DESC` in any case and with blanks around it, and ascending otherwise.
-/

namespace ParamSql

/-- Fields with the direction asked for, if any. -/
abbrev SortList := Table (Option String)

namespace SortList

def ascending : String := "ASC"

def descending : String := "DESC"

def isDescending (direction : Option String) : Bool :=
  (Text.stripChars (direction.getD "").toList).map Text.capitalLetter == descending.toList

def entry (field : String) (direction : Option String) : String :=
  field ++ " " ++ (if isDescending direction then descending else ascending)

def clause (order : SortList) : String :=
  ",".intercalate (order.entries.map fun e => entry e.1 e.2)

end SortList
end ParamSql
