import ParamSql.Operator

/-!
# The context of the next binding

Between two bindings a builder remembers how the next one is to be written: the glue before it, the
operator between column and placeholder, and whether an absent value stands for a test of null.
-/

namespace ParamSql

structure Context where
  /-- Written before the binding, spaces included. -/
  glue : String := " "
  operator : String := Operator.equal
  /-- Whether an absent value is tested for null instead of bound. -/
  nullMode : Bool := false
  deriving DecidableEq, Repr

namespace Context

instance : Inhabited Context := ⟨{}⟩

def startWhere (c : Context) : Context := { c with nullMode := true, glue := " WHERE " }

def startFilter (c : Context) : Context := { c with nullMode := true, glue := " AND " }

def endWhere (c : Context) : Context := { c with nullMode := false, glue := " " }

def withOperator (c : Context) (operator : String) : Context :=
  { c with operator := Operator.normalize operator }

end Context
end ParamSql
