import ParamSql.Aggregate
import ParamSql.Builder.Clause
import ParamSql.FieldList

/-!
# Putting statements together

A statement takes in another one as a subquery or as a filter, together with its parameters, whose
bindings win over its own. A copy of a statement may have other fields selected, such as those that
compute a total.
-/

namespace ParamSql
namespace Builder

/-- The sets after the bindings of `other` were written over those of the builder: a key bound there
is a set exactly when it is one there. -/
def mergedSets (own : Table (Option (List Value))) (other : Builder) :
    Table (Option (List Value)) :=
  other.params.keys.foldl (fun sets key =>
    match other.sets.get? key with
    | some values => sets.insert key values
    | none => sets.erase key) own

def mergeParams (b other : Builder) : Builder :=
  { b with params := b.params.merge other.params, sets := mergedSets b.sets other }

def addSubQuery (b query : Builder) (column : String) : Builder :=
  (b.write (b.context.glue ++ b.quote column ++ Operator.beforeList b.context.operator ++ "(" ++
    query.text ++ ")")).mergeParams query

def applyFilter (b filter : Builder) : Builder :=
  (if filter.text = "" then b else b.write (b.context.glue ++ filter.text)).mergeParams filter

/-- The builder with other fields selected, if its statement has a field list. -/
def selectFields? (b : Builder) (fields : List String) : Option Builder :=
  (FieldList.replace? b.text fields).map b.startWith

/-- A copy outside all transactions, not yet rendered. -/
def clone (b : Builder) : Builder := { b with depth := 0, args := [] }

end Builder
end ParamSql
