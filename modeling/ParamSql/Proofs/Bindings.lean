import ParamSql.Builder.Binding

/-!
# What is bound

Beside the text that it writes a builder keeps its tables, the nesting of its transactions and the
arguments of its last rendering. What is bound to a key is read off the tables.
-/

namespace ParamSql
namespace Builder

/-- What a builder keeps beside the text that it writes. -/
structure Aside where
  params : Table Value
  sets : Table (Option (List Value))
  depth : Nat
  args : List Value

def aside (b : Builder) : Aside := ⟨b.params, b.sets, b.depth, b.args⟩

/-- What is bound to a key: its scalar, and its list. -/
def Aside.binding (a : Aside) (key : String) : Option Value × Option (Option (List Value)) :=
  (a.params.get? key, a.sets.get? key)

def binding (b : Builder) (key : String) : Option Value × Option (Option (List Value)) :=
  b.aside.binding key

theorem binding_def (b : Builder) (key : String) :
    b.binding key = (b.params.get? key, b.sets.get? key) := rfl

theorem binding_setParam (b : Builder) (key : String) (value : Value) (k : String) :
    (b.setParam key value).binding k = if k = key then (some value, none) else b.binding k := by
  rw [binding_def, setParam, Table.get?_insert, Table.get?_erase]
  split <;> rfl

theorem binding_setParamSet (b : Builder) (key : String) (values : Option (List Value))
    (k : String) : (b.setParamSet key values).binding k =
      if k = key then (some .null, some values) else b.binding k := by
  rw [binding_def, setParamSet, Table.get?_insert, Table.get?_insert]
  split <;> rfl

end Builder
end ParamSql
