import ParamSql.Builder.Basic
import ParamSql.Text.Decimal

/-!
# Binding parameters

A key is bound to a scalar or to a list of values. What has not been bound is pulled from the data
source when it is first needed, and from then on the source is not asked again. Writing a bound key
into the text makes one placeholder for a scalar, one for each element of a list under a key of its
own, and a test for null where an absent value is meant as such.
-/

namespace ParamSql

/-- A change of a builder that may fail. What was changed before a failure stays changed. -/
abbrev Build := EStateM Failure Builder

namespace Builder

def setParam (b : Builder) (key : String) (value : Value) : Builder :=
  { b with params := b.params.insert key value, sets := b.sets.erase key }

def setParamSet (b : Builder) (key : String) (values : Option (List Value)) : Builder :=
  { b with params := b.params.insert key .null, sets := b.sets.insert key values }

def param (b : Builder) (key : String) : Value := (b.params.get? key).getD .null

def paramSet (b : Builder) (key : String) : Option (List Value) :=
  (b.sets.get? key).getD none

def elements (b : Builder) (key : String) : List Value := (b.paramSet key).getD []

/-- The scalars by name, for a driver that binds by name. -/
def namedArgs (b : Builder) : Table Value := b.params.filter fun key _ => decide (key ∉ b.sets)

/-- Writes a value past the tables' bookkeeping: the sets are left as they are. -/
def putParam (b : Builder) (key : String) (value : Value) : Builder :=
  { b with params := b.params.insert key value }

def appendToSet (b : Builder) (key : String) (value : Value) : Builder :=
  match b.paramSet key with
  | some values => { b with sets := b.sets.insert key (some (values ++ [value])) }
  | none => b

/-- The names tried for a new parameter: the key itself, then the key with a number from two on. -/
def candidates (key : String) (count : Nat) : List String :=
  key :: (List.range count).map fun i => key ++ String.ofList (Text.decimal (i + 2))

/-- The first candidate that is not bound. One more of them than there are bound keys is enough. -/
def uniqueKey (b : Builder) (key : String) : String :=
  ((candidates key b.params.size).find? fun name => decide (name ∉ b.params)).getD key

def elementKey (key : String) (i : Nat) : String :=
  key ++ "_" ++ String.ofList (Text.decimal i)

/-- Binds the elements of a list one by one, the first under the given number. -/
def bindElements (b : Builder) (key : String) : Nat → List Value → Builder
  | _, [] => b
  | i, v :: rest => bindElements (b.setParam (elementKey key i) v) key (i + 1) rest

def elementPlaceholders (key : String) (count : Nat) : String :=
  ",".intercalate ((List.range count).map fun i => ":" ++ elementKey key (i + 1))

def writeElements (b : Builder) (column key : String) (values : List Value) : Builder :=
  (b.bindElements key 1 values).write
    (b.context.glue ++ b.quote column ++ Operator.beforeList b.context.operator ++ "(" ++
      elementPlaceholders key values.length ++ ")")

def writeScalar (b : Builder) (column key : String) : Builder :=
  if (b.param key).isNull && b.context.nullMode then
    match Operator.nullTest? b.context.operator with
    | some test => b.write (b.context.glue ++ b.quote column ++ test)
    | none => b
  else
    b.write (b.context.glue ++ b.quote column ++ b.context.operator ++ ":" ++ key)

def ask {α : Type} (question : DataSource → Except Failure α) (otherwise : α) : Build α := do
  match (← get).dataSource with
  | some source => MonadExcept.ofExcept (question source.value)
  | none => pure otherwise

/-- Binds a key to the list of the given values. The key is bound to null before the values are gone
through, and stays so when that breaks off. -/
def takeSet (key : String) (values : Option Sequence) : Build Unit := do
  modify (·.putParam key .null)
  let values ← MonadExcept.ofExcept (Sequence.elements? values)
  modify fun b => { b with sets := b.sets.insert key values }

theorem takeSet_of_ok {key : String} {given : Option Sequence} {values : Option (List Value)}
    (h : Sequence.elements? given = .ok values) (b : Builder) :
    takeSet key given b = .ok () (b.setParamSet key values) := by
  rw [takeSet, h]
  rfl

theorem takeSet_of_error {key : String} {given : Option Sequence} {e : Failure}
    (h : Sequence.elements? given = .error e) (b : Builder) :
    takeSet key given b = .error e (b.putParam key .null) := by
  rw [takeSet, h]
  rfl

/-- Whether the data for a key is a list. The source is asked about keys that are not bound. -/
def isParamASet (key : String) : Build Bool := do
  let b ← get
  if key ∈ b.params then pure (decide (key ∈ b.sets)) else ask (·.isListValued key) false

/-- Binds a key to what the source has for it, unless it is bound or there is no source. -/
def pull (key : String) : Build Unit := do
  let b ← get
  if b.dataSource.isNone || decide (key ∈ b.params) then
    pure ()
  else if ← ask (·.isListValued key) false then
    takeSet key (← ask (·.values key) none)
  else
    let value ← ask (·.value key) .null
    modify (·.setParam key value)

def writeParam (column key : String) : Build Unit := do
  let isSet ← isParamASet key
  modify fun b =>
    if isSet && !(b.elements key).isEmpty then b.writeElements column key (b.elements key)
    else b.writeScalar column key

def appendParam (key : String) (value : Value) : Build Unit := do
  modify (·.setParam key value)
  writeParam key key

def mustAdd (key column : String) : Build Unit := do
  pull key
  writeParam column key

def addIfDefined (key column : String) : Build Unit := do
  if ← ask (·.isDefined key) false then
    mustAdd key column

def hasEmptyValue (key : String) (empties : List String) : Build Bool := do
  let isSet ← isParamASet key
  let b ← get
  if isSet then
    pure (b.elements key).isEmpty
  else
    match b.param key with
    | .null => pure true
    | .text s => pure (decide (s ∈ empties))
    | _ => pure false

def setDefault (empties : List String) (key : String) (value : Value) : Build Unit := do
  pull key
  if ← hasEmptyValue key empties then
    modify (·.setParam key value)

def setIfNull : String → Value → Build Unit := setDefault []

def setIfEmpty : String → Value → Build Unit := setDefault ["", "0"]

end Builder
end ParamSql
