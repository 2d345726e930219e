import ParamSql.Transaction

/-!
# Operations

Everything that can be asked of a builder, as data. An operation concerns one builder; a request may
also concern a second one. Running it at a workbench changes the builder, records what happens
besides, and replies.
-/

namespace ParamSql

/-- Which collaborators a builder has, and which it shares with another one. -/
structure Sharing where
  hasDataSource : Bool
  hasSanitizer : Bool
  sameDataSource : Bool
  sameSanitizer : Bool
  deriving DecidableEq, Repr

inductive Reply where
  /-- The builder itself, so that requests can be chained. -/
  | itself
  | nothing
  | truth (answer : Bool)
  | text (text : String)
  | value (value : Value)
  | values (values : Option (List Value))
  | table (table : Table Value)
  | context (context : Context)
  | sharing (sharing : Sharing)
  | derived (builder : Builder)

inductive Operation where
  | reset
  | quote (identifier : String)
  | startWith (text : String)
  | startFilter
  | startWhere
  | endWhere
  | setGlue (glue : String)
  | setOperator (operator : String)
  | setDataSource (source : Option DataSource)
  | setSanitizer (sanitizer : Option Sanitizer)
  | setParam (key : String) (value : Value)
  | setParamSet (key : String) (values : Option Sequence)
  | putParam (key : String) (value : Value)
  | appendToSet (key : String) (value : Value)
  | isParamASet (key : String)
  | param (key : String)
  | paramSet (key : String)
  | uniqueKey (key : String)
  | setIfNull (key : String) (value : Value)
  | setIfEmpty (key : String) (value : Value)
  | add (text : String)
  | appendParam (key : String) (value : Value)
  | mustAdd (key column : String)
  | addIfDefined (key column : String)
  | addFieldList (fields : List String)
  | addSanitizedFieldList (requested : List String)
  | addLimit (limit offset : Int)
  | applyPager (pager : Option Pager)
  | orderBy (order : SortList)
  | orderBySanitized (requested : SortList)
  | selectFields (fields : List String)
  | statement
  | render
  | args
  | namedArgs
  | literal
  | dialectName
  | context
  | beginTransaction
  | commitTransaction
  | rollbackTransaction
  | clone
  | cloneAsAggregate (aggregate : Option Aggregater)
  | cloneForTotals (pager : Option Pager) (aggregate : Option Aggregater)

/-- What can be asked of a builder, where `ρ` tells which other builder is meant. -/
inductive Request (ρ : Type) where
  | own (operation : Operation)
  | applyFilter (filter : Option ρ)
  | addSubQuery (query : ρ) (column : String)
  | compareCollaborators (other : ρ)

namespace Workbench

def change (f : Builder → Builder) : Work Reply := do
  modifyBuilder f
  pure .itself

def attempt (f : Build Unit) : Work Reply := do
  build f
  pure .itself

def answer (f : Builder → Reply) : Work Reply := do
  pure (f (← get).builder)

def install (f : Nat → Builder → Builder) : Work Reply := do
  modify fun w => { w with builder := f w.serial w.builder, serial := w.serial + 1 }
  pure .itself

/-- The given builder with other fields selected, or unchanged when it has no field list, which is
noted. -/
def selecting (b : Builder) (fields : List String) : Work Builder := do
  match b.selectFields? fields with
  | some selected => pure selected
  | none =>
    record (.note "No SELECT field list found to replace" none)
    pure b

def selectFields (fields : List String) : Work Reply := do
  if fields.isEmpty then
    pure .itself
  else
    let selected ← selecting (← get).builder fields
    change fun _ => selected

def conversionNote (b : Builder) : Event :=
  .note "Converted statement to positional parameters" (some (.ofList
    [("dialect", .text b.dialect.name),
      ("parameter_style", .text b.dialect.positionalStyle.name),
      ("argument_count", .int b.rendering.args.length)]))

def render : Work Reply := do
  let b := (← get).builder
  modifyBuilder Builder.render
  if b.convertsPlaceholders then
    record (conversionNote b)
  pure (.text b.rendering.text)

def cloneAsAggregate (aggregate : Option Aggregater) : Work Reply := do
  let definition ← MonadExcept.ofExcept (Aggregater.ask aggregate)
  let fields := definition.fields
  if fields.isEmpty then
    throw .emptyAggregate
  else
    let totals ← selecting (← get).builder.clone fields
    pure (.derived totals)

def cloneForTotals (pager : Option Pager) (aggregate : Option Aggregater) : Work Reply := do
  match pager with
  | some pager =>
    if ← MonadExcept.ofExcept pager.wantsTotal then cloneAsAggregate aggregate else pure .nothing
  | none => pure .nothing

/-- Whether two builders know the same collaborator, none counting as the same as none. -/
def sameCollaborator {α : Type} (a b : Option (Installed α)) : Bool :=
  a.map Installed.serial == b.map Installed.serial

def sharing (b other : Builder) : Sharing where
  hasDataSource := b.dataSource.isSome
  hasSanitizer := b.sanitizer.isSome
  sameDataSource := sameCollaborator b.dataSource other.dataSource
  sameSanitizer := sameCollaborator b.sanitizer other.sanitizer

end Workbench

namespace Operation

open Workbench

def run : Operation → Work Reply
  | reset => change Builder.reset
  | quote identifier => answer fun b => .text (b.quote identifier)
  | startWith text => change (·.startWith text)
  | startFilter => change Builder.startFilter
  | startWhere => change Builder.startWhere
  | endWhere => change Builder.endWhere
  | setGlue glue => change (·.setGlue glue)
  | setOperator operator => change (·.setOperator operator)
  | setDataSource source =>
    install fun n b => { b with dataSource := source.map (⟨n, ·⟩) }
  | setSanitizer sanitizer =>
    install fun n b => { b with sanitizer := sanitizer.map (⟨n, ·⟩) }
  | setParam key value => change (·.setParam key value)
  | setParamSet key values => attempt (Builder.takeSet key values)
  | putParam key value => do
    modifyBuilder (·.putParam key value)
    pure .nothing
  | appendToSet key value => do
    modifyBuilder (·.appendToSet key value)
    pure .nothing
  | isParamASet key => do
    let isSet ← build (Builder.isParamASet key)
    pure (.truth isSet)
  | param key => answer fun b => .value (b.param key)
  | paramSet key => answer fun b => .values (b.paramSet key)
  | uniqueKey key => answer fun b => .text (b.uniqueKey key)
  | setIfNull key value => attempt (Builder.setIfNull key value)
  | setIfEmpty key value => attempt (Builder.setIfEmpty key value)
  | add text => change (·.add text)
  | appendParam key value => attempt (Builder.appendParam key value)
  | mustAdd key column => attempt (Builder.mustAdd key column)
  | addIfDefined key column => attempt (Builder.addIfDefined key column)
  | addFieldList fields => change (·.addFieldList fields)
  | addSanitizedFieldList requested => attempt (Builder.addSanitizedFieldList requested)
  | addLimit limit offset => attempt (Builder.addLimit limit offset)
  | applyPager pager => attempt (Builder.applyPager pager)
  | orderBy order => change (·.orderBy order)
  | orderBySanitized requested => attempt (Builder.orderBySanitized requested)
  | selectFields fields => Workbench.selectFields fields
  | statement => answer fun b => .text b.text
  | render => Workbench.render
  | args => answer fun b => .values (some b.args)
  | namedArgs => answer fun b => .table b.namedArgs
  | literal => answer fun b => .text b.literal
  | dialectName => answer fun b => .text b.dialect.name
  | context => answer fun b => .context b.context
  | beginTransaction => do
    Workbench.beginTransaction
    pure .itself
  | commitTransaction => do
    Workbench.commitTransaction
    pure .itself
  | rollbackTransaction => do
    Workbench.rollbackTransaction
    pure .itself
  | clone => answer fun b => .derived b.clone
  | cloneAsAggregate aggregate => Workbench.cloneAsAggregate aggregate
  | cloneForTotals pager aggregate => Workbench.cloneForTotals pager aggregate

end Operation

namespace Request

open Workbench

def run : Request Builder → Work Reply
  | own operation => operation.run
  | applyFilter filter => change fun b => (filter.map b.applyFilter).getD b
  | addSubQuery query column => change (·.addSubQuery query column)
  | compareCollaborators other => answer fun b => .sharing (sharing b other)

def resolve {ρ : Type} (find : ρ → Except Failure Builder) :
    Request ρ → Except Failure (Request Builder)
  | own operation => .ok (.own operation)
  | applyFilter none => .ok (.applyFilter none)
  | applyFilter (some filter) => (find filter).map fun b => .applyFilter (some b)
  | addSubQuery query column => (find query).map fun b => .addSubQuery b column
  | compareCollaborators other => (find other).map .compareCollaborators

end Request
end ParamSql
