import ParamSql.Sequence
import ParamSql.Table

/-!
# Data sources

Where parameter values come from when they are asked for by key. A source answers four questions
about a key and may fail to answer any of them. The usual source is a table of request data, in
which collections are list-valued.
-/

namespace ParamSql

structure DataSource where
  isDefined : String → Except Failure Bool
  isListValued : String → Except Failure Bool
  value : String → Except Failure Value
  /-- The values of a list, if there are any, still to be gone through. -/
  values : String → Except Failure (Option Sequence)

namespace DataSource

/-- The scalar a value stands for; a collection stands for none. -/
def scalarOf (v : Value) : Value := if v.items?.isSome then .null else v

/-- The list a value stands for: null for none, a scalar for itself alone. -/
def listOf : Value → Option (List Value)
  | .null => none
  | .collection _ items => some items
  | v => some [v]

def ofTable (data : Table Value) : DataSource where
  isDefined key := .ok (decide (key ∈ data))
  isListValued key := .ok ((data.get? key).any fun v => v.items?.isSome)
  value key := .ok (((data.get? key).map scalarOf).getD .null)
  values key := .ok (((data.get? key).bind listOf).map .ok)

/-- Answers given one by one, which need not agree with each other. -/
structure Answers where
  defined : List String
  listValued : List String
  values : Table Value
  lists : Table Value
  failing : List String

def Answers.about {α : Type} (answers : Answers) (key : String) (answer : α) : Except Failure α :=
  if key ∈ answers.failing then .error (.dataSource key) else .ok answer

def ofAnswers (answers : Answers) : DataSource where
  isDefined key := answers.about key (decide (key ∈ answers.defined))
  isListValued key := answers.about key (decide (key ∈ answers.listValued))
  value key := answers.about key ((answers.values.get? key).getD .null)
  values key := answers.about key ((answers.lists.get? key).bind Sequence.ofValue)

end DataSource
end ParamSql
