import ParamSql.Context
import ParamSql.DataSource
import ParamSql.Dialect
import ParamSql.Sanitizer

/-!
# Statement builders

A builder holds the text of a statement as far as it has been written and, beside it, the values of
the parameters the text names. Values are never written into the text. A parameter bound to a list
has a null in the table of parameters and the list in the table of sets.
-/

namespace ParamSql

/-- A collaborator, which two builders share when they know it by the same serial number. -/
structure Installed (α : Type) where
  serial : Nat
  value : α

structure Builder where
  dialect : Dialect
  dataSource : Option (Installed DataSource) := none
  sanitizer : Option (Installed Sanitizer) := none
  depth : Nat := 0
  text : String := ""
  params : Table Value := ∅
  /-- The parameters bound to a list, and the list if there is one. -/
  sets : Table (Option (List Value)) := ∅
  context : Context := {}
  args : List Value := []

namespace Builder

/-- The builder without a statement. Its collaborators and its transactions stay. -/
def reset (b : Builder) : Builder :=
  { b with text := "", params := ∅, sets := ∅, context := {}, args := [] }

def quote (b : Builder) (identifier : String) : String := b.dialect.quote identifier

def startWith (b : Builder) (text : String) : Builder := { b with text }

def write (b : Builder) (text : String) : Builder := { b with text := b.text ++ text }

def add (b : Builder) (text : String) : Builder := b.write (" " ++ text)

/-- Begins a filter that can be applied to other statements: a condition that always holds, to which
the predicates are added. -/
def startFilter (b : Builder) : Builder :=
  { b with text := b.dialect.trueLiteral, context := b.context.startFilter }

def startWhere (b : Builder) : Builder := { b with context := b.context.startWhere }

def endWhere (b : Builder) : Builder := { b with context := b.context.endWhere }

def setGlue (b : Builder) (glue : String) : Builder :=
  { b with context := { b.context with glue } }

def setOperator (b : Builder) (operator : String) : Builder :=
  { b with context := b.context.withOperator operator }

def literal (b : Builder) : String :=
  "StatementBuilder(dialect=" ++ Text.literal b.dialect.name ++ ", sql=" ++
    Text.literal b.text ++ ")"

end Builder
end ParamSql
