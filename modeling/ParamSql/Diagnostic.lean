import ParamSql.Text.Blank
import ParamSql.Value

/-!
# Diagnostics

The report an error carries: one detail and any number of notes before it. The message of the report
is all of them on one line.
-/

namespace ParamSql

structure Diagnostic where
  detail : String
  notes : List String
  deriving DecidableEq, Repr

namespace Diagnostic

/-- A report on the given remarks, of which vacant ones are left out. Without a detail of its own it
takes the first remark as its detail. -/
def ofRemarks (remarks : List Value) (detail : String) : Diagnostic :=
  let texts := (remarks.filter fun v => !v.isVacant).map Value.display
  match detail, texts with
  | "", [] => ⟨"", []⟩
  | "", first :: rest => ⟨first, rest⟩
  | detail, texts => ⟨detail, texts⟩

def message (d : Diagnostic) : String :=
  Text.strip (" ".intercalate (d.notes ++ [d.detail]))

def headline (d : Diagnostic) (category : String) : String :=
  if d.detail = "" then category else category ++ " - " ++ d.detail

def building (message : Option String) : Diagnostic :=
  ofRemarks [.text (message.getD "Issues building SQL statement.")] ""

/-- A statement could not be read; its text is shown below the message. -/
def parsing (message : Option String) (sql : String) : Diagnostic :=
  let message := message.getD "Issues parsing SQL statement."
  ⟨if sql = "" then message else message ++ "\nSQL: " ++ sql, []⟩

end Diagnostic
end ParamSql
