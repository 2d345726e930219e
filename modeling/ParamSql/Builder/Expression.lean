import ParamSql.Builder.Basic
import ParamSql.Diagnostic

/-!
# Statements as expressions

A statement can be handed to a parser of SQL, as it has been built so far and with its placeholders
by name. What the parser cannot read is reported together with the text.
-/

namespace ParamSql

/-- A parser of SQL. It is told the dialect by the name it has for it, if any, and gives what it has
read or why it cannot read the text. -/
abbrev SqlParser (ε : Type) := Option String → String → Except String ε

def Builder.expression {ε : Type} (parser : SqlParser ε) : EStateM Diagnostic Builder ε := do
  let b ← get
  match parser b.dialect.parserName b.text with
  | .ok expression => pure expression
  | .error reason =>
    throw (.parsing (some ("Unable to parse built statement: " ++ reason)) b.text)

end ParamSql
