import ParamSql.Dialect
import ParamSql.Placeholder.Occurrence
import ParamSql.Table
import ParamSql.Text.Decimal

/-!
# Positional statements

A statement with named placeholders turned into one for a driver that binds by position, together
with the list of arguments it is sent with. A name is replaced only where it is bound to a value;
all other text stays as it is. Question marks take one argument per placeholder, numbers one
argument per name, counted in the order of first use.
-/

namespace ParamSql
namespace Placeholder

open Text

/-- A statement as sent to the driver, with its arguments in order. -/
structure Rendering where
  text : String
  args : List Value

def boundNames (parameters : Table Value) : List String :=
  (parameters.filter fun _ v => !v.isNull).keys

def valueOf (parameters : Table Value) (name : List Char) : Value :=
  (parameters.get? (String.ofList name)).getD .null

def uses (ls : List Lexeme) : List (List Char) := ls.filterMap Lexeme.name?

def firstUses (ls : List Lexeme) : List (List Char) := (uses ls).eraseDups

/-- The text of the lexemes with the given markers for placeholders. -/
def marked (marker : List Char → List Char) (ls : List Lexeme) : List Char :=
  ls.flatMap fun l => match l with
    | .placeholder name => marker name
    | l => l.chars

/-- The number of a name in the order of first use, which begins with one. -/
def numberOf (order : List (List Char)) (name : List Char) : Nat := order.idxOf name + 1

def numericMarker (order : List (List Char)) (name : List Char) : List Char :=
  '$' :: decimal (numberOf order name)

def Rendering.ofLexemes (parameters : Table Value) (style : MarkerStyle) (ls : List Lexeme) :
    Rendering :=
  match style with
  | .namedColon => ⟨String.ofList (ls.flatMap Lexeme.chars), []⟩
  | .questionMark =>
    ⟨String.ofList (marked (fun _ => ['?']) ls), (uses ls).map (valueOf parameters)⟩
  | .numeric =>
    ⟨String.ofList (marked (numericMarker (firstUses ls)) ls),
      (firstUses ls).map (valueOf parameters)⟩

def convert (sql : String) (parameters : Table Value) (style : MarkerStyle) : Rendering :=
  .ofLexemes parameters style
    (lexemes (.ofNames (boundNames parameters)) none sql.toList)

theorem convert_namedColon (sql : String) (parameters : Table Value) :
    convert sql parameters .namedColon = ⟨sql, []⟩ := by
  simp [convert, Rendering.ofLexemes, flatMap_chars_lexemes]

end Placeholder
end ParamSql
