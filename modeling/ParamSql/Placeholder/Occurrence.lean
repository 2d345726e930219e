import ParamSql.Placeholder.Lexeme

/-!
# Where the placeholders stand

The placeholders of a statement in the order of the text, each with the stretch of characters that
its colon and name take up.
-/

namespace ParamSql
namespace Placeholder

/-- A placeholder from its colon at `start` up to `stop`, which is no longer part of it. -/
structure Occurrence where
  name : String
  start : Nat
  stop : Nat
  deriving DecidableEq, Repr

def occurrences (offset : Nat) : List Lexeme → List Occurrence
  | [] => []
  | .placeholder name :: rest =>
    ⟨String.ofList name, offset, offset + (name.length + 1)⟩ ::
      occurrences (offset + (name.length + 1)) rest
  | l :: rest => occurrences (offset + l.size) rest

theorem map_name_occurrences (offset : Nat) (ls : List Lexeme) :
    (occurrences offset ls).map Occurrence.name =
      (ls.filterMap Lexeme.name?).map String.ofList := by
  fun_induction occurrences offset ls with
  | case1 => rfl
  | case2 offset name rest ih => simp [Lexeme.name?, ih]
  | case3 offset l rest h ih =>
    cases l with
    | placeholder name => exact absurd rfl (h name)
    | plain c => simpa [List.filterMap_cons, Lexeme.name?] using ih
    | token text => simpa [List.filterMap_cons, Lexeme.name?] using ih

/-- The names of a list of texts, of which the empty ones name nothing. -/
def Sought.ofNames (names : List String) : Sought := .among (names.map String.toList)

def findAll (sought : Sought) (sql : String) : List Occurrence :=
  occurrences 0 (lexemes sought none sql.toList)

end Placeholder
end ParamSql
