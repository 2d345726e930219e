import ParamSql.Builder.Binding
import ParamSql.Pager

/-!
# Clauses

Field lists, sort orders and limits, as text appended to a statement.
-/

namespace ParamSql
namespace Builder

/-- The fields with the glue before each of them; a star stands for an empty list. -/
def fieldListText (glue : String) (fields : List String) : String :=
  if fields.isEmpty then glue ++ "*" else glue ++ (", " ++ glue).intercalate fields

def addFieldList (b : Builder) (fields : List String) : Builder :=
  b.add (fieldListText b.context.glue fields)

def addSanitizedFieldList (requested : List String) : Build Unit := do
  match (← get).sanitizer with
  | some sanitizer =>
    let fields ← MonadExcept.ofExcept (sanitizer.value.fieldsFor requested)
    modify (·.addFieldList fields)
  | none => throw .noSanitizer

def orderBy (b : Builder) (order : SortList) : Builder :=
  if order.isEmpty then b else (b.add "ORDER BY").add order.clause

/-- Sorts by what the sanitizer leaves of the request, and by its default if nothing is left. -/
def orderBySanitized (requested : SortList) : Build Unit := do
  match (← get).sanitizer with
  | some sanitizer =>
    let order ← MonadExcept.ofExcept (sanitizer.value.orderFor requested)
    modify (·.orderBy order)
  | none => pure ()

/-- The words that ask for at most `limit` rows after the first `offset` ones. A number among them
may be too long to be written. -/
def limitWords (style : LimitStyle) (limit offset : Int) : List (Except Failure String) :=
  match style with
  | .fetchFirst =>
    (if 0 < offset then [.ok "OFFSET", Text.number offset, .ok "ROWS"] else []) ++
      [.ok "FETCH FIRST", Text.number limit, .ok "ROWS ONLY"]
  | .limitOffset =>
    [.ok "LIMIT", Text.number limit] ++
      if 0 < offset then [.ok "OFFSET", Text.number offset] else []

def addWords : List (Except Failure String) → Build Unit
  | [] => pure ()
  | word :: rest => do
    let word ← MonadExcept.ofExcept word
    modify (·.add word)
    addWords rest

def addLimit (limit offset : Int) : Build Unit := do
  if limit ≤ 0 then
    pure ()
  else
    addWords (limitWords (← get).dialect.limitStyle limit offset)

def applyPager : Option Pager → Build Unit
  | some pager => do
    let limit ← MonadExcept.ofExcept pager.pageSize
    let offset ← MonadExcept.ofExcept pager.offset
    addLimit limit offset
  | none => pure ()

end Builder
end ParamSql
