import ParamSql.Failure
import ParamSql.SortList

/-!
# Sanitizers

Names that come with a request must not reach the text of a statement unless they are known. A
sanitizer takes out of a request what may pass, and may fail to. The usual one lists the fields that
may be selected and the fields that may be sorted by, and drops all others.
-/

namespace ParamSql

structure Sanitizer where
  keepFields : List String → Except Failure (List String)
  keepOrder : SortList → Except Failure SortList
  /-- The order used when a request leaves none. -/
  defaultSort : Except Failure SortList

namespace Sanitizer

variable (s : Sanitizer)

/-- The fields to select for a request. About an empty one the sanitizer is not asked. -/
def fieldsFor (requested : List String) : Except Failure (List String) :=
  if requested.isEmpty then .ok [] else s.keepFields requested

def keptOrder (requested : SortList) : Except Failure SortList :=
  if requested.isEmpty then .ok ∅ else s.keepOrder requested

def orderFor (requested : SortList) : Except Failure SortList := do
  let kept ← s.keptOrder requested
  if kept.isEmpty then s.defaultSort else pure kept

end Sanitizer

structure FieldSanitizer where
  fields : List String
  sortable : List String
  defaultSort : SortList

namespace FieldSanitizer

/-- The sanitizer of a model. Unless told otherwise, all its fields can be sorted by. -/
def ofModel (fields : List String) (sortable : Option (List String)) (defaultSort : SortList) :
    FieldSanitizer where
  fields := fields.eraseDups
  sortable := sortable.getD fields
  defaultSort := defaultSort

variable (s : FieldSanitizer)

def isSortable (name : String) : Bool := decide (name ∈ s.sortable)

/-- The requested fields that are known, in the order and as often as requested. -/
def keepFields (requested : List String) : List String :=
  requested.filter fun field => decide (field ∈ s.fields)

def keepOrder (requested : SortList) : SortList :=
  requested.filter fun field _ => s.isSortable field

def toSanitizer : Sanitizer where
  keepFields requested := .ok (s.keepFields requested)
  keepOrder requested := .ok (s.keepOrder requested)
  defaultSort := .ok s.defaultSort

end FieldSanitizer

def Sanitizer.ofModel (fields : List String) (sortable : Option (List String))
    (defaultSort : SortList) : Sanitizer :=
  (FieldSanitizer.ofModel fields sortable defaultSort).toSanitizer

end ParamSql
