import ParamSql.Text.Literal

/-!
# Parameter values

What a parameter may be bound to. The builder never looks into a value, except to tell null from
everything else and a collection from a scalar; the text of a value appears in messages only.
-/

namespace ParamSql

inductive Collection where
  | list
  | tuple
  | set
  | fixedSet
  deriving DecidableEq, Repr

inductive Value where
  | null
  | bool (b : Bool)
  | int (n : Int)
  | text (s : String)
  | collection (kind : Collection) (items : List Value)
  deriving Repr

namespace Value

instance : Inhabited Value := ⟨null⟩

def isNull : Value → Bool
  | null => true
  | _ => false

@[simp] theorem isNull_iff (v : Value) : v.isNull = true ↔ v = null := by
  cases v <;> simp [isNull]

/-- The elements of a collection; a scalar has none. -/
def items? : Value → Option (List Value)
  | collection _ items => some items
  | _ => none

/-- A set of at most one distinct element, given by its element as often as it was written. -/
def singletonSet (kind : Collection) (items : List Value) : Value :=
  collection kind (items.take 1)

/-- Null, false, zero, the empty text and the empty collections. -/
def isVacant : Value → Bool
  | null => true
  | bool b => !b
  | int n => n == 0
  | text s => s == ""
  | collection _ items => items.isEmpty

end Value

namespace Collection

def written (kind : Collection) (items : List String) : String :=
  let inside := ", ".intercalate items
  match kind, items with
  | list, _ => "[" ++ inside ++ "]"
  | tuple, [_] => "(" ++ inside ++ ",)"
  | tuple, _ => "(" ++ inside ++ ")"
  | set, [] => "set()"
  | set, _ => "\x7b" ++ inside ++ "\x7d"
  | fixedSet, [] => "frozenset()"
  | fixedSet, _ => "frozenset(\x7b" ++ inside ++ "\x7d)"

end Collection

namespace Value

mutual

def literal : Value → String
  | null => "None"
  | bool true => "True"
  | bool false => "False"
  | int n => toString n
  | text s => Text.literal s
  | collection kind items => kind.written (literals items)

def literals : List Value → List String
  | [] => []
  | v :: rest => literal v :: literals rest

end

/-- The text of a value by itself: a text stands for itself, all else is shown as in a message. -/
def display : Value → String
  | text s => s
  | v => v.literal

end Value
end ParamSql
