import ParamSql.Text.Blank
import ParamSql.Text.Letters
import ParamSql.Text.Search
import ParamSql.Text.Word

/-!
# The field list of a SELECT

Where the field list of a statement stands, and its replacement by another one. The list runs from
the first `SELECT` that has a `FROM` after it to the nearest such `FROM`. When the text holds both
hints, which are comments around the list, it runs from the opening hint to the first closing hint
that a `FROM` follows, and may then hold a `SELECT` of its own.
-/

namespace ParamSql
namespace FieldList

open Text

def hintStart : String := "/* FIELDLIST */"

def hintEnd : String := "/* /FIELDLIST */"

def wordMayBegin : Option Char → Bool
  | none => true
  | some c => !isWord c

def wordMayEnd : List Char → Bool
  | [] => true
  | c :: _ => !isWord c

/-- What stands before and after a field list, each measured where it begins. -/
structure Frame where
  opening? : List Char → Option Nat
  closing? : List Char → Option Nat

namespace Frame

def selectWord : List Char := ['s', 'e', 'l', 'e', 'c', 't']

def fromWord : List Char := ['f', 'r', 'o', 'm']

/-- The word `FROM`, which no letter follows. -/
def fromLength? (text : List Char) : Option Nat :=
  if beginsWithKeyword fromWord text && wordMayEnd (text.drop fromWord.length) then
    some fromWord.length
  else none

def plain : Frame where
  opening? text :=
    match text.drop selectWord.length with
    | c :: _ =>
      if beginsWithKeyword selectWord text && isBlank c then some (selectWord.length + 1) else none
    | [] => none
  closing? text :=
    match text with
    | c :: rest => if isBlank c then (fromLength? rest).map (· + 1) else none
    | [] => none

def hintLength? (hint : String) (text : List Char) : Option Nat :=
  let hint := hint.toList.map Char.toLower
  if beginsWithKeyword hint text then some hint.length else none

def blanks (text : List Char) : Nat := (text.takeWhile isBlank).length

def hinted : Frame where
  opening? text :=
    if beginsWithKeyword selectWord text then
      let rest := text.drop selectWord.length
      (hintLength? hintStart (rest.drop (blanks rest))).map fun n =>
        selectWord.length + blanks rest + n
    else none
  closing? text :=
    (hintLength? hintEnd text).bind fun n =>
      let rest := text.drop n
      (fromLength? (rest.drop (blanks rest))).map fun m => n + blanks rest + m

variable (frame : Frame)

/-- How far the text reaches up to the end of the first closing. -/
def throughClosing? : List Char → Option Nat
  | [] => none
  | c :: rest =>
    match frame.closing? (c :: rest) with
    | some n => some n
    | none => (throughClosing? rest).map (· + 1)

/-- The length of the framed list at the start of the text. It is never empty. -/
def length? (text : List Char) : Option Nat :=
  (frame.opening? text).bind fun n =>
    match text.drop n with
    | [] => none
    | _ :: rest => (frame.throughClosing? rest).map (n + 1 + ·)

/-- How many characters stand before the first framed list, and how many it takes. -/
def first? (before : Option Char) : List Char → Option (Nat × Nat)
  | [] => none
  | c :: rest =>
    match if wordMayBegin before then frame.length? (c :: rest) else none with
    | some n => some (0, n)
    | none => (first? (some c) rest).map fun place => (place.1 + 1, place.2)

def ofText (text : List Char) : Frame :=
  if holdsText hintStart.toList text && holdsText hintEnd.toList text then hinted else plain

end Frame

/-- A stretch of text from `start` up to `stop`, which is no longer part of it. -/
structure Span where
  start : Nat
  stop : Nat
  deriving DecidableEq, Repr

def spanChars? (text : List Char) : Option Span :=
  ((Frame.ofText text).first? none text).map fun place => ⟨place.1, place.1 + place.2⟩

def span? (sql : String) : Option Span := spanChars? sql.toList

def clause (fields : List String) : String := "SELECT " ++ ", ".intercalate fields ++ " FROM"

def replace? (sql : String) (fields : List String) : Option String :=
  (span? sql).map fun span =>
    String.ofList (sql.toList.take span.start) ++ clause fields ++
      String.ofList (sql.toList.drop span.stop)

end FieldList
end ParamSql
