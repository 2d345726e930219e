import ParamSql.Placeholder.Token

/-!
# The lexemes of a statement

A statement is read from left to right as a sequence of lexemes: tokens without placeholders,
placeholders, and single characters of all the rest. Put together again the lexemes are the
statement.

A placeholder is a colon and a name. Before the colon stands neither a colon nor a word character.
The name is either one of the given names, the longest that fits, followed by nothing that could
continue it; or, when no names are given, whatever has the shape of an identifier.
-/

namespace ParamSql
namespace Placeholder

open Text

/-- The names a placeholder may have. -/
inductive Sought where
  | identifiers
  /-- One of the given names, of whatever characters. -/
  | among (names : List (List Char))

/-- Whether a colon after `before` may open a placeholder. -/
def opens : Option Char → Bool
  | none => true
  | some c => c != ':' && !isWord c

def closes : List Char → Bool
  | [] => true
  | c :: _ => !isWord c && c != '.' && c != '-'

/-- Whether the name stands at the start of the text and ends there. -/
def fits (text name : List Char) : Bool :=
  !name.isEmpty && name.isPrefixOf text && closes (text.drop name.length)

namespace Sought

def nameLength? (sought : Sought) (text : List Char) : Option Nat :=
  match sought with
  | identifiers =>
    match text with
    | c :: rest => if isNameStart c then some (1 + (rest.takeWhile isWord).length) else none
    | [] => none
  | among names => ((names.filter (fits text)).map List.length).max?

end Sought

inductive Lexeme where
  | plain (c : Char)
  | token (text : List Char)
  | placeholder (name : List Char)
  deriving DecidableEq, Repr

namespace Lexeme

def chars : Lexeme → List Char
  | plain c => [c]
  | token text => text
  | placeholder name => ':' :: name

def name? : Lexeme → Option (List Char)
  | placeholder name => some name
  | _ => none

def size (l : Lexeme) : Nat := l.chars.length

/-- The lexeme that begins with `first`, which follows `before`. -/
def next (sought : Sought) (before : Option Char) (first : Char) (rest : List Char) : Lexeme :=
  match tokenTail? first rest with
  | some n => token (first :: rest.take n)
  | none =>
    if first = ':' ∧ opens before = true then
      match sought.nameLength? rest with
      | some n => placeholder (rest.take n)
      | none => plain first
    else
      plain first

theorem chars_next (sought : Sought) (before : Option Char) (first : Char) (rest : List Char) :
    ∃ n, (next sought before first rest).chars = first :: rest.take n := by
  rw [next]
  split
  · exact ⟨_, rfl⟩
  · split
    · next h =>
      split
      · exact ⟨_, by rw [chars, h.1]⟩
      · exact ⟨0, rfl⟩
    · exact ⟨0, rfl⟩

theorem chars_next_append (sought : Sought) (before : Option Char) (first : Char)
    (rest : List Char) :
    (next sought before first rest).chars ++
      rest.drop ((next sought before first rest).size - 1) = first :: rest := by
  obtain ⟨n, h⟩ := chars_next sought before first rest
  rw [size, h]
  simp only [List.length_cons, List.length_take, Nat.add_sub_cancel, List.cons_append]
  by_cases hn : n ≤ rest.length
  · rw [Nat.min_eq_left hn, List.take_append_drop]
  · rw [Nat.min_eq_right (by omega), List.take_of_length_le (by omega)]
    simp

end Lexeme

def lexemes (sought : Sought) (before : Option Char) (text : List Char) : List Lexeme :=
  match text with
  | [] => []
  | first :: rest =>
    let l := Lexeme.next sought before first rest
    l :: lexemes sought l.chars.getLast? (rest.drop (l.size - 1))
termination_by text.length
decreasing_by simp only [List.length_drop, List.length_cons]; omega

@[simp] theorem lexemes_nil (sought : Sought) (before : Option Char) :
    lexemes sought before [] = [] := by
  rw [lexemes]

theorem lexemes_cons (sought : Sought) (before : Option Char) (first : Char) (rest : List Char) :
    lexemes sought before (first :: rest) =
      Lexeme.next sought before first rest ::
        lexemes sought (Lexeme.next sought before first rest).chars.getLast?
          (rest.drop ((Lexeme.next sought before first rest).size - 1)) := by
  rw [lexemes]

/-- Nothing of the text is lost, and nothing is read twice. -/
theorem flatMap_chars_lexemes (sought : Sought) (before : Option Char) (text : List Char) :
    (lexemes sought before text).flatMap Lexeme.chars = text := by
  fun_induction lexemes sought before text with
  | case1 => rfl
  | case2 before first rest l ih =>
    rw [List.flatMap_cons, ih]
    exact Lexeme.chars_next_append sought before first rest

end Placeholder
end ParamSql
