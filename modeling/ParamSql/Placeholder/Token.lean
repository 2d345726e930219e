import ParamSql.Text.Search
import ParamSql.Text.Word

/-!
# Tokens without placeholders

Quoted text, comments and casts are passed over whole, so that a colon inside them marks nothing.
Each kind of token begins with a character of its own; the functions here measure how far the token
reaches past that first character, and give nothing when it is never closed.
-/

namespace ParamSql
namespace Placeholder

open Text

/-- How many characters reach up to the quote that closes the text. A backslash hides the character
after it, which may not be a line feed. -/
def closingQuote? (quote : Char) : List Char → Option Nat
  | [] => none
  | '\\' :: [] => none
  | '\\' :: c :: rest =>
    if c = '\n' then none else (closingQuote? quote rest).map (· + 2)
  | c :: rest => if c = quote then some 1 else (closingQuote? quote rest).map (· + 1)

def upTo? (c : Char) (text : List Char) : Option Nat :=
  (text.findIdx? (· == c)).map (· + 1)

/-- Text between two equal tags, each a word between dollar signs. -/
def dollarQuoted? (text : List Char) : Option Nat :=
  let tag := text.takeWhile isWord
  match text.drop tag.length with
  | '$' :: body =>
    (find? ('$' :: tag ++ ['$']) body).map fun n => tag.length + 1 + n + (tag.length + 2)
  | _ => none

def lineComment? : List Char → Option Nat
  | '-' :: rest => some (1 + (rest.takeWhile fun c => c != '\r' && c != '\n').length)
  | _ => none

def blockComment? : List Char → Option Nat
  | '*' :: rest => (find? ['*', '/'] rest).map (· + 3)
  | _ => none

def cast? : List Char → Option Nat
  | ':' :: rest =>
    let type := rest.takeWhile isWord
    if type = [] then none else some (1 + type.length)
  | _ => none

/-- How many characters of `rest` belong to the token that `first` begins. -/
def tokenTail? (first : Char) (rest : List Char) : Option Nat :=
  match first with
  | '"' => closingQuote? '"' rest
  | '\'' => closingQuote? '\'' rest
  | '\x60' => upTo? '\x60' rest
  | '$' => dollarQuoted? rest
  | '-' => lineComment? rest
  | '/' => blockComment? rest
  | ':' => cast? rest
  | _ => none

end Placeholder
end ParamSql
