/-!
# Letters regardless of case

Keywords of SQL are written in the letters of English, and a text may spell them in either case.
The statements below compare a text with a keyword letter by letter. A few letters of other
alphabets count as case variants of an English one: the long s, the dotless and the dotted i, and
the sign for kelvin.
-/

namespace ParamSql
namespace Text

/-- The small letter of English that `c` is a case variant of, or `c` itself. -/
def foldLetter (c : Char) : Char :=
  if c = '\u017f' then 's'
  else if c = '\u0130' ∨ c = '\u0131' then 'i'
  else if c = '\u212a' then 'k'
  else c.toLower

/-- The capital of a letter of English; the long s is a small s here. -/
def capitalLetter (c : Char) : Char :=
  if c = '\u017f' then 'S' else c.toUpper

def beginsWithKeyword (keyword text : List Char) : Bool :=
  (text.take keyword.length).map foldLetter == keyword

theorem beginsWithKeyword_iff (keyword text : List Char) :
    beginsWithKeyword keyword text = true ↔
      ∃ first rest, text = first ++ rest ∧ first.map foldLetter = keyword := by
  rw [beginsWithKeyword, beq_iff_eq]
  constructor
  · intro h
    exact ⟨_, _, (List.take_append_drop keyword.length text).symm, h⟩
  · rintro ⟨first, rest, rfl, rfl⟩
    simp

end Text
end ParamSql
