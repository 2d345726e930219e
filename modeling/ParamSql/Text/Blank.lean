import ParamSql.Text.Ranges

/-!
# Blanks

White space as the separators of Unicode and the controls that act as such, and the removal of
blanks at both ends of a text.
-/

namespace ParamSql
namespace Text

def blankRanges : Ranges :=
  [(0x9, 0xd), (0x1c, 0x20), (0x85, 0x85), (0xa0, 0xa0), (0x1680, 0x1680), (0x2000, 0x200a),
    (0x2028, 0x2029), (0x202f, 0x202f), (0x205f, 0x205f), (0x3000, 0x3000)]

def isBlank (c : Char) : Bool := blankRanges.holds c

def stripLeft (text : List Char) : List Char := text.dropWhile isBlank

def stripChars (text : List Char) : List Char :=
  (stripLeft (stripLeft text).reverse).reverse

def strip (text : String) : String := String.ofList (stripChars text.toList)

end Text
end ParamSql
