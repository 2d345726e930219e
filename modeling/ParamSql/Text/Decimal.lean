import ParamSql.Failure

/-!
# Decimal numbers

The digits of a number in base ten, as they are written into markers and generated names. A number
that comes from outside may have too many digits to be written.
-/

namespace ParamSql
namespace Text

def decimal (n : Nat) : List Char := Nat.toDigits 10 n

theorem decimal_inj {m n : Nat} : decimal m = decimal n ↔ m = n := by
  refine ⟨fun h => ?_, fun h => h ▸ rfl⟩
  have hvalue := congrArg (fun digits => Nat.ofDigitChars 10 digits 0) h
  simpa only [decimal, Nat.ofDigitChars_ten_toDigits] using hvalue

/-- How many digits a number from outside may have. -/
def maxDigits : Nat := 4300

/-- A number as it is written into a statement, unless it has too many digits. -/
def number (n : Int) : Except Failure String :=
  if n.natAbs < Nat.pow 10 maxDigits then .ok (toString n) else .error .numberTooLong

end Text
end ParamSql
