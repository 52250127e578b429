set_option autoImplicit false

/-! # Decimal numerals with bounds

Reads a numeral that may start with a sign, digit by digit, and stops at the first character that
cannot be read: one that is no digit, or a digit that takes the value past its bound. -/

namespace SessionHub

/-- Why a numeral cannot be read. -/
inductive NumeralError where
  | empty
  | badDigit
  | tooLarge
  | tooSmall
  deriving DecidableEq, Repr

/-- The wording of an error. -/
def NumeralError.message : NumeralError → String
  | empty => "cannot parse integer from empty string"
  | badDigit => "invalid digit found in string"
  | tooLarge => "number too large to fit in target type"
  | tooSmall => "number too small to fit in target type"

namespace Numeral

/-- Reads digits after those that make up `n`. A value past `bound` is refused with `excess`. -/
def readDigits (bound : Nat) (excess : NumeralError) : Nat → List Char → Except NumeralError Nat
  | n, [] => .ok n
  | n, c :: cs =>
    if c.isDigit then
      let n := 10 * n + (c.toNat - '0'.toNat)
      if bound < n then .error excess else readDigits bound excess n cs
    else .error .badDigit

/-- Reads one digit or more. -/
def readMagnitude (bound : Nat) (excess : NumeralError) : List Char → Except NumeralError Nat
  | [] => .error .badDigit
  | cs => readDigits bound excess 0 cs

/-- Reads a natural number below `2 ^ bits`. -/
def readUnsigned (bits : Nat) (s : String) : Except NumeralError Nat :=
  match s.toList with
  | [] => .error .empty
  | '+' :: cs => readMagnitude (1 <<< bits - 1) .tooLarge cs
  | cs => readMagnitude (1 <<< bits - 1) .tooLarge cs

/-- Reads an integer from `-2 ^ (bits - 1)` on and below `2 ^ (bits - 1)`. -/
def readSigned (bits : Nat) (s : String) : Except NumeralError Int :=
  match s.toList with
  | [] => .error .empty
  | '+' :: cs => (readMagnitude (1 <<< (bits - 1) - 1) .tooLarge cs).map Int.ofNat
  | '-' :: cs => (readMagnitude (1 <<< (bits - 1)) .tooSmall cs).map fun n => -Int.ofNat n
  | cs => (readMagnitude (1 <<< (bits - 1) - 1) .tooLarge cs).map Int.ofNat

end Numeral

end SessionHub
