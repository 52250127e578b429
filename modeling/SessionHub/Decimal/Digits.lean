import SessionHub.Bytes

set_option autoImplicit false

/-! # Decimal digits in byte strings

A natural number is written as its decimal digits without leading zeros. -/

namespace SessionHub.Digits

/-- Whether `b` is one of the bytes `0` to `9`. -/
def isDigit (b : UInt8) : Bool :=
  0x30 ≤ b && b ≤ 0x39

/-- The value of a digit byte. -/
def value (b : UInt8) : Nat :=
  b.toNat - 0x30

/-- The decimal digits of `n`. -/
def write (n : Nat) : Bytes :=
  (Nat.toDigits 10 n).map Bytes.ascii

/-- The decimal digits of `n`, with a sign if `n` is negative. -/
def writeInt : Int → Bytes
  | .ofNat n => write n
  | .negSucc n => 0x2D :: write (n + 1)

/-- The number that a text of one digit or more, and of digits only, denotes. -/
def read? (cs : List Char) : Option Nat :=
  if cs.isEmpty || !cs.all Char.isDigit then none
  else some (cs.foldl (fun n c => 10 * n + (c.toNat - '0'.toNat)) 0)

end SessionHub.Digits
