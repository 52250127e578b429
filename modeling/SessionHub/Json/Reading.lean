import SessionHub.Json.Failure

set_option autoImplicit false

/-! # Reading byte strings

A reader takes what it needs from the front of a byte string and hands on the rest, or says why the
text is refused. The first failure met on the way through the text is the one reported. -/

namespace SessionHub.Json

/-- Gives what was read and the bytes after it, or says why the text is refused. -/
abbrev Reader (α : Type) := Bytes → Except Failure (α × Bytes)

/-- Refuses malformed text. -/
def refuse {α : Type} (cause : Malformation) : Except Failure α :=
  .error (.malformed cause)

/-- Refuses JSON that does not fit. -/
def mismatch {α : Type} (cause : Mismatch) : Except Failure α :=
  .error (.mismatch cause)

/-! ## The bytes with a meaning -/

namespace Mark

/-- The byte that opens and closes a string. -/
abbrev quote : UInt8 := 0x22

/-- The byte that opens an escape. -/
abbrev backslash : UInt8 := 0x5C

/-- The byte between the elements of an array and the members of an object. -/
abbrev comma : UInt8 := 0x2C

/-- The byte between a name and its value. -/
abbrev colon : UInt8 := 0x3A

/-- The byte that opens an array. -/
abbrev openArray : UInt8 := 0x5B

/-- The byte that closes an array. -/
abbrev closeArray : UInt8 := 0x5D

/-- The byte that opens an object. -/
abbrev openObject : UInt8 := 0x7B

/-- The byte that closes an object. -/
abbrev closeObject : UInt8 := 0x7D

/-- The sign of a negative number. -/
abbrev minus : UInt8 := 0x2D

/-- The sign that an exponent may have. -/
abbrev plus : UInt8 := 0x2B

/-- The byte before the fraction of a number. -/
abbrev point : UInt8 := 0x2E

/-- The digit zero. -/
abbrev zero : UInt8 := 0x30

/-- The letter of an escape by number. -/
abbrev unit : UInt8 := 0x75

/-- Whether `b` opens the exponent of a number. -/
def isExponent (b : UInt8) : Bool :=
  b == 0x65 || b == 0x45

/-- Whether `b` may stand between tokens: space, tab, line feed or carriage return. -/
def isBlank (b : UInt8) : Bool :=
  b == 0x20 || b == 0x09 || b == 0x0A || b == 0x0D

end Mark

/-! ## Blanks, literals and digits -/

/-- The bytes from the first that is no blank. -/
def skipBlank : Bytes → Bytes
  | [] => []
  | b :: rest => if Mark.isBlank b then skipBlank rest else b :: rest

/-- Takes `word` from the front of the text. -/
def readWord : Bytes → Bytes → Except Failure Bytes
  | [], s => .ok s
  | _ :: _, [] => refuse (.endOfText .value)
  | w :: word, b :: rest => if b = w then readWord word rest else refuse .expectedIdent

/-- How many digits stand at the front, and what follows them. -/
def skipDigits : Bytes → Nat × Bytes
  | [] => (0, [])
  | b :: rest =>
    if Digits.isDigit b then
      let (n, rest) := skipDigits rest
      (n + 1, rest)
    else (0, b :: rest)

/-- The number `n` continued by the digits at the front, and what follows them. -/
def readDigits (n : Nat) : Bytes → Nat × Bytes
  | [] => (n, [])
  | b :: rest =>
    if Digits.isDigit b then readDigits (10 * n + Digits.value b) rest else (n, b :: rest)

/-- The value of a hexadecimal digit in either case. -/
def hexValue? (b : UInt8) : Option Nat :=
  if Digits.isDigit b then some (Digits.value b)
  else if 0x41 ≤ b && b ≤ 0x46 then some (b.toNat - 0x37)
  else if 0x61 ≤ b && b ≤ 0x66 then some (b.toNat - 0x57)
  else none

/-- The number that hexadecimal digits spell. -/
def hexNumber? (digits : Bytes) : Option Nat :=
  digits.foldl (fun n b => do return 16 * (← n) + (← hexValue? b)) (some 0)

end SessionHub.Json
