import SessionHub.Json.Reading

set_option autoImplicit false

/-! # Reading strings

A string is read byte by byte. Escapes by number name units of UTF-16: a pair of surrogates is one
character, and a surrogate on its own is refused. Whether the bytes are UTF-8 is looked at once,
when the closing quote has been found. -/

namespace SessionHub.Json

/-- Where in a string the reader stands. -/
inductive StringState where
  /-- Between characters. -/
  | plain
  /-- After a backslash. -/
  | escape
  /-- In the four digits of an escape by number, some of which were seen; `high` is the surrogate
      before it. -/
  | unit (high : Option Nat) (seen : Bytes)
  /-- After the surrogate `high`, where a second escape must begin. -/
  | pair (high : Nat)
  /-- After the backslash of that second escape. -/
  | pairEscape (high : Nat)

/-- The byte that a one-letter escape stands for. -/
def escaped? (b : UInt8) : Option UInt8 :=
  if b = Mark.quote then some Mark.quote
  else if b = Mark.backslash then some Mark.backslash
  else if b = Bytes.ascii '/' then some (Bytes.ascii '/')
  else if b = Bytes.ascii 'b' then some 0x08
  else if b = Bytes.ascii 'f' then some 0x0C
  else if b = Bytes.ascii 'n' then some 0x0A
  else if b = Bytes.ascii 'r' then some 0x0D
  else if b = Bytes.ascii 't' then some 0x09
  else none

/-- Whether a unit of UTF-16 is the first of a pair. -/
def isHighSurrogate (n : Nat) : Bool :=
  0xD800 ≤ n && n ≤ 0xDBFF

/-- Whether a unit of UTF-16 is the second of a pair. -/
def isLowSurrogate (n : Nat) : Bool :=
  0xDC00 ≤ n && n ≤ 0xDFFF

/-- The character that a pair of units of UTF-16 stands for. -/
def pairCodePoint (high low : Nat) : Nat :=
  (high - 0xD800) * 0x400 + (low - 0xDC00) + 0x10000

/-- What four hexadecimal digits mean after `high`: the bytes to add and the state after them. -/
def unitMeaning (high : Option Nat) (digits : Bytes) : Except Failure (Bytes × StringState) :=
  match hexNumber? digits with
  | none => refuse .invalidEscape
  | some n =>
    match high with
    | none =>
      if isLowSurrogate n then refuse .loneSurrogate
      else if isHighSurrogate n then .ok ([], .pair n)
      else .ok (String.utf8EncodeChar (Char.ofNat n), .plain)
    | some high =>
      if isLowSurrogate n then
        .ok (String.utf8EncodeChar (Char.ofNat (pairCodePoint high n)), .plain)
      else refuse .loneSurrogate

/-- One step through a string that has not ended: the bytes to add and the state after `b`. -/
def stringStep (state : StringState) (b : UInt8) : Except Failure (Bytes × StringState) :=
  match state with
  | .plain =>
    if b = Mark.backslash then .ok ([], .escape)
    else if b < 0x20 then refuse .controlCharacter
    else .ok ([b], .plain)
  | .escape =>
    match escaped? b with
    | some c => .ok ([c], .plain)
    | none => if b = Mark.unit then .ok ([], .unit none []) else refuse .invalidEscape
  | .unit high seen =>
    if seen.length < 3 then .ok ([], .unit high (seen ++ [b]))
    else unitMeaning high (seen ++ [b])
  | .pair high => if b = Mark.backslash then .ok ([], .pairEscape high) else refuse .endOfSurrogates
  | .pairEscape high =>
    if b = Mark.unit then .ok ([], .unit (some high) []) else refuse .endOfSurrogates

/-- Whether `b` ends a string in this state. -/
def StringState.endsAt : StringState → UInt8 → Bool
  | .plain, b => b == Mark.quote
  | _, _ => false

/-- Reads a string up to and with its closing quote. The result is the bytes it stands for. -/
def readStringBytes : StringState → Reader Bytes
  | _, [] => refuse (.endOfText .string)
  | state, b :: rest =>
    if state.endsAt b then .ok ([], rest)
    else do
      let (bytes, state) ← stringStep state b
      let (more, rest) ← readStringBytes state rest
      .ok (bytes ++ more, rest)

/-- Reads a string after its opening quote. -/
def readString (s : Bytes) : Except Failure (String × Bytes) := do
  let (bytes, rest) ← readStringBytes .plain s
  match bytes.text? with
  | some t => .ok (t, rest)
  | none => refuse .invalidCodePoint

end SessionHub.Json
