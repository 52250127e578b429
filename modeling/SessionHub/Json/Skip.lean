import SessionHub.Json.Reader

set_option autoImplicit false

/-! # Skipping a value

A value that is not asked for is passed over without being kept. Only its shape is looked at: there
is no limit to the nesting, numbers have no range, and strings need be neither UTF-8 nor free of
lone surrogates. -/

namespace SessionHub.Json

/-! ## Scalars -/

/-- Passes over an exponent after its letter. -/
def skipExponent (s : Bytes) : Except Failure Bytes :=
  let digits :=
    match s with
    | b :: rest => if b = Mark.plus || b = Mark.minus then rest else s
    | [] => s
  match skipDigits digits with
  | (0, _) => refuse .invalidNumber
  | (_, rest) => .ok rest

/-- Passes over what may follow the digits in front of the point. -/
def skipTail (s : Bytes) : Except Failure Bytes :=
  match s with
  | [] => .ok s
  | b :: rest =>
    if b = Mark.point then
      match skipDigits rest with
      | (0, _) => refuse .invalidNumber
      | (_, []) => .ok []
      | (_, c :: rest) => if Mark.isExponent c then skipExponent rest else .ok (c :: rest)
    else if Mark.isExponent b then skipExponent rest
    else .ok s

/-- Passes over a number after its sign. -/
def skipUnsigned (s : Bytes) : Except Failure Bytes :=
  match s with
  | [] => refuse .invalidNumber
  | b :: rest =>
    if b = Mark.zero then
      if (skipDigits rest).1 = 0 then skipTail rest else refuse .invalidNumber
    else if Digits.isDigit b then skipTail (skipDigits rest).2
    else refuse .invalidNumber

/-- Where in a skipped string the reader stands: between characters, after a backslash, or in the
    digits of an escape by number. -/
inductive SkipState where
  | plain
  | escape
  | unit (seen : Bytes)

/-- Passes over a string up to and with its closing quote. -/
def skipString : SkipState → Bytes → Except Failure Bytes
  | _, [] => refuse (.endOfText .string)
  | .plain, b :: rest =>
    if b = Mark.quote then .ok rest
    else if b = Mark.backslash then skipString .escape rest
    else if b < 0x20 then refuse .controlCharacter
    else skipString .plain rest
  | .escape, b :: rest =>
    if (escaped? b).isSome then skipString .plain rest
    else if b = Mark.unit then skipString (.unit []) rest
    else refuse .invalidEscape
  | .unit seen, b :: rest =>
    if seen.length < 3 then skipString (.unit (seen ++ [b])) rest
    else if (hexNumber? (seen ++ [b])).isSome then skipString .plain rest
    else refuse .invalidEscape

/-- Passes over a scalar whose first byte is `b`. -/
def skipScalar (b : UInt8) (rest : Bytes) : Except Failure Bytes :=
  if b = Bytes.ascii 'n' then readWord (Bytes.ofString "ull") rest
  else if b = Bytes.ascii 't' then readWord (Bytes.ofString "rue") rest
  else if b = Bytes.ascii 'f' then readWord (Bytes.ofString "alse") rest
  else if b = Mark.quote then skipString .plain rest
  else if b = Mark.minus then skipUnsigned rest
  else if Digits.isDigit b then skipUnsigned (b :: rest)
  else refuse .expectedValue

/-! ## Brackets -/

/-- The two kinds of brackets. -/
inductive Bracket where
  | list
  | object
  deriving DecidableEq

/-- The byte that closes a bracket. -/
def Bracket.closing : Bracket → UInt8
  | list => Mark.closeArray
  | object => Mark.closeObject

/-- The failure at a byte that neither closes a bracket nor goes on after an element. -/
def Bracket.expectedEnd : Bracket → Malformation
  | list => .expectedListEnd
  | object => .expectedObjectEnd

/-- The failure at the end of the text inside a bracket. -/
def Bracket.endOfText : Bracket → Malformation
  | list => .endOfText .list
  | object => .endOfText .object

/-- Passes over what stands in front of the next value inside a bracket: nothing in a list, a name
    and a colon in an object. -/
def Bracket.skipName (bracket : Bracket) (s : Bytes) : Except Failure Bytes :=
  match bracket with
  | list => .ok s
  | object =>
    match skipBlank s with
    | [] => refuse (.endOfText .object)
    | b :: rest =>
      if b = Mark.quote then do readColon (← skipString .plain rest)
      else refuse .keyMustBeString

/-- Where the scanner stands among the brackets that are open. -/
inductive SkipPlace where
  /-- In front of a value. -/
  | value
  /-- After an opening bracket. -/
  | opened
  /-- After a value. -/
  | finished

/-- Passes over the rest of a value; `brackets` are open, the innermost first. Each byte takes at
    most two steps of the `fuel`. -/
def skipOn : Nat → SkipPlace → List Bracket → Bytes → Except Failure Bytes
  | 0, _, _, _ => refuse (.endOfText .value)
  | fuel + 1, .value, brackets, s =>
    match skipBlank s with
    | [] => refuse (.endOfText .value)
    | b :: rest =>
      if b = Mark.openArray then skipOn fuel .opened (.list :: brackets) rest
      else if b = Mark.openObject then skipOn fuel .opened (.object :: brackets) rest
      else do skipOn fuel .finished brackets (← skipScalar b rest)
  | _ + 1, .opened, [], s => .ok s
  | fuel + 1, .opened, bracket :: brackets, s =>
    match skipBlank s with
    | [] => refuse bracket.endOfText
    | b :: rest =>
      if b = bracket.closing then skipOn fuel .finished brackets rest
      else do skipOn fuel .value (bracket :: brackets) (← bracket.skipName (b :: rest))
  | _ + 1, .finished, [], s => .ok s
  | fuel + 1, .finished, bracket :: brackets, s =>
    match skipBlank s with
    | [] => refuse bracket.endOfText
    | b :: rest =>
      if b = Mark.comma then do
        skipOn fuel .value (bracket :: brackets) (← bracket.skipName rest)
      else if b = bracket.closing then skipOn fuel .finished brackets rest
      else refuse bracket.expectedEnd

/-- Passes over one value. -/
def skip (s : Bytes) : Except Failure Bytes :=
  skipOn (2 * s.length + 2) .value [] s

end SessionHub.Json
