import SessionHub.Json.Writer
import SessionHub.Text.Quoted

set_option autoImplicit false

/-! # Why a JSON text is refused

A text is malformed if it is no JSON at all (`Malformation`), and a mismatch if it is JSON that
does not fit what is read from it (`Mismatch`). The wording of both is in this module only. -/

namespace SessionHub.Json

/-! ## Malformed text -/

/-- What the text breaks off in. -/
inductive Unfinished where
  | value
  | list
  | object
  | string
  deriving DecidableEq, Repr

/-- Why a text is not JSON. -/
inductive Malformation where
  | endOfText (inside : Unfinished)
  | expectedValue
  | expectedIdent
  | invalidNumber
  | numberOutOfRange
  | keyMustBeString
  | expectedColon
  | expectedListEnd
  | expectedObjectEnd
  | trailingComma
  | trailingCharacters
  | invalidEscape
  | loneSurrogate
  | endOfSurrogates
  | controlCharacter
  | invalidCodePoint
  | tooDeep
  deriving DecidableEq, Repr

/-- The wording of a malformation. -/
def Malformation.message : Malformation → String
  | endOfText .value => "EOF while parsing a value"
  | endOfText .list => "EOF while parsing a list"
  | endOfText .object => "EOF while parsing an object"
  | endOfText .string => "EOF while parsing a string"
  | expectedValue => "expected value"
  | expectedIdent => "expected ident"
  | invalidNumber => "invalid number"
  | numberOutOfRange => "number out of range"
  | keyMustBeString => "key must be a string"
  | expectedColon => "expected `:`"
  | expectedListEnd => "expected `,` or `]`"
  | expectedObjectEnd => "expected `,` or `\x7d`"
  | trailingComma => "trailing comma"
  | trailingCharacters => "trailing characters"
  | invalidEscape => "invalid escape"
  | loneSurrogate => "lone leading surrogate in hex escape"
  | endOfSurrogates => "unexpected end of hex escape"
  | controlCharacter => "control character (\\u0000-\\u001F) found while parsing a string"
  | invalidCodePoint => "invalid unicode code point"
  | tooDeep => "recursion limit exceeded"

/-! ## Text that does not fit -/

/-- What was found where something else was expected. -/
inductive Found where
  | null
  | boolean (b : Bool)
  | integer (n : Int)
  | floatingPoint (x : Float)
  | string (s : String)
  | sequence
  | map

/-- The wording of what was found. -/
def Found.message : Found → String
  | null => "null"
  | boolean b => "boolean `" ++ (if b then "true" else "false") ++ "`"
  | integer n => "integer `" ++ toString n ++ "`"
  | floatingPoint x => "floating point `" ++ (Number.float x |> Json.number).text ++ "`"
  | string s => "string " ++ Text.quoted s
  | sequence => "sequence"
  | map => "map"

/-- What a value is, as far as a mismatch tells. -/
def Found.ofNumber : Number → Found
  | .natural n => integer n.toNat
  | .negative m => integer (-(m.val : Int))
  | .float x => floatingPoint x

/-- What a value is, as far as a mismatch tells. -/
def Found.ofJson : Json → Found
  | .null => null
  | .bool b => boolean b
  | .number n => ofNumber n
  | .string s => string s
  | .array _ => sequence
  | .object _ => map

/-- The width of an unsigned integer. -/
inductive Width where
  | eight
  | thirtyTwo
  | sixtyFour
  deriving DecidableEq, Repr

/-- How many numbers there are of a width. -/
def Width.bound : Width → Nat
  | eight => UInt8.size
  | thirtyTwo => UInt32.size
  | sixtyFour => UInt64.size

/-- What the reader of a value looks for. -/
inductive Sought where
  | unsigned (width : Width)
  | text
  | sequence
  | call
  | envelope
  | kind
  deriving DecidableEq, Repr

/-- The wording of what is looked for. -/
def Sought.message : Sought → String
  | unsigned .eight => "u8"
  | unsigned .thirtyTwo => "u32"
  | unsigned .sixtyFour => "u64"
  | text => "a string"
  | sequence => "a sequence"
  | call => "struct MethodCall"
  | envelope => "internally tagged enum Envelope"
  | kind => "variant identifier"

/-- The array forms whose length can be wrong. -/
inductive Form where
  | call
  | viewerMethod
  | binary
  | pair
  deriving DecidableEq, Repr

/-- The wording of the length that an array form has. -/
def Form.message : Form → String
  | call => "struct MethodCall with 2 elements"
  | viewerMethod => "struct variant Envelope::ViewerMethod with 2 elements"
  | binary => "struct variant Envelope::Binary with 2 elements"
  | pair => "2 elements in sequence"

/-- Why a JSON text does not fit what is read from it. -/
inductive Mismatch where
  | invalidType (found : Found) (sought : Sought)
  | invalidValue (n : Int) (width : Width)
  | missingField (name : String)
  | duplicateField (name : String)
  | unknownKind (name : String)
  | invalidLength (length : Nat) (form : Form)

/-- The wording of a mismatch. -/
def Mismatch.message : Mismatch → String
  | invalidType found sought => "invalid type: " ++ found.message ++ ", expected " ++ sought.message
  | invalidValue n width =>
    "invalid value: " ++ (Found.integer n).message ++ ", expected " ++
      (Sought.unsigned width).message
  | missingField name => "missing field `" ++ name ++ "`"
  | duplicateField name => "duplicate field `" ++ name ++ "`"
  | unknownKind name =>
    "unknown variant `" ++ name ++
      "`, expected one of `viewer_method`, `response`, `error`, `binary`"
  | invalidLength length form =>
    "invalid length " ++ toString length ++ ", expected " ++ form.message

/-! ## Both together -/

/-- Why a JSON text is refused. -/
inductive Failure where
  | malformed (cause : Malformation)
  | mismatch (cause : Mismatch)

/-- The classes of failures. -/
inductive Category where
  | endOfText
  | syntactic
  | data
  deriving DecidableEq, Repr

/-- The name of a class of failures. -/
def Category.name : Category → String
  | endOfText => "eof"
  | syntactic => "syntax"
  | data => "data"

/-- The class of a failure. -/
def Failure.category : Failure → Category
  | malformed (.endOfText _) => .endOfText
  | malformed _ => .syntactic
  | mismatch _ => .data

/-- The wording of a failure. -/
def Failure.message : Failure → String
  | malformed cause => cause.message
  | mismatch cause => cause.message

end SessionHub.Json
