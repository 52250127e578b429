import SessionHub.Json.Value

set_option autoImplicit false

/-! # Writing JSON

Compact text: no blanks, members in the order in which they stand. In strings the quote, the
backslash and the controls are escaped, and everything else is written as its UTF-8 bytes. -/

namespace SessionHub.Json

/-- The lower-case hexadecimal digit for `n < 16`. -/
def hexDigit (n : Nat) : UInt8 :=
  Bytes.ascii n.digitChar

/-- How a string holds one character. -/
def escape (c : Char) : Bytes :=
  match c with
  | '"' => Bytes.ofString "\\\""
  | '\\' => Bytes.ofString "\\\\"
  | '\x08' => Bytes.ofString "\\b"
  | '\t' => Bytes.ofString "\\t"
  | '\n' => Bytes.ofString "\\n"
  | '\x0c' => Bytes.ofString "\\f"
  | '\r' => Bytes.ofString "\\r"
  | c =>
    if c.toNat < 0x20 then
      Bytes.ofString "\\u00" ++ [hexDigit (c.toNat / 16), hexDigit (c.toNat % 16)]
    else String.utf8EncodeChar c

/-- The text of a string, with its quotes. -/
def writeString (s : String) : Bytes :=
  Bytes.ascii '"' :: (s.toList.flatMap escape ++ [Bytes.ascii '"'])

mutual

/-- The compact text of a value. -/
def write : Json → Bytes
  | null => Bytes.ofString "null"
  | bool true => Bytes.ofString "true"
  | bool false => Bytes.ofString "false"
  | number n => n.write
  | string s => writeString s
  | array elements => Bytes.ascii '[' :: writeElements elements
  | object members => Bytes.ascii '\x7b' :: writeMembers members

/-- The text of the elements of an array, up to and with its closing bracket. -/
def writeElements : List Json → Bytes
  | [] => [Bytes.ascii ']']
  | v :: rest => v.write ++ writeMoreElements rest

/-- The text of the elements after the first, each with the comma before it. -/
def writeMoreElements : List Json → Bytes
  | [] => [Bytes.ascii ']']
  | v :: rest => Bytes.ascii ',' :: (v.write ++ writeMoreElements rest)

/-- The text of the members of an object, up to and with its closing bracket. -/
def writeMembers : List (String × Json) → Bytes
  | [] => [Bytes.ascii '\x7d']
  | (name, v) :: rest =>
    writeString name ++ Bytes.ascii ':' :: (v.write ++ writeMoreMembers rest)

/-- The text of the members after the first, each with the comma before it. -/
def writeMoreMembers : List (String × Json) → Bytes
  | [] => [Bytes.ascii '\x7d']
  | (name, v) :: rest =>
    Bytes.ascii ',' ::
      (writeString name ++ Bytes.ascii ':' :: (v.write ++ writeMoreMembers rest))

end

/-- The compact text of a value as a string. -/
def text (v : Json) : String :=
  (Bytes.text? v.write).getD ""

end SessionHub.Json
