import SessionHub.Envelope.Decode
import SessionHub.Json.Skip

set_option autoImplicit false

/-! # Reading a call on its own

A call that stands on its own is read directly: its members are checked as they are met, and the
values of other members are skipped rather than read. -/

namespace SessionHub.MethodCall

open Json (Failure Reader mismatch)

/-- Reads the arguments of a call. -/
def readArgs : Reader (List Json) :=
  Json.dispatch (fun v => mismatch (.invalidType (.ofJson v) .sequence))
    (fun s => do
      let (args, rest) ← Json.readArray (Json.read (Json.nestingLimit - 2)) s
      .ok (Json.canonicalElements args, rest))
    (fun _ => mismatch (.invalidType .map .sequence))

/-- Reads the name of a method. -/
def readMethod : Reader String :=
  Json.readScalar .text Json.stringOf

/-- Reads one more member of the object form. -/
def readMember (acc : Option String × Option (List Json)) (name : String) (s : Bytes) :
    Except Failure ((Option String × Option (List Json)) × Bytes) :=
  if name = "method" then
    if acc.1.isSome then mismatch (.duplicateField "method")
    else do
      let (method, rest) ← readMethod (← Json.readColon s)
      .ok ((some method, acc.2), rest)
  else if name = "args" then
    if acc.2.isSome then mismatch (.duplicateField "args")
    else do
      let (args, rest) ← readArgs (← Json.readColon s)
      .ok ((acc.1, some args), rest)
  else do
    .ok (acc, ← Json.skip (← Json.readColon s))

/-- Reads the object form after its opening bracket. -/
def readObject (s : Bytes) : Except Failure (MethodCall × Bytes) := do
  let ((method, args), rest) ← Json.readObject readMember (none, none) s
  .ok (← ofFields method args, rest)

/-- Takes the closing bracket of an array that may have no more elements. -/
def readClosing (s : Bytes) : Except Failure Bytes :=
  match Json.skipBlank s with
  | [] => Json.refuse (.endOfText .list)
  | b :: rest =>
    if b = Json.Mark.closeArray then .ok rest
    else if b = Json.Mark.comma then
      match Json.skipBlank rest with
      | c :: _ =>
        if c = Json.Mark.closeArray then Json.refuse .trailingComma
        else Json.refuse .trailingCharacters
      | [] => Json.refuse .trailingCharacters
    else Json.refuse .trailingCharacters

/-- Reads the array form after its opening bracket. -/
def readArray (s : Bytes) : Except Failure (MethodCall × Bytes) := do
  match ← Json.nextElement true s with
  | .closed _ => mismatch (.invalidLength 0 .call)
  | .element s =>
    let (method, rest) ← readMethod s
    match ← Json.nextElement false rest with
    | .closed rest => .ok ({ method, args := [] }, rest)
    | .element s =>
      let (args, rest) ← readArgs s
      .ok ({ method, args }, ← readClosing rest)

/-- Reads a call from the whole of a text. -/
def read (s : Bytes) : Except Failure MethodCall :=
  Json.readAll
    (Json.dispatch (fun v => mismatch (.invalidType (.ofJson v) .call)) readArray readObject) s

end SessionHub.MethodCall
