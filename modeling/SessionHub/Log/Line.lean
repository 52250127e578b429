import SessionHub.Json.Writer
import SessionHub.Log.Record
import SessionHub.Log.Setup

set_option autoImplicit false

/-! # Records as lines

A record that is written takes one line, whatever the layout: a JSON object, or words. -/

namespace SessionHub

/-- What all records of the hub are about. -/
def Record.target : String := "sessionmux"

/-- The names of all that a record says. -/
def Record.fieldNames (r : Record) : List String :=
  "message" :: r.fields.map (·.1)

/-- The fields of a record, as words. -/
def Record.words (r : Record) : String :=
  " ".intercalate (r.message :: r.fields.map fun (name, value) => name ++ "=" ++ value)

/-- A record as a JSON value. -/
def Record.toJson (r : Record) : Json :=
  .object
    [ ("level", .string r.level.name.toUpper), ("target", .string target),
      ("message", .string r.message),
      ("fields", .object (r.fields.map fun (name, value) => (name, .string value))) ]

/-- The line for a record. -/
def LogLayout.line : LogLayout → Record → String
  | .json, r => r.toJson.text
  | .pretty, r => r.level.name.toUpper ++ " " ++ Record.target ++ ": " ++ r.words

/-- The lines that a logger writes to a stream. -/
def Logger.lines (l : Logger) (stream : LogStream) (records : List Record) : List String :=
  match l with
  | .set (some setup) _ =>
    (records.filter fun r => l.writes stream Record.target r.fieldNames r.level).map
      setup.layout.line
  | _ => []

end SessionHub
