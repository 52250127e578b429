import SessionHub.Settings.Basic
import SessionHub.Text.Terminal

set_option autoImplicit false

/-! # Settings from a command line

A setting is given by its option, `--name=value` or `--name value`, or else by a variable of the
environment. Arguments are looked at from left to right. The value of an option that stands in an
argument of its own is only read when the next option comes, or the end. -/

namespace SessionHub

/-- Why there are no settings. -/
inductive SettingsError where
  /-- An option has no value. -/
  | missingValue (s : Setting)
  /-- The value is none of those that there are. -/
  | noChoice (s : Setting) (value : String)
  /-- The value cannot be read. -/
  | malformed (s : Setting) (value reason : String)
  /-- An option was given twice. -/
  | repeated (s : Setting)
  /-- No such argument is known. -/
  | unknown (argument : String)
  /-- A flag was given a value. -/
  | unwanted (flag value : String)
  /-- It was asked what the program is. -/
  | help
  /-- It was asked which version the program has. -/
  | version
  deriving DecidableEq, Repr

namespace SettingsError

/-- The wording of an error. What was given is shown without the orders to a terminal in it. -/
def message : SettingsError → String
  | missingValue s => "error: a value is required for '" ++ s.shown ++ "' but none was supplied"
  | noChoice s value => "error: invalid value '" ++ Text.plain value ++ "' for '" ++ s.shown ++ "'"
  | malformed s value reason =>
    "error: invalid value '" ++ Text.plain value ++ "' for '" ++ s.shown ++ "': " ++ reason
  | repeated s => "error: the argument '" ++ s.shown ++ "' cannot be used multiple times"
  | unknown argument => "error: unexpected argument '" ++ Text.plain argument ++ "' found"
  | unwanted flag value =>
    "error: unexpected value '" ++ Text.plain value ++ "' for '" ++ flag ++
      "' found; no more were expected"
  | help => "Multiplexes client sessions onto a shared engine"
  | version => "sessionmux 0.1.0"

/-- Whether it is the answer to a question and nothing is wrong. -/
def isReply : SettingsError → Bool
  | help | version => true
  | _ => false

/-- The error for a text that is no value of a setting. -/
def ofValue (s : Setting) (value : String) : ValueError → SettingsError
  | .missing => missingValue s
  | .noChoice => noChoice s value
  | .malformed reason => malformed s value reason

end SettingsError

/-! ## Values -/

namespace Assignment

/-- Sets a setting to the value that a text stands for. -/
def setText (a : Assignment) (s : Setting) (text : String) : Except SettingsError Assignment :=
  match s.read text with
  | .ok v => .ok (a.set s v)
  | .error e => .error (SettingsError.ofValue s text e)

/-- Takes in an option and its value. -/
def give (a : Assignment) (s : Setting) (text : String) : Except SettingsError Assignment :=
  if (a s).isSome then .error (.repeated s) else a.setText s text

end Assignment

/-! ## Arguments -/

/-- What an argument is. -/
inductive Argument where
  /-- Two hyphens: what follows are no options. -/
  | escape
  /-- `--name`, or `--name=value`. -/
  | long (name : String) (value : Option String)
  /-- `-c`, and whatever follows. -/
  | short (c : Char)
  | plain (text : String)
  deriving DecidableEq, Repr

/-- What a text is as an argument. -/
def Argument.ofString (s : String) : Argument :=
  match s.toList with
  | ['-', '-'] => escape
  | '-' :: '-' :: cs =>
    let name := String.ofList (cs.takeWhile (· ≠ '='))
    match cs.dropWhile (· ≠ '=') with
    | _ :: value => long name (some (String.ofList value))
    | [] => long name none
  | '-' :: c :: _ => short c
  | _ => plain s

namespace Settings

/-- An option that was met and is still to be taken in, and its value if that was met, too. -/
abbrev Waiting := Option (Setting × Option String)

/-- Takes in an option that was met before. -/
def resolve (a : Assignment) : Waiting → Except SettingsError Assignment
  | none => .ok a
  | some (s, none) => .error (.missingValue s)
  | some (s, some value) => a.give s value

/-- Ends with an answer to a question, unless an option that was met before is wrong. -/
def reply (a : Assignment) (w : Waiting) (e : SettingsError) : Except SettingsError Assignment := do
  let _ ← resolve a w
  .error e

/-- Takes in the arguments. -/
def takeArguments (a : Assignment) (w : Waiting) :
    List String → Except SettingsError Assignment
  | [] => resolve a w
  | argument :: rest =>
    match Argument.ofString argument with
    | .escape =>
      match rest with
      | [] => resolve a w
      | argument :: _ => .error (.unknown argument)
    | .long "help" none | .short 'h' => reply a w .help
    | .long "version" none | .short 'V' => reply a w .version
    | .long name value =>
      match Setting.ofOption? name, value with
      | some s, some value => do
        let a ← resolve a w
        let a ← a.give s value
        takeArguments a none rest
      | some s, none => do
        let a ← resolve a w
        takeArguments a (some (s, none)) rest
      | none, value =>
        match value with
        | some value =>
          if name = "help" ∨ name = "version" then .error (.unwanted ("--" ++ name) value)
          else .error (.unknown ("--" ++ name))
        | none => .error (.unknown ("--" ++ name))
    | .short c => .error (.unknown (String.ofList ['-', c]))
    | .plain text =>
      match w with
      | some (s, none) => takeArguments a (some (s, some text)) rest
      | _ => .error (.unknown text)

/-- Takes in the variables of the settings that no option has set. -/
def takeVariables (env : String → Option String) :
    Assignment → List Setting → Except SettingsError Assignment
  | a, [] => .ok a
  | a, s :: rest =>
    if (a s).isSome then takeVariables env a rest
    else
      match env s.variableName with
      | none => takeVariables env a rest
      | some text => do
        let a ← a.setText s text
        takeVariables env a rest

/-- The settings that a command line and an environment give. -/
def ofCommandLine (arguments : List String) (env : String → Option String) :
    Except SettingsError Settings := do
  let a ← takeArguments .empty none arguments
  let a ← takeVariables env a Setting.all
  .ok (ofAssignment a)

end Settings

end SessionHub
