import SessionHub.Log.Filter

set_option autoImplicit false

/-! # Where records go

Whether records are written, where and how, is set up once, from variables of the environment. -/

namespace SessionHub

/-- Where records are written. -/
inductive LogStream where
  | standardOutput
  | standardError
  deriving DecidableEq, Repr

/-- How records are written. -/
inductive LogLayout where
  | json
  | pretty
  deriving DecidableEq, Repr

/-- What is set up. -/
structure LogSetup where
  filter : LogFilter
  stream : LogStream
  layout : LogLayout
  deriving Repr

namespace LogSetup

/-- The variable with the directives. -/
def directives : String := "RUST_LOG"

/-- The variable that has nothing written at all, whatever it says. -/
def silencing : String := "SESSIONMUX_DISABLE_LOGS"

/-- The variable that has records written to the standard error, whatever it says. -/
def diverting : String := "SESSIONMUX_LOG_TO_STDERR"

/-- The variable that says how records are written. -/
def formatting : String := "SESSIONMUX_LOG_FORMAT"

/-- The variables that are looked at. -/
def variableNames : List String :=
  [directives, silencing, diverting, formatting]

/-- The directives that apply by default. -/
def usual : Threshold := .upTo .info

/-- What is wanted of the transport, whatever is said. -/
def transport : List Directive :=
  [.about "hyper" (.upTo .info), .about "tower_http" (.upTo .info)]

/-- The filter that a text of directives stands for. The threshold counts only if there are none. -/
def filterOf (threshold : Option Threshold) (directives : String) : LogFilter :=
  let stated := LogFilter.read directives
  let stated := if stated.isEmpty then [.overall (threshold.getD usual)] else stated
  transport.foldl LogFilter.add stated

/-- The set-up that an environment asks for, if records are to be written at all. -/
def ofEnvironment (threshold : Option Threshold) (env : String → Option String) :
    Option LogSetup :=
  if (env silencing).isSome then none
  else some
    { filter := filterOf threshold ((env directives).getD "")
      stream := if (env diverting).isSome then .standardError else .standardOutput
      layout := if (env formatting).any (Text.asciiLower · = "json") then .json else .pretty }

end LogSetup

/-- The logger of a program: what was set up, if that was done, and the directives that could not be
    read then. -/
inductive Logger where
  | unset
  | set (setup : Option LogSetup) (unreadable : List String)
  deriving Repr

namespace Logger

/-- Sets the logger up, unless that was done before. -/
def install (l : Logger) (threshold : Option Threshold) (env : String → Option String) :
    Logger :=
  match l with
  | unset =>
    set (LogSetup.ofEnvironment threshold env)
      (LogFilter.unreadable ((env LogSetup.directives).getD ""))
  | l => l

/-- Whether records of a level about a target that have given fields are written to a stream. -/
def writes (l : Logger) (stream : LogStream) (target : String) (fields : List String)
    (level : Level) : Bool :=
  match l with
  | set (some setup) _ => setup.stream = stream && setup.filter.admits target fields level
  | _ => false

/-- The lines that the setting up writes to a stream, even if no records are to be written. -/
def complaints (l : Logger) (stream : LogStream) : List String :=
  match l, stream with
  | set _ unreadable, .standardError =>
    unreadable.map fun part => "ignoring `" ++ part ++ "`: invalid filter directive"
  | _, _ => []

/-- How what is written to a stream looks, if records are. A complaint is no JSON. -/
def layout? (l : Logger) (stream : LogStream) (anyRecord : Bool) : Option LogLayout :=
  if !(l.complaints stream).isEmpty then some .pretty
  else
    match l, anyRecord with
    | set (some setup) _, true => some setup.layout
    | _, _ => none

end Logger

end SessionHub
