import SessionHub.Console
import SessionHub.Log.Line
import SessionHub.Settings.CommandLine

set_option autoImplicit false

/-! # The program

Reads its settings, opens a console, and answers the lines of the standard input until it ends. -/

open SessionHub

/-- The variables of the environment that are looked at. -/
def environmentNames : List String :=
  Setting.all.map (·.variableName) ++ LogSetup.variableNames

/-- What the environment says. -/
def readEnvironment : IO (String → Option String) := do
  let given ← environmentNames.filterMapM fun name => do
    return (← IO.getEnv name).map fun value => (name, value)
  return fun name => given.lookup name

/-- Writes out what a console has logged and what came in. -/
def report (logger : Logger) (c : Console) : IO Console := do
  let (records, c) := c.takeRecords
  let (answers, c) := c.takeAnswers
  for line in logger.lines .standardError records do
    IO.eprintln line
  let out ← IO.getStdout
  for line in logger.lines .standardOutput records do
    out.putStrLn line
  for answer in answers do
    out.write ⟨(answer ++ [Bytes.ascii '\n']).toArray⟩
  out.flush
  return c

/-- Answers the lines of a stream until it ends. -/
partial def converse (logger : Logger) (input : IO.FS.Stream) (c : Console) : IO Console := do
  let line ← input.getLine
  if line.isEmpty then
    return c
  else
    let line := if line.endsWith "\n" then (line.dropEnd 1).toString else line
    converse logger input (← report logger (c.enter (Bytes.ofString line)))

/-- The program. Errors in its arguments end it with status 2. -/
def main (arguments : List String) : IO UInt32 := do
  let env ← readEnvironment
  match Settings.ofCommandLine arguments env with
  | .error e =>
    if e.isReply then
      IO.println e.message
      return 0
    else
      IO.eprintln e.message
      return 2
  | .ok settings =>
    let logger := Logger.unset.install settings.logLevel env
    for line in logger.complaints .standardError do
      IO.eprintln line
    let c ← report logger (.ofSettings settings)
    let c ← converse logger (← IO.getStdin) c
    let _ ← report logger c.leave
    return 0
