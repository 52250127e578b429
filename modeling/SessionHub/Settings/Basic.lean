import SessionHub.Command
import SessionHub.Log.Level
import SessionHub.Settings.Address

set_option autoImplicit false

/-! # Settings

What can be set, which values there are for it, how they are read, and what holds if nothing is
set. -/

namespace SessionHub

/-- What can be set. -/
inductive Setting where
  /-- The address that connections are made to. -/
  | address
  | port
  | loopMode
  /-- How many workers a pool has. -/
  | poolWorkers
  /-- The name of the source that is hosted at the start. -/
  | dataSource
  | logLevel
  deriving DecidableEq, Repr

/-- How the hub calls its engine, as far as one setting says. -/
inductive LoopChoice where
  | cooperative
  | pool
  deriving DecidableEq, Repr

/-- The name of a choice. -/
def LoopChoice.name : LoopChoice → String
  | cooperative => "Cooperative"
  | pool => "Pool"

namespace Setting

/-- All settings, in the order in which variables are looked at. -/
def all : List Setting :=
  [address, port, loopMode, poolWorkers, dataSource, logLevel]

/-- The name of the option for a setting. -/
def option : Setting → String
  | address => "address"
  | port => "port"
  | loopMode => "loop-mode"
  | poolWorkers => "pool-workers"
  | dataSource => "data-source"
  | logLevel => "log-level"

/-- The name of the variable for a setting. -/
def variableName : Setting → String
  | address => "ADDRESS"
  | port => "PORT"
  | loopMode => "LOOP_MODE"
  | poolWorkers => "POOL_WORKERS"
  | dataSource => "DATA_SOURCE"
  | logLevel => "LOG_LEVEL"

/-- The setting that an option is for. -/
def ofOption? (name : String) : Option Setting :=
  all.find? (·.option = name)

/-- How an option is shown. -/
def shown (s : Setting) : String :=
  "--" ++ s.option ++ " <" ++ s.variableName ++ ">"

/-- The values of a setting. -/
abbrev Value : Setting → Type
  | address => IpAddress
  | port => UInt16
  | loopMode => LoopChoice
  | poolWorkers => WorkerCount
  | dataSource => String
  | logLevel => Threshold

end Setting

/-! ## Reading values -/

/-- Why a text is no value of a setting. -/
inductive ValueError where
  /-- A value is missing. -/
  | missing
  /-- The text is none of the values that there are. -/
  | noChoice
  /-- The text cannot be read. -/
  | malformed (reason : String)
  deriving DecidableEq, Repr

namespace Setting

/-- Reads a port. -/
def readPort (s : String) : Except ValueError UInt16 :=
  match Numeral.readSigned 64 s with
  | .error e => .error (.malformed e.message)
  | .ok n =>
    if 0 ≤ n ∧ n < UInt16.size then .ok n.toNat.toUInt16
    else .error (.malformed (toString n ++ " is not in 0..=65535"))

/-- Reads a number of workers. -/
def readWorkers (s : String) : Except ValueError WorkerCount :=
  match Numeral.readUnsigned 64 s with
  | .error e => .error (.malformed e.message)
  | .ok 0 => .error (.malformed "number would be zero for non-zero type")
  | .ok (n + 1) => .ok ⟨n + 1, Nat.succ_pos n⟩

/-- Reads the choice of a mode. -/
def readChoice (s : String) : Except ValueError LoopChoice :=
  if s.isEmpty then .error .missing
  else if s = "cooperative" ∨ s = "single" then .ok .cooperative
  else if s = "pool" then .ok .pool
  else .error .noChoice

/-- The wording for a text that is no threshold. -/
def noThreshold : String :=
  "error parsing level filter: expected one of \"off\", \"error\", \"warn\", \"info\", " ++
    "\"debug\", \"trace\", or a number 0-5"

/-- Reads a value. -/
def read : (s : Setting) → String → Except ValueError s.Value
  | address, t => match IpAddress.read? t with
    | some a => .ok a
    | none => .error (.malformed "invalid IP address syntax")
  | port, t => readPort t
  | loopMode, t => readChoice t
  | poolWorkers, t => readWorkers t
  | dataSource, t => .ok t
  | logLevel, t => match Threshold.read? t with
    | some threshold => .ok threshold
    | none => .error (.malformed noThreshold)

end Setting

/-! ## Settings -/

/-- What is set of each setting, if it is. -/
abbrev Assignment : Type :=
  (s : Setting) → Option s.Value

namespace Assignment

/-- Nothing is set. -/
def empty : Assignment :=
  fun _ => none

/-- Sets one setting. -/
def set (a : Assignment) (s : Setting) (v : s.Value) : Assignment :=
  fun t => if h : t = s then some (h ▸ v) else a t

end Assignment

/-- All settings. -/
structure Settings where
  address : IpAddress := .localhost
  port : UInt16 := 8082
  loopMode : LoopChoice := .pool
  poolWorkers : Option WorkerCount := none
  dataSource : String := "data_source_one"
  logLevel : Option Threshold := none
  deriving DecidableEq, Repr

namespace Settings

/-- What holds if nothing is set. -/
def standard : Settings := {}

/-- The settings of an assignment. What is not set is as it holds otherwise. -/
def ofAssignment (a : Assignment) : Settings where
  address := (a .address).getD standard.address
  port := (a .port).getD standard.port
  loopMode := (a .loopMode).getD standard.loopMode
  poolWorkers := (a .poolWorkers).or standard.poolWorkers
  dataSource := (a .dataSource).getD standard.dataSource
  logLevel := (a .logLevel).or standard.logLevel

/-- How the hub calls its engine. -/
def mode (s : Settings) : Mode :=
  match s.loopMode, s.poolWorkers with
  | .cooperative, _ => .cooperative
  | .pool, some workers => .pool workers
  | .pool, none => .onePool

/-- Where connections are made to. -/
def socketAddress (s : Settings) : String :=
  s.address.writeWithPort s.port.toNat

end Settings

end SessionHub
