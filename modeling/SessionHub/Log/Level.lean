import SessionHub.Decimal.Bounded
import SessionHub.Text.Blank

set_option autoImplicit false

/-! # Levels

A record has a level. A threshold says up to which level records are wanted. -/

namespace SessionHub

/-- How much a record matters. -/
inductive Level where
  | error
  | warn
  | info
  | debug
  | trace
  deriving DecidableEq, Repr

namespace Level

/-- All levels, the gravest first. -/
def all : List Level :=
  [error, warn, info, debug, trace]

/-- The name of a level. -/
def name : Level → String
  | error => "error"
  | warn => "warn"
  | info => "info"
  | debug => "debug"
  | trace => "trace"

/-- The place of a level in the order of `all`, counted from one. -/
def rank : Level → Nat
  | error => 1
  | warn => 2
  | info => 3
  | debug => 4
  | trace => 5

end Level

/-- Which records are wanted. -/
inductive Threshold where
  | off
  /-- Those of a level or a graver one. -/
  | upTo (level : Level)
  deriving DecidableEq, Repr

namespace Threshold

/-- All thresholds, by the number that stands for them. -/
def all : List Threshold :=
  off :: Level.all.map upTo

/-- The name of a threshold. -/
def name : Threshold → String
  | off => "off"
  | upTo level => level.name

/-- Whether records of a level are wanted. -/
def admits : Threshold → Level → Bool
  | off, _ => false
  | upTo most, level => level.rank ≤ most.rank

/-- Reads a threshold: a number, or a name in any case. Nothing at all stands for errors only. -/
def read? (s : String) : Option Threshold :=
  match (Numeral.readUnsigned 64 s).toOption.bind fun n => all[n]? with
  | some t => some t
  | none =>
    if s.isEmpty then some (upTo .error)
    else all.find? fun t => t.name = Text.asciiLower s

end Threshold

end SessionHub
