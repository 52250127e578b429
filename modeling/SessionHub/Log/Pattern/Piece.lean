set_option autoImplicit false

/-! # Pieces of patterns

A pattern is read in pieces: a character as it stands, or what a backslash and the characters after
it stand for. How pieces are read depends on the manner that a pattern, or a part of it, asks
for. -/

namespace SessionHub.Pattern

/-! ## Pieces -/

/-- A piece of a pattern. -/
inductive Piece where
  | char (c : Char)
  /-- A character that stands for itself, whatever it is. -/
  | literal (c : Char)
  /-- A class with a name of one letter, and whether it is a complement. -/
  | named (complement : Bool)
  /-- Where a word starts or ends, or does not. -/
  | boundary
  /-- Where the text starts or ends. -/
  | anchor
  deriving DecidableEq, Repr

/-- The value of a hexadecimal digit. -/
def hexDigit? (c : Char) : Option Nat :=
  if c.isDigit then some (c.toNat - '0'.toNat)
  else if 'a' ≤ c ∧ c ≤ 'f' then some (c.toNat - 'a'.toNat + 10)
  else if 'A' ≤ c ∧ c ≤ 'F' then some (c.toNat - 'A'.toNat + 10)
  else none

/-- The piece that a character after a backslash makes. -/
def escaped? (c : Char) : Option Piece :=
  if ['d', 's', 'w'].contains c then some (.named false)
  else if ['D', 'S', 'W'].contains c then some (.named true)
  else if ['b', 'B', '<', '>'].contains c then some .boundary
  else if ['A', 'z'].contains c then some .anchor
  else
    match ['a', 'f', 't', 'n', 'r', 'v'].idxOf? c with
    | some k => some (.literal (['\x07', '\x0C', '\t', '\n', '\r', '\x0B'].getD k c))
    | none => if c.toNat < 128 && !c.isAlphanum then some (.literal c) else none

/-! ## Manners -/

/-- How a part of a pattern is read. -/
structure Manner where
  /-- Whether the case of letters does not matter. -/
  foldsCase : Bool := false
  /-- Whether it is not for ASCII alone. -/
  unicode : Bool := true
  /-- Whether blanks, and comments from a number sign to the end of the line, are passed over. -/
  skipsBlanks : Bool := false
  deriving DecidableEq, Repr

namespace Manner

/-- Whether a character may stand for itself. -/
def allowsLiterals (m : Manner) : Bool :=
  !(m.foldsCase && m.unicode)

/-- Whether a class with a name of one letter may occur. The complement of one for ASCII alone is
    none. -/
def allowsNamed (m : Manner) (complement : Bool) : Bool :=
  !m.unicode && !complement

/-- The letters that change how a pattern is read. -/
def letters : List Char :=
  ['i', 'm', 's', 'U', 'u', 'R', 'x']

/-- The manner after changes, oldest first. What follows a hyphen is turned off. -/
def change (m : Manner) (changes : List Char) : Manner :=
  let (on, off) := (changes.takeWhile (· ≠ '-'), changes.dropWhile (· ≠ '-'))
  let apply := fun (before : Bool) letter => (before || on.contains letter) && !off.contains letter
  { foldsCase := apply m.foldsCase 'i'
    unicode := apply m.unicode 'u'
    skipsBlanks := apply m.skipsBlanks 'x' }

end Manner

end SessionHub.Pattern
