import SessionHub.Log.Pattern.Depth
import SessionHub.Log.Pattern.Piece
import SessionHub.Text.Blank

set_option autoImplicit false

/-! # Classes of characters

A class stands in brackets. Its members are characters, ranges and other classes, and operators
stand between groups of members. What needs a table of characters is refused: members of a class in
which the case of letters does not matter, unless they are for ASCII alone. -/

namespace SessionHub.Pattern

/-! ## Members -/

/-- The names that a class in a class can have. -/
def classNames : List String :=
  [ "alnum", "alpha", "ascii", "blank", "cntrl", "digit", "graph", "lower", "print", "punct",
    "space", "upper", "word", "xdigit" ]

/-- Whether a text starts with a name and the end of a class with it. A caret makes it a
    complement. -/
def startsWithName (l : List Char) : Bool :=
  classNames.any fun name => [":", ":^"].any fun start =>
    (start ++ name ++ ":]").toList.isPrefixOf l

/-- The character that a piece stands for in a class. -/
def member? (m : Manner) : Piece → Option Char
  | .char c | .literal c =>
    if m.allowsLiterals && (m.unicode || c.toNat < 128) then some c else none
  | _ => none

/-- Whether a piece can stand alone in a class. -/
def isMember (m : Manner) : Piece → Bool
  | .named complement => m.allowsNamed complement
  | piece => (member? m piece).isSome

/-- Whether two pieces are the ends of a range. -/
def isRange (m : Manner) (first last : Piece) : Bool :=
  match member? m first, member? m last with
  | some a, some b => a ≤ b
  | _, _ => false

/-- What follows a hyphen before `l`. Where blanks are passed over, so is the sign that starts a
    comment, but not the comment. -/
def afterHyphen? (m : Manner) (l : List Char) : Option Char :=
  if m.skipsBlanks then
    match l.dropWhile Text.isBlank with
    | '#' :: l => (l.dropWhile Text.isBlank).head?
    | l => l.head?
  else l.head?

/-! ## Open classes -/

/-- How far a reader is in a class. -/
inductive ClassPhase where
  /-- At its start, where a caret makes it a complement. -/
  | start
  /-- Before its members, where a closing bracket stands for itself. -/
  | opened
  /-- After hyphens at its start. -/
  | hyphens
  /-- After a member or an operator. -/
  | members
  /-- After a piece that is a member or the start of a range. -/
  | member (piece : Piece)
  /-- After the start of a range and its hyphen. -/
  | range (first : Piece)
  /-- After the first character of an operator. -/
  | operator
  /-- In the name of a class in it. -/
  | name

/-- Whether blanks can be passed over. -/
def ClassPhase.allowsBlanks : ClassPhase → Bool
  | operator | name => false
  | _ => true

/-- What was read of a class. -/
structure ClassParts where
  /-- The members after the last operator. -/
  parts : Parts := {}
  /-- How deep that is what stands before the last operator, if there is one. -/
  left : Option Nat := none

namespace ClassParts

/-- One more member. -/
def add (c : ClassParts) (depth : Nat) : ClassParts :=
  { c with parts := c.parts.add depth }

/-- How deep the parts are together. An operator is one deeper than what is at its sides. -/
def depth (c : ClassParts) : Nat :=
  match c.left with
  | none => c.parts.whole
  | some left => max left c.parts.whole + 1

/-- The class after an operator. -/
def operate (c : ClassParts) : ClassParts :=
  { left := some c.depth }

end ClassParts

/-- A class that is being read, and the open classes around it, innermost first. -/
structure OpenClass where
  inner : ClassParts := {}
  outer : List ClassParts := []
  phase : ClassPhase := .start

/-- What a piece makes of an open class. -/
inductive ClassStep where
  | inside (c : OpenClass)
  /-- The outermost class is complete. -/
  | closed (depth : Nat)

namespace OpenClass

/-- The class in another phase. -/
def turn (c : OpenClass) (phase : ClassPhase) : ClassStep :=
  .inside { c with phase }

/-- The class with one more member. -/
def addMember (c : OpenClass) (phase : ClassPhase) : OpenClass :=
  { c with inner := c.inner.add 0, phase }

/-- The class with one more member, if a piece can be one. -/
def addIf (c : OpenClass) (allowed : Bool) (phase : ClassPhase) : Option OpenClass :=
  if allowed then some (c.addMember phase) else none

/-- The end of the innermost class. -/
def close (c : OpenClass) : ClassStep :=
  let depth := c.inner.depth + 1
  match c.outer with
  | [] => .closed depth
  | inner :: outer => .inside { inner := inner.add depth, outer, phase := .members }

/-- Reads a piece that follows a complete member: an end of the class, the start of another one in
    it, an operator, or a member. -/
def readNext (m : Manner) (c : OpenClass) (x : Piece) (l : List Char) : Option ClassStep :=
  match x with
  | .char ']' => some c.close
  | .char '[' =>
    if startsWithName l then
      (c.addIf (m.allowsLiterals && (m.unicode || l[1]? ≠ some '^')) .name).map .inside
    else some (.inside { outer := c.inner :: c.outer })
  | .char ch =>
    if ['&', '-', '~'].contains ch ∧ l.head? = some ch then
      some (.inside { c with inner := c.inner.operate, phase := .operator })
    else some (c.turn (.member x))
  | x => some (c.turn (.member x))

/-- Reads a piece in a class, before the text `l`. A class for ASCII alone has no complement. -/
def read (m : Manner) (c : OpenClass) (x : Piece) (l : List Char) : Option ClassStep :=
  match c.phase, x with
  | .start, .char '^' => if m.unicode then some (c.turn .opened) else none
  | .start, .char '-' | .opened, .char '-' | .hyphens, .char '-' =>
    (c.addIf (isMember m x) .hyphens).map .inside
  | .start, .char ']' | .opened, .char ']' => (c.addIf (isMember m x) .members).map .inside
  | .operator, _ => some (c.turn .members)
  | .name, .char ']' => some (c.turn .members)
  | .name, _ => some (c.turn .name)
  | .range first, x => (c.addIf (isRange m first x) .members).map .inside
  | .member first, x =>
    if x = .char '-' ∧ afterHyphen? m l ∉ [some ']', some '-'] then
      some (c.turn (.range first))
    else do (← c.addIf (isMember m first) .members).readNext m x l
  | _, x => c.readNext m x l

end OpenClass

end SessionHub.Pattern
