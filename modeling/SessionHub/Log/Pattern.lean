import SessionHub.Log.Pattern.Class
import SessionHub.Text.Letter

set_option autoImplicit false

/-! # Patterns

Whether a text is a regular expression. It stands between braces, so it holds no closing brace and
no repetition with a count. Patterns are made without tables of characters: what needs one, such as
`\d` or letters whose case does not matter, is refused, unless it is for ASCII alone. So is what is
too deep. -/

namespace SessionHub.Pattern

/-! ## Where a reader is -/

/-- Where a reader is in the structure of a pattern. -/
inductive Place where
  /-- Where nothing was read that can be repeated. -/
  | bare
  /-- Right after an opening parenthesis. -/
  | parenthesis
  /-- After something that can be repeated, and how deep it is. -/
  | item (depth : Nat)
  /-- After a repetition, which can be made a lazy one, and how deep it is. -/
  | repetition (depth : Nat)
  /-- After `(?`. -/
  | question
  /-- After `(?P`. -/
  | label
  /-- In the name of a group, newest first. -/
  | name (read : List Char)
  /-- In changes of the manner, newest first. -/
  | changes (read : List Char)
  | inClass (c : OpenClass)

namespace Place

/-- Whether blanks can be passed over. -/
def allowsBlanks : Place → Bool
  | bare | parenthesis | item _ | repetition _ => true
  | question | label | name _ | changes _ => false
  | inClass c => c.phase.allowsBlanks

/-- The place after blanks. A repetition is not made a lazy one any more. -/
def afterBlank : Place → Place
  | repetition depth => item depth
  | place => place

/-- Whether a pattern can end. -/
def isEnd : Place → Bool
  | bare | item _ | repetition _ => true
  | _ => false

end Place

/-- What is being put together from several characters. -/
inductive Lexing where
  | nothing
  /-- After a backslash. -/
  | escape
  /-- In the digits of a code point: how many follow the next one, the value up to here, and whether
      it stands for a byte. -/
  | digits (more value : Nat) (isByte : Bool)
  /-- In a comment, and how it goes on after it. -/
  | comment (back : Lexing)

/-- A group that is open, or the pattern itself: how the next piece is read, the parts of its last
    branch, and its other branches. -/
structure OpenGroup where
  manner : Manner := {}
  sequence : Parts := {}
  branches : Parts := {}

namespace OpenGroup

/-- How deep all the branches are together. -/
def depth (g : OpenGroup) : Nat :=
  (g.branches.add g.sequence.whole).whole

/-- The group with one more part. -/
def add (g : OpenGroup) (depth : Nat) : OpenGroup :=
  { g with sequence := g.sequence.add depth }

/-- The group at the start of another branch. -/
def branch (g : OpenGroup) : OpenGroup :=
  { g with sequence := {}, branches := g.branches.add g.sequence.whole }

end OpenGroup

/-- What was read of a pattern: its open groups, innermost first, the names of its groups, and where
    the reader is. -/
structure Progress where
  group : OpenGroup := {}
  outer : List OpenGroup := []
  names : List (List Char) := []
  place : Place := .bare
  lexing : Lexing := .nothing

namespace Progress

/-- The progress at another place. -/
def go (p : Progress) (place : Place) : Progress :=
  { p with place }

/-- Opens a group that is read in its own manner. -/
def enter (p : Progress) (manner : Manner) : Progress :=
  { p with group := { manner }, outer := p.group :: p.outer, place := .bare }

/-- Adds something that can be repeated. -/
def add (p : Progress) (depth : Nat) : Progress :=
  { p with group := p.group.add depth, place := .item depth }

/-- Adds something that can be repeated, if it may occur. -/
def addIf (p : Progress) (allowed : Bool) : Option Progress :=
  if allowed then some (p.add 0) else none

/-- Closes a group. -/
def leave? (p : Progress) : Option Progress :=
  match p.outer with
  | [] => none
  | group :: outer => some ({ p with group, outer }.add (p.group.depth + 1))

/-- Repeats what was read last, if that can be repeated. -/
def repeat? (p : Progress) : Option Progress :=
  match p.place with
  | .item depth | .repetition depth =>
    let group := { p.group with sequence := p.group.sequence.deepenLast (depth + 1) }
    some { p with group, place := .repetition (depth + 1) }
  | _ => none

/-! ## Pieces outside of classes -/

/-- Reads a piece outside of classes. -/
def readPart (p : Progress) : Piece → Option Progress
  | .char '(' => some (p.go .parenthesis)
  | .char ')' => p.leave?
  | .char '|' => some { p with group := p.group.branch, place := .bare }
  | .char '[' => some (p.go (.inClass {}))
  | .char '?' =>
    match p.place with
    | .repetition depth => some (p.go (.item depth))
    | _ => p.repeat?
  | .char '*' | .char '+' => p.repeat?
  | .char '{' => none
  | .char '.' => p.addIf p.group.manner.unicode
  | .char '^' | .char '$' | .anchor => some (p.add 0)
  | .char _ | .literal _ => p.addIf p.group.manner.allowsLiterals
  | .named complement => p.addIf (p.group.manner.allowsNamed complement)
  | .boundary => p.addIf !p.group.manner.unicode

/-- Reads a piece among changes of the manner. They are for a group, or for what follows them. -/
def readChange (p : Progress) (read : List Char) : Piece → Option Progress
  | .char c =>
    let complete := read.head? ≠ some '-'
    let manner := p.group.manner.change read.reverse
    if c = ':' ∧ complete then some (p.enter manner)
    else if c = ')' ∧ complete ∧ read ≠ [] then
      let group := { p.group.add 0 with manner }
      some { p with group, place := .bare }
    else if (c = '-' ∨ c ∈ Manner.letters) ∧ c ∉ read then some (p.go (.changes (c :: read)))
    else none
  | _ => none

/-- Whether a character may be the next one of the name of a group. -/
def isNameChar (read : List Char) (c : Char) : Bool :=
  c = '_' || Text.isLetter c ||
    (!read.isEmpty && (Text.isNumber c || ['.', '[', ']'].contains c))

/-- Reads a piece of the name of a group. No two groups have the same name. -/
def readName (p : Progress) (read : List Char) : Piece → Option Progress
  | .char '>' =>
    if read = [] ∨ read ∈ p.names then none
    else some { p.enter p.group.manner with names := read :: p.names }
  | .char c => if isNameChar read c then some (p.go (.name (c :: read))) else none
  | _ => none

/-! ## Pieces -/

/-- Reads a piece, before the text `l`. -/
def readPiece (p : Progress) (x : Piece) (l : List Char) : Option Progress :=
  match p.place, x with
  | .parenthesis, .char '?' => some (p.go .question)
  | .parenthesis, x => (p.enter p.group.manner).readPart x
  | .question, .char 'P' => some (p.go .label)
  | .question, .char '<' | .label, .char '<' => some (p.go (.name []))
  | .question, x => p.readChange [] x
  | .label, _ => none
  | .name read, x => p.readName read x
  | .changes read, x => p.readChange read x
  | .inClass c, x =>
    match c.read p.group.manner x l with
    | some (.inside c) => some (p.go (.inClass c))
    | some (.closed depth) => some (p.add depth)
    | none => none
  | _, x => p.readPart x

/-- Whether a blank or a comment is passed over at this place. -/
def skipsBlanks (p : Progress) : Bool :=
  p.group.manner.skipsBlanks && p.place.allowsBlanks

/-- The piece that a code point stands for. A byte that is no character by itself stands for nothing
    if it is for ASCII alone. -/
def codePoint? (p : Progress) (value : Nat) (isByte : Bool) : Option Piece :=
  if value.isValidChar && (p.group.manner.unicode || !isByte || value < 128) then
    some (.literal (.ofNat value))
  else none

/-- Reads a piece that was put together, before the text `l`. -/
def readWhole (p : Progress) (x : Piece) (l : List Char) : Option Progress :=
  { p with lexing := .nothing }.readPiece x l

/-- Reads a character, before the text `l`. Blanks are not passed over after a backslash, but are so
    between the digits of a code point. -/
def read (p : Progress) (c : Char) (l : List Char) : Option Progress :=
  match p.lexing with
  | .comment back => some (if c = '\n' then { p with lexing := back } else p)
  | .escape =>
    let digits := fun more isByte => some { p with lexing := .digits more 0 isByte }
    match c with
    | 'x' => digits 1 true
    | 'u' => digits 3 false
    | 'U' => digits 7 false
    | c => (escaped? c).bind fun x => p.readWhole x l
  | lexing =>
    if p.skipsBlanks && Text.isBlank c then some (p.go p.place.afterBlank)
    else if p.skipsBlanks && c = '#' then
      some { p with lexing := .comment lexing, place := p.place.afterBlank }
    else
      match lexing with
      | .digits (more + 1) value isByte => do
        return { p with lexing := .digits more (16 * value + (← hexDigit? c)) isByte }
      | .digits 0 value isByte => do
        let x ← p.codePoint? (16 * value + (← hexDigit? c)) isByte
        p.readWhole x l
      | _ => if c = '\\' then some { p with lexing := .escape } else p.readPiece (.char c) l

/-! ## Patterns -/

/-- Whether a pattern can end here: all groups and classes are closed, no piece is left open, and it
    is not too deep. -/
def isComplete (p : Progress) : Bool :=
  let open? := match p.lexing with
    | .nothing | .comment .nothing => false
    | _ => true
  !open? && p.place.isEnd && p.outer.isEmpty && p.group.depth ≤ depthLimit

/-- Whether a text completes a pattern. -/
def completes (p : Progress) : List Char → Bool
  | [] => p.isComplete
  | c :: l =>
    match p.read c l with
    | some p => p.completes l
    | none => false

end Progress

/-- Whether a text is a pattern. -/
def isPattern (cs : List Char) : Bool :=
  Progress.completes {} cs

end SessionHub.Pattern
