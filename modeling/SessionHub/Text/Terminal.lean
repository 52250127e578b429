set_option autoImplicit false

/-! # Text without the orders to a terminal

A text can hold orders to the terminal that shows it: control characters, and sequences that start
with an escape. `plain` is what is left of a text when the orders are taken out of it. -/

namespace SessionHub.Text

/-- Where in a text a scanner for terminal orders is. -/
inductive OrderPhase where
  /-- In no sequence. -/
  | outside
  /-- After an escape. -/
  | escape
  /-- In a sequence that ends with its first digit or letter. -/
  | designation
  /-- In a sequence with parameters, such as a colour. -/
  | parameters
  /-- Before the parameters of a text to the device. -/
  | device
  /-- In those parameters. -/
  | deviceParameters
  /-- After those parameters. -/
  | deviceOperation
  /-- In a text to the device, which ends with the next sequence. -/
  | message
  /-- In a title, which ends with a bell, too. -/
  | title
  deriving DecidableEq, Repr

namespace OrderPhase

/-- The phase after an ASCII character that no phase treats in its own way. -/
def next : OrderPhase → Nat → OrderPhase
  | outside, _ => outside
  | escape, n =>
    if n < 0x20 ∨ n = 0x7F then escape
    else if n < 0x30 then designation
    else if n = 0x5B then parameters
    else if n = 0x5D then title
    else if n = 0x50 then device
    else if n = 0x58 ∨ n = 0x5E ∨ n = 0x5F then message
    else outside
  | designation, n => if n < 0x30 ∨ n = 0x7F then designation else outside
  | parameters, n => if n < 0x40 ∨ n = 0x7F then parameters else outside
  | device, n =>
    if n < 0x20 ∨ n = 0x7F then device
    else if n < 0x30 then deviceOperation
    else if n < 0x40 then deviceParameters
    else message
  | deviceParameters, n =>
    if n < 0x20 ∨ n = 0x7F then deviceParameters
    else if n < 0x30 then deviceOperation
    else if n < 0x3C then deviceParameters
    else message
  | deviceOperation, n => if n < 0x30 ∨ n = 0x7F then deviceOperation else message
  | message, _ => message
  | title, n => if n = 0x07 then outside else title

/-- Whether a blank is taken for an order. It is part of the text elsewhere and ends a sequence. -/
def keepsBlanks : OrderPhase → Bool
  | device | deviceParameters | deviceOperation | message | title => true
  | _ => false

/-- The byte that ends a text to the device, also as part of a longer character. -/
def terminator : UInt8 := 0x9C

/-- The phase after a character beyond ASCII. -/
def afterWide (p : OrderPhase) (c : Char) : OrderPhase :=
  if p = message ∧ terminator ∈ String.utf8EncodeChar c then outside else p

/-- Reads one character: the phase after it, and what is left of it.

    Escape, cancel and substitute end every sequence. Characters beyond ASCII are part of the text
    outside of sequences only. -/
def read (p : OrderPhase) (c : Char) : OrderPhase × List Char :=
  let n := c.toNat
  if n = 0x1B then (escape, [])
  else if n = 0x18 ∨ n = 0x1A then (outside, [])
  else if 0x80 ≤ n then (p.afterWide c, if p = outside then [c] else [])
  else if (n = 0x09 ∨ n = 0x0A ∨ n = 0x0C ∨ n = 0x0D) ∧ !p.keepsBlanks then (outside, [c])
  else if p = outside ∧ 0x20 ≤ n ∧ n < 0x7F then (outside, [c])
  else (p.next n, [])

/-- What is left of a text that is read from a phase on. -/
def remains (p : OrderPhase) : List Char → List Char
  | [] => []
  | c :: rest =>
    let (p, left) := p.read c
    left ++ remains p rest

end OrderPhase

/-- `s` without the orders to a terminal. -/
def plain (s : String) : String :=
  String.ofList (OrderPhase.outside.remains s.toList)

end SessionHub.Text
