import SessionHub.Bytes
import SessionHub.Log.Level
import SessionHub.Log.Pattern

set_option autoImplicit false

/-! # Directives

A directive gives a threshold for records. It is for records about targets that start with a given
text, or that have a given field, or both, or for everything:

    threshold
    target
    target=threshold
    target[span{field=pattern}]=threshold

A target alone has everything wanted. A directive with a span, or with a pattern, is for records
inside such spans only. -/

namespace SessionHub

/-- A directive. -/
structure Directive where
  /-- How the targets start that it is for. It is for all of them if this is missing. -/
  target : Option String := none
  /-- The field that a record needs, if it needs one. -/
  field : Option String := none
  /-- Whether it is for records inside certain spans only. -/
  confined : Bool := false
  threshold : Threshold := .upTo .trace
  deriving DecidableEq, Repr

namespace Directive

/-- A directive for everything. -/
def overall (threshold : Threshold) : Directive :=
  { threshold }

/-- A directive for the targets that start with `target`. -/
def about (target : String) (threshold : Threshold) : Directive :=
  { target := some target, threshold }

/-- Whether a directive is for a record about a target that has given fields and is in no span. -/
def covers (d : Directive) (target : String) (fields : List String) : Bool :=
  !d.confined && d.target.all (fun t => t.toList.isPrefixOf target.toList)
    && d.field.all fields.contains

/-- How narrow a directive is by its target. -/
def reach (d : Directive) : Nat :=
  match d.target with
  | none => 0
  | some t => t.utf8ByteSize + 1

/-- Whether a directive is not narrower than another one. The target counts before the field. -/
def isNoNarrower (d e : Directive) : Bool :=
  d.reach < e.reach || (d.reach = e.reach && (d.field.isNone || e.field.isSome))

/-! ## Reading -/

/-- What is still to be read of a directive. Blanks at its two ends are passed over in `ahead`,
    where the marks between pieces are looked for, but not in `text`, which the pieces are cut from
    at the same bytes. So a directive that starts with a blank has its pieces out of step. -/
structure Rest where
  ahead : List Char
  text : Bytes

namespace Rest

/-- What is to be read of a whole directive. -/
def ofString (s : String) : Rest :=
  { ahead := (Text.trim s).toList, text := Bytes.ofString s }

/-- How many bytes the next `n` characters have. -/
def size (r : Rest) (n : Nat) : Nat :=
  (String.ofList (r.ahead.take n)).utf8ByteSize

/-- What is left after `n` characters. -/
def drop (r : Rest) (n : Nat) : Rest :=
  { ahead := r.ahead.drop n, text := r.text.drop (r.size n) }

/-- The piece up to the first of some marks, that mark, and what is left after it. Without a mark
    the piece is all there is. A piece out of step that is no text cannot be read. -/
def cut? (r : Rest) (marks : List Char) : Option (String × Option Char × Rest) :=
  let n := (r.ahead.takeWhile (!marks.contains ·)).length
  match r.ahead[n]? with
  | some mark => (Bytes.text? (r.text.take (r.size n))).map (·, some mark, r.drop (n + 1))
  | none => (Bytes.text? r.text).map (·, none, ⟨[], []⟩)

end Rest

/-- Whether a directive may start with a character. -/
def startsWith (c : Char) : Bool :=
  Text.isLetterOrNumber c || ['-', ':', '_'].contains c

/-- Whether a text is a decimal number with a plus sign. -/
def isPositive (cs : List Char) : Bool :=
  match cs with
  | '+' :: cs =>
    let whole := cs.takeWhile Char.isDigit
    let (fraction, rest) := match cs.dropWhile Char.isDigit with
      | '.' :: cs => (cs.takeWhile Char.isDigit, cs.dropWhile Char.isDigit)
      | cs => ([], cs)
    let exponent := match rest with
      | [] => true
      | e :: '+' :: cs | e :: '-' :: cs | e :: cs =>
        (e = 'e' || e = 'E') && !cs.isEmpty && cs.all Char.isDigit
    (exponent && !(whole ++ fraction).isEmpty)
      || ["inf", "infinity", "nan"].contains (Text.asciiLower (String.ofList cs))
  | _ => false

/-- Whether a field may be asked to have a value: a number, or a pattern of texts. A number is a
    pattern, too, unless it has a plus sign. -/
def isValue (cs : List Char) : Bool :=
  isPositive cs || Pattern.isPattern cs

/-- Reads the threshold that a directive ends with. Nothing at all stands for everything. -/
def readThreshold? (d : Directive) (r : Rest) : Option Directive :=
  if r.text.isEmpty then some d
  else ((Bytes.text? r.text).bind Threshold.read?).map fun threshold => { d with threshold }

/-- Reads what follows the span of a directive. -/
def readEnd? (d : Directive) (r : Rest) : Option Directive :=
  match r.ahead with
  | [] => some d
  | '=' :: _ => readThreshold? d (r.drop 1)
  | _ => none

/-- Adds a field to a directive: its name and, after an equals sign, its value. What follows a
    second equals sign does not matter. -/
def addField? (d : Directive) (field : List Char) : Option Directive :=
  let d := { d with field := some (String.ofList (field.takeWhile (· ≠ '='))) }
  match field.dropWhile (· ≠ '=') with
  | [] => some d
  | _ :: value =>
    if isValue (value.takeWhile (· ≠ '=')) then some { d with confined := true } else none

/-- Reads the field of a directive, after its opening brace. -/
def readField? (d : Directive) (r : Rest) : Option Directive :=
  match r.cut? ['\x7d'] with
  | some (field, some _, r) =>
    if field.isEmpty then none
    else
      match addField? d field.toList, r.ahead with
      | some d, ']' :: _ => readEnd? d (r.drop 1)
      | _, _ => none
  | _ => none

/-- Reads the span of a directive, after its opening bracket. -/
def readSpan? (d : Directive) (r : Rest) : Option Directive :=
  match r.cut? [']', '\x7b'] with
  | some (_, some ']', r) => readEnd? { d with confined := true } r
  | some (span, some _, r) => readField? { d with confined := !span.isEmpty } r
  | _ => none

/-- Reads a directive. -/
def read? (s : String) : Option Directive :=
  let r := Rest.ofString s
  match r.ahead with
  | [] => none
  | '[' :: _ => readSpan? {} (r.drop 1)
  | c :: _ =>
    if !startsWith c then none
    else
      match r.cut? ['=', '['] with
      | some (target, none, _) =>
        match Threshold.read? target with
        | some threshold => some (overall threshold)
        | none => some { target }
      | some (target, some '=', r) => readThreshold? { target } r
      | some (target, some _, r) => readSpan? { target } r
      | none => none

end Directive

end SessionHub
