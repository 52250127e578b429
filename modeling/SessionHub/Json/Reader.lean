import SessionHub.Json.Numeral
import SessionHub.Json.StringBody

set_option autoImplicit false

/-! # Reading JSON

A value is read in one pass. At most `nestingLimit` brackets may be open at a time; `read budget`
accepts what nests at most `budget` deep. Arrays and objects are read element by element and member
by member through `readElements` and `readMembers`, which serve every reader of brackets. -/

namespace SessionHub.Json

/-- How many brackets may be open at a time. -/
def nestingLimit : Nat := 127

/-! ## Arrays -/

/-- Where an array goes on after an element or after its opening bracket. -/
inductive NextElement where
  | closed (rest : Bytes)
  | element (s : Bytes)

/-- Looks for the next element; `first` says that the bracket has just been opened. -/
def nextElement (first : Bool) (s : Bytes) : Except Failure NextElement :=
  match skipBlank s with
  | [] => refuse (.endOfText .list)
  | b :: rest =>
    if b = Mark.closeArray then .ok (.closed rest)
    else if first then .ok (.element (b :: rest))
    else if b = Mark.comma then
      match skipBlank rest with
      | [] => refuse (.endOfText .value)
      | c :: rest =>
        if c = Mark.closeArray then refuse .trailingComma else .ok (.element (c :: rest))
    else refuse .expectedListEnd

/-- Reads elements up to and with the closing bracket. There are fewer elements than bytes, so
    the number of bytes is enough `fuel`. -/
def readElements {α : Type} (element : Reader α) :
    Nat → Bool → Reader (List α)
  | 0, _, _ => refuse (.endOfText .list)
  | fuel + 1, first, s => do
    match ← nextElement first s with
    | .closed rest => .ok ([], rest)
    | .element s =>
      let (v, rest) ← element s
      let (more, rest) ← readElements element fuel false rest
      .ok (v :: more, rest)

/-- Reads an array after its opening bracket. -/
def readArray {α : Type} (element : Reader α) (s : Bytes) : Except Failure (List α × Bytes) :=
  readElements element (s.length + 1) true s

/-! ## Objects -/

/-- Where an object goes on after a member or after its opening bracket. -/
inductive NextMember where
  | closed (rest : Bytes)
  | member (name : String) (rest : Bytes)

/-- Looks for the next name; `first` says that the bracket has just been opened. -/
def nextMember (first : Bool) (s : Bytes) : Except Failure NextMember :=
  match skipBlank s with
  | [] => refuse (.endOfText .object)
  | b :: rest =>
    if b = Mark.closeObject then .ok (.closed rest)
    else if first then
      if b = Mark.quote then name rest else refuse .keyMustBeString
    else if b = Mark.comma then
      match skipBlank rest with
      | [] => refuse (.endOfText .value)
      | c :: rest =>
        if c = Mark.quote then name rest
        else if c = Mark.closeObject then refuse .trailingComma
        else refuse .keyMustBeString
    else refuse .expectedObjectEnd
where
  /-- Reads a name after its opening quote. -/
  name (s : Bytes) : Except Failure NextMember := do
    let (name, rest) ← readString s
    .ok (.member name rest)

/-- Takes the colon between a name and its value. -/
def readColon (s : Bytes) : Except Failure Bytes :=
  match skipBlank s with
  | [] => refuse (.endOfText .object)
  | b :: rest => if b = Mark.colon then .ok rest else refuse .expectedColon

/-- Reads members up to and with the closing bracket, each by `member`, which is handed what the
    members before it gave and starts in front of the colon. There are fewer members than bytes,
    so the number of bytes is enough `fuel`. -/
def readMembers {σ : Type} (member : σ → String → Reader σ) :
    Nat → Bool → σ → Reader σ
  | 0, _, _, _ => refuse (.endOfText .object)
  | fuel + 1, first, acc, s => do
    match ← nextMember first s with
    | .closed rest => .ok (acc, rest)
    | .member name s =>
      let (acc, rest) ← member acc name s
      readMembers member fuel false acc rest

/-- Reads an object after its opening bracket. -/
def readObject {σ : Type} (member : σ → String → Reader σ) (acc : σ) (s : Bytes) :
    Except Failure (σ × Bytes) :=
  readMembers member (s.length + 1) true acc s

/-! ## Values -/

/-- Reads a value by its first byte: a scalar here, brackets by `array` and `object`, which start
    after the opening bracket. -/
def dispatch {α : Type} (scalar : Json → Except Failure α) (array object : Reader α)
    (s : Bytes) : Except Failure (α × Bytes) :=
  match skipBlank s with
  | [] => refuse (.endOfText .value)
  | b :: rest =>
    if b = Mark.openArray then array rest
    else if b = Mark.openObject then object rest
    else do
      let (v, rest) ←
        (if b = Bytes.ascii 'n' then do
          .ok (null, ← readWord (Bytes.ofString "ull") rest)
        else if b = Bytes.ascii 't' then do
          .ok (bool true, ← readWord (Bytes.ofString "rue") rest)
        else if b = Bytes.ascii 'f' then do
          .ok (bool false, ← readWord (Bytes.ofString "alse") rest)
        else if b = Mark.quote then do
          let (t, rest) ← readString rest
          .ok (string t, rest)
        else if b = Mark.minus || Digits.isDigit b then do
          let (n, rest) ← Number.read (b :: rest)
          .ok (number n, rest)
        else refuse .expectedValue : Except Failure (Json × Bytes))
      .ok (← scalar v, rest)

/-- Reads one more member of an object, its value by `value`. -/
def readMember (value : Reader Json) (members : List (String × Json)) (name : String)
    (s : Bytes) : Except Failure (List (String × Json) × Bytes) := do
  let (v, rest) ← value (← readColon s)
  .ok (members ++ [(name, v)], rest)

/-- Reads a value that nests at most `budget` deep. -/
def read : Nat → Reader Json
  | 0 => dispatch .ok (fun _ => refuse .tooDeep) (fun _ => refuse .tooDeep)
  | budget + 1 =>
    dispatch .ok
      (fun s => do
        let (elements, rest) ← readArray (read budget) s
        .ok (array elements, rest))
      (fun s => do
        let (members, rest) ← readObject (readMember (read budget)) [] s
        .ok (object members, rest))

/-- Reads a scalar of the sort sought. Brackets are refused without a look inside. -/
def readScalar {α : Type} (sought : Sought) (scalar : Json → Except Failure α) (s : Bytes) :
    Except Failure (α × Bytes) :=
  dispatch scalar (fun _ => mismatch (.invalidType .sequence sought))
    (fun _ => mismatch (.invalidType .map sought)) s

/-- Accepts blanks only. -/
def readEnd (s : Bytes) : Except Failure Unit :=
  match skipBlank s with
  | [] => .ok ()
  | _ => refuse .trailingCharacters

/-- Reads a whole text by `value`. -/
def readAll {α : Type} (value : Reader α) (s : Bytes) : Except Failure α := do
  let (v, rest) ← value s
  readEnd rest
  .ok v

/-! ## Scalars of a given sort -/

/-- The unsigned integer that a value is. -/
def unsigned (width : Width) (v : Json) : Except Failure Nat :=
  match v with
  | number (.natural n) =>
    if n.toNat < width.bound then .ok n.toNat else mismatch (.invalidValue n.toNat width)
  | number (.negative m) => mismatch (.invalidValue (-(m.val : Int)) width)
  | v => mismatch (.invalidType (.ofJson v) (.unsigned width))

/-- The string that a value is. -/
def stringOf (v : Json) : Except Failure String :=
  match v with
  | string s => .ok s
  | v => mismatch (.invalidType (.ofJson v) .text)

end SessionHub.Json
