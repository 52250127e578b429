import SessionHub.Json.Reading

set_option autoImplicit false

/-! # Reading numbers

The digits of a number are gathered in a significand below `2 ^ 64`. As soon as a digit would take
it to `2 ^ 64` or beyond, that digit and those after it are dropped: in front of the point each one
counts into the decimal exponent, after it they are ignored. Integers that fit are kept exactly.
Everything else is the double next to the significand, multiplied by or divided by powers of ten in
double arithmetic; it need not be the double next to the number written. -/

namespace SessionHub.Json.Number

/-! ## The double for a significand and an exponent -/

/-- The double next to `10 ^ n`. -/
def powerOfTen (n : Nat) : Float :=
  Float.ofScientific 1 false n

/-- Divides `x` by `10 ^ n`, by at most `10 ^ 308` at a time. -/
def scaleDown (x : Float) (n : Nat) : Float :=
  if n ≤ 308 then x / powerOfTen n
  else if x == 0 then x
  else scaleDown (x / powerOfTen 308) (n - 308)
termination_by n

/-- The double read for `m · 10 ^ exponent`. -/
def ofParts (isNegative : Bool) (m : Nat) (exponent : Int) : Except Failure Float :=
  let x := m.toUInt64.toFloat
  let signed (y : Float) := if isNegative then -y else y
  match exponent with
  | .ofNat e =>
    if 308 < e then
      if x == 0 then .ok (signed x) else refuse .numberOutOfRange
    else
      let y := x * powerOfTen e
      if y.isInf then refuse .numberOutOfRange else .ok (signed y)
  | .negSucc e => .ok (signed (scaleDown x (e + 1)))

/-- The number read for an integer without point and exponent. Minus zero is a double, and so is
    what lies below `-2 ^ 63`. -/
def ofInteger (isNegative : Bool) (m : Nat) : Number :=
  if isNegative then
    if h : 0 < m ∧ m ≤ UInt64.size / 2 then negative ⟨m, h⟩ else float (-m.toUInt64.toFloat)
  else natural m.toUInt64

/-! ## The text -/

/-- The significand `m` continued by the digits at the front as long as it stays below `2 ^ 64`,
    how many digits that were, and what follows them. -/
def extend (m : Nat) : Bytes → Nat × Nat × Bytes
  | [] => (m, 0, [])
  | b :: rest =>
    if Digits.isDigit b && 10 * m + Digits.value b < UInt64.size then
      let (m, taken, rest) := extend (10 * m + Digits.value b) rest
      (m, taken + 1, rest)
    else (m, 0, b :: rest)

/-- Reads an exponent after its letter. -/
def readExponent (isNegative : Bool) (m : Nat) (exponent : Int) (s : Bytes) :
    Except Failure (Number × Bytes) :=
  let (down, s) :=
    match s with
    | b :: rest =>
      if b = Mark.plus then (false, rest)
      else if b = Mark.minus then (true, rest)
      else (false, s)
    | [] => (false, s)
  match s with
  | [] => refuse (.endOfText .value)
  | b :: _ =>
    if Digits.isDigit b then do
      let (e, rest) := readDigits 0 s
      let x ← ofParts isNegative m (if down then exponent - e else exponent + e)
      .ok (float x, rest)
    else refuse .invalidNumber

/-- Reads a fraction after its point. -/
def readFraction (isNegative : Bool) (m : Nat) (exponent : Int) (s : Bytes) :
    Except Failure (Number × Bytes) :=
  match s with
  | [] => refuse (.endOfText .value)
  | b :: _ =>
    if Digits.isDigit b then
      let (m, taken, rest) := extend m s
      let rest := (skipDigits rest).2
      let double : Except Failure (Number × Bytes) := do
        let x ← ofParts isNegative m (exponent - taken)
        .ok (float x, rest)
      match rest with
      | [] => double
      | b :: rest =>
        if Mark.isExponent b then readExponent isNegative m (exponent - taken) rest else double
    else refuse .invalidNumber

/-- Reads what may follow the digits in front of the point, `dropped` of which were dropped. -/
def readTail (isNegative : Bool) (m dropped : Nat) (s : Bytes) : Except Failure (Number × Bytes) :=
  let integer : Except Failure (Number × Bytes) :=
    if dropped = 0 then .ok (ofInteger isNegative m, s)
    else do
      let x ← ofParts isNegative m dropped
      .ok (float x, s)
  match s with
  | [] => integer
  | b :: rest =>
    if b = Mark.point then readFraction isNegative m dropped rest
    else if Mark.isExponent b then readExponent isNegative m dropped rest
    else integer

/-- Reads a number after its sign. A zero in front of another digit is refused. -/
def readUnsigned (isNegative : Bool) (s : Bytes) : Except Failure (Number × Bytes) :=
  match s with
  | [] => refuse (.endOfText .value)
  | b :: rest =>
    if b = Mark.zero then
      match rest with
      | [] => readTail isNegative 0 0 rest
      | c :: _ =>
        if Digits.isDigit c then refuse .invalidNumber else readTail isNegative 0 0 rest
    else if Digits.isDigit b then
      let (m, _, rest) := extend 0 s
      let (dropped, rest) := skipDigits rest
      readTail isNegative m dropped rest
    else refuse .invalidNumber

/-- Reads a number that starts with a sign or a digit. -/
def read (s : Bytes) : Except Failure (Number × Bytes) :=
  match s with
  | [] => refuse (.endOfText .value)
  | b :: rest => if b = Mark.minus then readUnsigned true rest else readUnsigned false s

end SessionHub.Json.Number
