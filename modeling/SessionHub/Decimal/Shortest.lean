import SessionHub.Decimal.Digits

set_option autoImplicit false

/-! # The shortest decimal that reads back as a given double

A positive double stands for the interval of reals that round to it. The decimal written for it is
the one with the fewest digits that lies in that interval, and of two such decimals the one nearer
to the double. Everything is exact arithmetic on natural numbers. -/

namespace SessionHub

/-- A positive decimal number `d₁.d₂…dₙ · 10 ^ exponent`, given by its digits without trailing
    zeros, `digits = d₁d₂…dₙ`. -/
structure Decimal where
  digits : Nat
  exponent : Int
  deriving Repr, DecidableEq

namespace Shortest

/-- The reals that round to a positive double, as fractions over one denominator: `low`, `value`
    and `high` are numerators, and the ends belong to the interval if `closed`. -/
structure Interval where
  low : Nat
  value : Nat
  high : Nat
  denominator : Nat
  closed : Bool

/-- The interval of the positive double with mantissa `m`, binary exponent `q` (its value is
    `m · 2 ^ q`), where `atPower` says that the next double below is nearer than the next above. -/
def interval (m : Nat) (q : Int) (atPower : Bool) : Interval :=
  let scale := 1 <<< (q - 2).toNat
  { low := (4 * m - (if atPower then 1 else 2)) * scale
    value := 4 * m * scale
    high := (4 * m + 2) * scale
    denominator := 1 <<< (2 - q).toNat
    closed := m % 2 == 0 }

/-- `10 ^ k`, and one if `k` is negative. -/
def tenTo (k : Int) : Nat :=
  Nat.pow 10 k.toNat

/-- Whether `c · 10 ^ k` lies in the interval. -/
def Interval.contains (i : Interval) (c : Nat) (k : Int) : Bool :=
  let point := c * tenTo k * i.denominator
  let scale := tenTo (-k)
  if i.closed then i.low * scale ≤ point && point ≤ i.high * scale
  else i.low * scale < point && point < i.high * scale

/-- The greatest `c` with `c · 10 ^ k` at most the value. -/
def Interval.floor (i : Interval) (k : Int) : Nat :=
  i.value * tenTo (-k) / (i.denominator * tenTo k)

/-- The number of decimal digits of `n`, zero having none. -/
def width (n : Nat) : Nat :=
  if n = 0 then 0 else (Nat.toDigits 10 n).length

/-- How many times a value below one has to be multiplied by ten until it is at least one, counted
    up from `j`, in at most `fuel` trials. -/
def leadingZeros (value denominator : Nat) : Nat → Nat → Nat
  | 0, j => j
  | fuel + 1, j =>
    if denominator ≤ value * tenTo j then j else leadingZeros value denominator fuel (j + 1)

/-- The decimal exponent of the first digit of the value. -/
def Interval.magnitude (i : Interval) : Int :=
  let whole := i.value / i.denominator
  if whole = 0 then -(leadingZeros i.value i.denominator 400 1 : Int) else width whole - 1

/-- The multiple of `10 ^ k` to write: the nearer of the value's two neighbours on that grid if
    both lie in the interval (the even one on a tie), the one that does otherwise. -/
def Interval.onGrid (i : Interval) (k : Int) : Option Nat :=
  let c := i.floor k
  match i.contains c k, i.contains (c + 1) k with
  | false, false => none
  | true, false => some c
  | false, true => some (c + 1)
  | true, true =>
    let point := (2 * c + 1) * tenTo k * i.denominator
    let twice := 2 * i.value * tenTo (-k)
    if twice < point then some c
    else if point < twice then some (c + 1)
    else some (if c % 2 = 0 then c else c + 1)

/-- Tries grids of `n`, `n + 1`, … digits. -/
def Interval.search (i : Interval) (magnitude : Int) : Nat → Nat → Nat × Int
  | 0, n => (i.floor (magnitude + 1 - n), magnitude + 1 - n)
  | fuel + 1, n =>
    let k := magnitude + 1 - n
    match i.onGrid k with
    | some c => (c, k)
    | none => i.search magnitude fuel (n + 1)

/-- Drops the trailing zeros of `c`, at most `fuel` of them, counting them into the exponent. -/
def trim : Nat → Nat → Int → Nat × Int
  | 0, c, k => (c, k)
  | fuel + 1, c, k => if c % 10 = 0 && c != 0 then trim fuel (c / 10) (k + 1) else (c, k)

end Shortest

/-- The interval of the positive finite double whose bits are `bits`. -/
def Shortest.intervalOfBits (bits : UInt64) : Shortest.Interval :=
  let field := (bits.toNat >>> 52) % (1 <<< 11)
  let fraction := bits.toNat % (1 <<< 52)
  if field = 0 then interval fraction (-1074) false
  else interval (fraction + (1 <<< 52)) (Int.ofNat field - 1075) (fraction == 0 && field > 1)

/-- The shortest decimal of the positive finite double whose bits are `bits`. -/
def Decimal.ofBits (bits : UInt64) : Decimal :=
  let i := Shortest.intervalOfBits bits
  let (c, k) := i.search i.magnitude 17 1
  let (digits, k) := Shortest.trim 20 c k
  { digits, exponent := k + Shortest.width digits - 1 }

end SessionHub
