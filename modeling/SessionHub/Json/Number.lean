import SessionHub.Decimal.Shortest

set_option autoImplicit false

/-! # JSON numbers

A number is a natural number below `2 ^ 64`, a negative integer not below `-2 ^ 63`, or a double.
Integers are written as their digits. Doubles are written with the fewest digits that read back,
and always with a point or an exponent, so that the text of a number tells its kind. -/

namespace SessionHub.Json

/-- A JSON number. A negative integer is kept as its magnitude. -/
inductive Number where
  | natural (n : UInt64)
  | negative (magnitude : { m : Nat // 0 < m ∧ m ≤ UInt64.size / 2 })
  | float (x : Float)

namespace Number

/-- Whether two numbers are of one kind and have one value; the two zeros of the doubles do. -/
protected def beq : Number → Number → Bool
  | natural m, natural n => m == n
  | negative m, negative n => m == n
  | float x, float y => x == y
  | _, _ => false

instance : BEq Number := ⟨Number.beq⟩

/-- Whether the number is an integer. -/
def IsInteger : Number → Prop
  | float _ => False
  | _ => True

instance : DecidablePred IsInteger
  | natural _ => isTrue trivial
  | negative _ => isTrue trivial
  | float _ => isFalse id

/-- The greatest decimal exponent of the first digit that is written without an exponent. -/
def greatestPlain : Int := 15

/-- The least decimal exponent of the first digit that is written without an exponent. -/
def leastPlain : Int := -5

/-- The text of a positive decimal: plain between `leastPlain` and `greatestPlain`, with a point in
    either case, and in scientific notation beyond, where the exponent always has a sign. -/
def writeDecimal (d : Decimal) : Bytes :=
  let digits := Digits.write d.digits
  let point := Bytes.ascii '.'
  let zero := Bytes.ascii '0'
  if leastPlain ≤ d.exponent ∧ d.exponent ≤ greatestPlain then
    if d.exponent < 0 then
      zero :: point :: List.replicate (-d.exponent - 1).toNat zero ++ digits
    else
      let whole := d.exponent.toNat + 1
      if digits.length ≤ whole then
        digits ++ List.replicate (whole - digits.length) zero ++ [point, zero]
      else digits.take whole ++ point :: digits.drop whole
  else
    let fraction := if digits.length ≤ 1 then [] else point :: digits.drop 1
    let sign := Bytes.ascii (if d.exponent < 0 then '-' else '+')
    digits.take 1 ++ fraction ++ Bytes.ascii 'e' :: sign :: Digits.write d.exponent.natAbs

/-- The text of a double. What is not finite has no JSON text and is written as `null`. -/
def writeFloat (x : Float) : Bytes :=
  if x.isFinite then
    let sign := if x.toBits ≥ 0x8000000000000000 then [Bytes.ascii '-'] else []
    let magnitude := x.toBits % 0x8000000000000000
    sign ++ if magnitude = 0 then Bytes.ofString "0.0" else writeDecimal (Decimal.ofBits magnitude)
  else Bytes.ofString "null"

/-- The text of a number. -/
def write : Number → Bytes
  | natural n => Digits.write n.toNat
  | negative m => Bytes.ascii '-' :: Digits.write m.val
  | float x => writeFloat x

end Number

end SessionHub.Json
