import SessionHub.Decimal.Digits

set_option autoImplicit false

/-! # IP addresses

Reads and writes the addresses of both versions of the Internet Protocol. An address of version 4
has four decimal parts without leading zeros. An address of version 6 has eight hexadecimal groups;
the last two may be written as an address of version 4, and one run of zero groups may be left out.
What is written is the canonical form: the longest such run is left out. -/

namespace SessionHub

/-- An IP address. -/
inductive IpAddress where
  | v4 (parts : List UInt8)
  | v6 (groups : List UInt16)
  deriving DecidableEq, Repr

namespace IpAddress

/-- The address by which a host reaches itself. -/
def localhost : IpAddress :=
  v4 [127, 0, 0, 1]

/-! ## Reading -/

/-- The value of a hexadecimal digit. -/
def hexValue? (c : Char) : Option Nat :=
  if c.isDigit then some (c.toNat - '0'.toNat)
  else if 'a' ≤ c ∧ c ≤ 'f' then some (c.toNat - 'a'.toNat + 10)
  else if 'A' ≤ c ∧ c ≤ 'F' then some (c.toNat - 'A'.toNat + 10)
  else none

/-- The pieces of a text between separators. -/
def split (separator : Char) : List Char → List (List Char)
  | [] => [[]]
  | c :: cs =>
    if c = separator then [] :: split separator cs
    else match split separator cs with
      | piece :: pieces => (c :: piece) :: pieces
      | [] => [[c]]

/-- Reads a part of an address of version 4. -/
def readPart? (cs : List Char) : Option UInt8 :=
  if cs.length ≤ 3 ∧ (cs.head? = some '0' → cs.length = 1) then
    (Digits.read? cs).bind fun n => if n < 256 then some n.toUInt8 else none
  else none

/-- Reads the parts of an address of version 4. -/
def readParts? (cs : List Char) : Option (List UInt8) :=
  let pieces := split '.' cs
  if pieces.length = 4 then pieces.mapM readPart? else none

/-- Reads a group of an address of version 6. -/
def readGroup? (cs : List Char) : Option UInt16 :=
  if cs.isEmpty ∨ 4 < cs.length then none
  else (cs.mapM hexValue?).map fun ds => (ds.foldl (fun n d => 16 * n + d) 0).toUInt16

/-- Two parts of an address of version 4 as one group. -/
def joinParts (a b : UInt8) : UInt16 :=
  a.toUInt16 * 256 + b.toUInt16

/-- Reads groups that stand one after the other. If `last`, what comes last may be an address of
    version 4. -/
def readGroups? (last : Bool) : List (List Char) → Option (List UInt16)
  | [] => some []
  | [piece] =>
    match last, readParts? piece with
    | true, some [a, b, c, d] => some [joinParts a b, joinParts c d]
    | _, _ => (readGroup? piece).map ([·])
  | piece :: pieces => do
    let group ← readGroup? piece
    let groups ← readGroups? last pieces
    some (group :: groups)

/-- The groups of a text, which may be empty. -/
def readSide? (last : Bool) (cs : List Char) : Option (List UInt16) :=
  if cs.isEmpty then some [] else readGroups? last (split ':' cs)

/-- Splits a text at the first place where two colons stand. -/
def splitAtGap? : List Char → Option (List Char × List Char)
  | ':' :: ':' :: rest => some ([], rest)
  | c :: cs => (splitAtGap? cs).map fun (before, after) => (c :: before, after)
  | [] => none

/-- Reads the groups of an address of version 6. -/
def readAllGroups? (cs : List Char) : Option (List UInt16) :=
  match splitAtGap? cs with
  | none =>
    (readGroups? true (split ':' cs)).bind fun groups =>
      if groups.length = 8 then some groups else none
  | some (before, after) => do
    let front ← readSide? false before
    let back ← readSide? true after
    let given := front.length + back.length
    if given < 8 then some (front ++ List.replicate (8 - given) 0 ++ back) else none

/-- Reads an address. -/
def read? (s : String) : Option IpAddress :=
  match readParts? s.toList with
  | some parts => some (v4 parts)
  | none => (readAllGroups? s.toList).map v6

/-! ## Writing -/

/-- Writes parts. -/
def writeParts (parts : List UInt8) : String :=
  ".".intercalate (parts.map fun p => toString p.toNat)

/-- Writes groups with colons between them. -/
def writeGroups (groups : List UInt16) : String :=
  ":".intercalate (groups.map fun g => String.ofList (Nat.toDigits 16 g.toNat))

/-- How many groups at the start are zero. -/
def leadingZeros (groups : List UInt16) : Nat :=
  (groups.takeWhile (· = 0)).length

/-- Where the longest run of zero groups starts and how long it is. Of several that are equally long
    it is the first. -/
def longestRun (groups : List UInt16) : Nat × Nat :=
  (List.range groups.length).foldl
    (fun best i =>
      let n := leadingZeros (groups.drop i)
      if best.2 < n then (i, n) else best)
    (0, 0)

/-- Writes the groups of an address of version 6. -/
def writeAllGroups (groups : List UInt16) : String :=
  match groups with
  | [0, 0, 0, 0, 0, 0xFFFF, a, b] =>
    "::ffff:" ++ writeParts [(a / 256).toUInt8, a.toUInt8, (b / 256).toUInt8, b.toUInt8]
  | groups =>
    let (start, n) := longestRun groups
    if n < 2 then writeGroups groups
    else writeGroups (groups.take start) ++ "::" ++ writeGroups (groups.drop (start + n))

/-- An address in its canonical form. -/
def write : IpAddress → String
  | v4 parts => writeParts parts
  | v6 groups => writeAllGroups groups

/-- An address and a port. -/
def writeWithPort (a : IpAddress) (port : Nat) : String :=
  match a with
  | v4 _ => a.write ++ ":" ++ toString port
  | v6 _ => "[" ++ a.write ++ "]:" ++ toString port

end IpAddress

end SessionHub
