import ForeignData.Text.Digits

/-!
# Binary floating-point numbers

Words of the two binary interchange formats, with their exact values: a word is not a number, an
infinity, or a signed natural number times a power of two. Every operation computes the exact value
over the integers and rounds once, to the nearest word, a tie to the even one.
-/

namespace ForeignData

/-- A binary format, by the widths of its fraction and exponent fields. -/
structure BinaryFormat where
  fractionBits : Nat
  exponentBits : Nat
  deriving DecidableEq

/-- The value of a word: a finite one is `± mantissa * 2 ^ exponent`. -/
inductive BinaryValue where
  | nan
  | infinite (negative : Bool)
  | finite (negative : Bool) (mantissa : Nat) (exponent : Int)
  deriving DecidableEq

def binary64 : BinaryFormat := ⟨52, 11⟩

def binary32 : BinaryFormat := ⟨23, 8⟩

namespace BinaryFormat

/-- The exponent of the smallest positive value. -/
def minExponent (f : BinaryFormat) : Int :=
  2 - twoPow (f.exponentBits - 1) - f.fractionBits

def infinityBits (f : BinaryFormat) : Nat :=
  (twoPow f.exponentBits - 1) * twoPow f.fractionBits

def signBit (f : BinaryFormat) : Nat :=
  twoPow (f.exponentBits + f.fractionBits)

def decode (f : BinaryFormat) (bits : Nat) : BinaryValue :=
  let fraction := bits % twoPow f.fractionBits
  let exponent := bits / twoPow f.fractionBits % twoPow f.exponentBits
  let negative := bits / f.signBit % 2 == 1
  if exponent = twoPow f.exponentBits - 1 then
    if fraction = 0 then .infinite negative else .nan
  else if exponent = 0 then
    .finite negative fraction f.minExponent
  else
    .finite negative (twoPow f.fractionBits + fraction) (f.minExponent + exponent - 1)

/-- The quotient rounded to the nearest integer, a tie to the even one. -/
def divHalfEven (num den : Nat) : Nat :=
  let q := num / den
  let r := 2 * (num % den)
  if den < r ∨ (r = den ∧ q % 2 = 1) then q + 1 else q

/-- The largest `e` with `2 ^ e ≤ num / den`, for positive arguments. -/
def floorLog2 (num den : Nat) : Int :=
  let e : Int := (Nat.log2 num : Int) - Nat.log2 den
  if den * twoPow e.toNat ≤ num * twoPow (-e).toNat then e else e - 1

/-- The word, without sign, that is nearest to `num / den`. -/
def round (f : BinaryFormat) (num den : Nat) : Nat :=
  if num = 0 then 0 else
  let q := max (floorLog2 num den - f.fractionBits) f.minExponent
  let m := divHalfEven (num * twoPow (-q).toNat) (den * twoPow q.toNat)
  min ((q - f.minExponent).toNat * twoPow f.fractionBits + m) f.infinityBits

/-- The word that is nearest to `± num / den`. -/
def ofRatio (f : BinaryFormat) (negative : Bool) (num den : Nat) : Nat :=
  f.round num den + if negative then f.signBit else 0

/-- The word that is nearest to `m * 2 ^ e`. -/
def ofDyadic (f : BinaryFormat) (m e : Int) : Nat :=
  f.ofRatio (m < 0) (m.natAbs * twoPow e.toNat) (twoPow (-e).toNat)

def ofInfinite (f : BinaryFormat) (negative : Bool) : Nat :=
  f.infinityBits + if negative then f.signBit else 0

/-- The word that stands for no number. -/
def nanBits (f : BinaryFormat) : Nat :=
  f.infinityBits + twoPow (f.fractionBits - 1)

def encode (f : BinaryFormat) : BinaryValue → Nat
  | .nan => f.nanBits
  | .infinite negative => f.ofInfinite negative
  | .finite negative m e => f.ofRatio negative (m * twoPow e.toNat) (twoPow (-e).toNat)

end BinaryFormat

namespace BinaryValue

/-- A finite value as an integer times a power of two. -/
def dyadic? : BinaryValue → Option (Int × Int)
  | .finite negative m e => some (if negative then -(m : Int) else m, e)
  | _ => none

def toInt? (x : BinaryValue) : Option Int := do
  let (m, e) ← x.dyadic?
  if 0 ≤ e then
    return m * twoPow e.toNat
  else if m % twoPow (-e).toNat = 0 then
    return m / twoPow (-e).toNat
  else
    none

/-- The greatest integer that is not above a finite value. -/
def floor? (x : BinaryValue) : Option Int := do
  let (m, e) ← x.dyadic?
  return m * twoPow e.toNat / twoPow (-e).toNat

/-- Whether a value is zero, of either sign. -/
def isZero : BinaryValue → Bool
  | .finite _ m _ => m == 0
  | _ => false

/-- The sum of two values; a finite one is exact. -/
def add : BinaryValue → BinaryValue → BinaryValue
  | .nan, _ => .nan
  | _, .nan => .nan
  | .infinite a, .infinite b => if a = b then .infinite a else .nan
  | .infinite a, .finite .. => .infinite a
  | .finite .., .infinite b => .infinite b
  | .finite a m e, .finite b n d =>
    let low := min e d
    let x : Int := (m : Int) * twoPow (e - low).toNat
    let y : Int := (n : Int) * twoPow (d - low).toNat
    let sum := (if a then -x else x) + (if b then -y else y)
    .finite (if sum = 0 then a && b else sum < 0) sum.natAbs low

def neg : BinaryValue → BinaryValue
  | .nan => .nan
  | .infinite negative => .infinite (!negative)
  | .finite negative m e => .finite (!negative) m e

/-- The product of two values; a finite one is exact. -/
def mul : BinaryValue → BinaryValue → BinaryValue
  | .nan, _ => .nan
  | _, .nan => .nan
  | .infinite a, .infinite b => .infinite (a != b)
  | .infinite a, .finite b n _ => if n = 0 then .nan else .infinite (a != b)
  | .finite a m _, .infinite b => if m = 0 then .nan else .infinite (a != b)
  | .finite a m e, .finite b n d => .finite (a != b) (m * n) (e + d)

/-- The order of two numbers; nothing is said of what is not a number. -/
def compare? : BinaryValue → BinaryValue → Option Ordering
  | .nan, _ => none
  | _, .nan => none
  | .infinite a, .infinite b => some (Ord.compare b a)
  | .infinite a, .finite .. => some (if a then .lt else .gt)
  | .finite .., .infinite b => some (if b then .gt else .lt)
  | .finite a m e, .finite b n d =>
    let low := min e d
    let x : Int := (m : Int) * twoPow (e - low).toNat
    let y : Int := (n : Int) * twoPow (d - low).toNat
    some (Ord.compare (if a then -x else x) (if b then -y else y))

def ofInt (i : Int) : BinaryValue :=
  .finite (i < 0) i.natAbs 0

end BinaryValue

/-- A word of 64 bits read as a floating-point number. -/
structure Binary64 where
  bits : UInt64
  deriving DecidableEq

/-- A word of 32 bits read as a floating-point number. -/
structure Binary32 where
  bits : UInt32
  deriving DecidableEq

namespace Binary64

def value (x : Binary64) : BinaryValue :=
  binary64.decode x.bits.toNat

def ofValue (v : BinaryValue) : Binary64 :=
  ⟨UInt64.ofNat (binary64.encode v)⟩

/-- The word nearest to `m * 2 ^ e`. -/
def ofDyadic (m e : Int) : Binary64 :=
  ⟨UInt64.ofNat (binary64.ofDyadic m e)⟩

/-- The word nearest to an integer. -/
def ofInt (i : Int) : Binary64 :=
  ofValue (.ofInt i)

def isNan (x : Binary64) : Bool :=
  x.value == .nan

def add (x y : Binary64) : Binary64 :=
  ofValue (x.value.add y.value)

def sub (x y : Binary64) : Binary64 :=
  ofValue (x.value.add y.value.neg)

def mul (x y : Binary64) : Binary64 :=
  ofValue (x.value.mul y.value)

def div (x y : Binary64) : Binary64 :=
  match x.value, y.value with
  | .nan, _ | _, .nan | .infinite _, .infinite _ => ofValue .nan
  | .infinite a, .finite b _ _ => ofValue (.infinite (a != b))
  | .finite a _ _, .infinite b => ofValue (.finite (a != b) 0 0)
  | .finite a m e, .finite b n d =>
    if n = 0 then
      ofValue (if m = 0 then .nan else .infinite (a != b))
    else
      ⟨UInt64.ofNat (binary64.ofRatio (a != b) (m * twoPow (e - d).toNat)
        (n * twoPow (d - e).toNat))⟩

/-- The integral part as a signed word of 64 bits, the nearest word where it is out of range. -/
def toInt64 (x : Binary64) : Int64 :=
  match x.value with
  | .nan => 0
  | .infinite negative => if negative then Int64.minValue else Int64.maxValue
  | .finite negative m e =>
    let n : Int := (m * twoPow e.toNat / twoPow (-e).toNat : Nat)
    Int64.ofIntClamp (if negative then -n else n)

end Binary64

namespace Binary32

def value (x : Binary32) : BinaryValue :=
  binary32.decode x.bits.toNat

def ofValue (v : BinaryValue) : Binary32 :=
  ⟨UInt32.ofNat (binary32.encode v)⟩

/-- The same number in the wider format. -/
def widen (x : Binary32) : Binary64 :=
  .ofValue x.value

end Binary32

/-- The nearest number of the narrower format. -/
def Binary64.narrow (x : Binary64) : Binary32 :=
  .ofValue x.value

end ForeignData
