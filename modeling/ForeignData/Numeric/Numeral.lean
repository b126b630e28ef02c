import ForeignData.Numeric.Binary
import ForeignData.Text.Digits

/-!
# Numerals with a point and an exponent

The reading of decimal numerals such as `-12.5e3` as an exact decimal, and of the texts of binary
numbers: a numeral, which is rounded once to the nearest number, or one of the words for infinity
and for no number in any case, with an optional sign.
-/

namespace ForeignData

/-- The number `± digits * 10 ^ exponent`. -/
structure Numeral where
  negative : Bool
  digits : Nat
  exponent : Int
  deriving DecidableEq

/-- An exponent: a sign and at least one digit. -/
def readExponent? : List Char → Option Int
  | [] => some 0
  | c :: s => if c = 'e' ∨ c = 'E' then readInt? s else none

/-- Digits with an optional point, at least one digit in all, and an optional exponent. -/
def readMagnitude? (negative : Bool) (s : List Char) : Option Numeral := do
  let (whole, rest) := spanDigits s
  let (fraction, rest) :=
    match rest with
    | '.' :: rest => spanDigits rest
    | rest => ([], rest)
  if whole = [] ∧ fraction = [] then
    none
  else
    let exponent ← readExponent? rest
    return ⟨negative, digitsValue (whole ++ fraction), exponent - fraction.length⟩

def readNumeral? (s : List Char) : Option Numeral :=
  let (negative, rest) := splitSign s
  readMagnitude? negative rest

/-- The nearest word of a format. Exponents beyond every format's range need no computation. -/
def Numeral.round (n : Numeral) (f : BinaryFormat) : Nat :=
  let place := (natText n.digits).length + n.exponent
  if n.digits = 0 ∨ place < -400 then
    f.ofRatio n.negative 0 1
  else if 400 < place then
    f.ofInfinite n.negative
  else
    f.ofRatio n.negative (n.digits * tenPow n.exponent.toNat) (tenPow (-n.exponent).toNat)

/-- The word that a text writes in a format. -/
def readBinary? (f : BinaryFormat) (s : List Char) : Option Nat :=
  let (negative, rest) := splitSign s
  let word := String.ofList (rest.map Char.toLower)
  if word = "nan" then
    some f.nanBits
  else if word = "inf" ∨ word = "infinity" then
    some (f.ofInfinite negative)
  else
    (readMagnitude? negative rest).map (Numeral.round · f)

/-- Read a number of 64 bits. -/
def readBinary64? (s : List Char) : Option Binary64 :=
  (readBinary? binary64 s).map fun bits => ⟨UInt64.ofNat bits⟩

/-- Read a number of 32 bits. -/
def readBinary32? (s : List Char) : Option Binary32 :=
  (readBinary? binary32 s).map fun bits => ⟨UInt32.ofNat bits⟩

end ForeignData
