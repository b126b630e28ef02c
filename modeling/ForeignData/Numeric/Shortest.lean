import ForeignData.Numeric.Binary
import ForeignData.Text.Digits

/-!
# Shortest decimal text of a binary number

A finite positive binary number is written with the fewest significant digits that read back as the
same number. Of several such decimals the nearest is taken, and of two equally near ones the
greater. The layout is positional: zeros fill the places up to the point, and there is no exponent.
-/

namespace ForeignData

/-- The positive decimal `digits * 10 ^ exponent`. -/
structure DecimalDigits where
  digits : Nat
  exponent : Int
  deriving DecidableEq

/-- The exponent of the leading decimal digit of `num / den`, for positive arguments. -/
def leadingPlace (num den : Nat) : Int :=
  if den ≤ num then
    (natText (num / den)).length - 1
  else
    -(natText ((den - 1) / num)).length

/-- The numbers that read back as `m * 2 ^ e`, in quarters of `2 ^ e`: the lower end, the upper end,
and whether the ends belong to it. -/
def readBackRange (f : BinaryFormat) (m : Nat) (e : Int) : Nat × Nat × Bool :=
  let low := if m = twoPow f.fractionBits ∧ f.minExponent < e then 4 * m - 1 else 4 * m - 2
  (low, 4 * m + 2, m % 2 == 0)

/-- Whether `d * 10 ^ g` lies between the ends, given in units of `num / den`. -/
def withinRange (range : Nat × Nat × Bool) (num den d : Nat) (g : Int) : Bool :=
  let x := d * tenPow g.toNat * den
  let unit := num * tenPow (-g).toNat
  if range.2.2 then
    range.1 * unit ≤ x && x ≤ range.2.1 * unit
  else
    range.1 * unit < x && x < range.2.1 * unit

/-- Try grids of ten, each finer than the last; `num / den` is a quarter of `2 ^ e`. -/
def shortestFrom (range : Nat × Nat × Bool) (m num den : Nat) : Nat → Int → DecimalDigits
  | 0, g => ⟨4 * m * num * tenPow (-g).toNat / (den * tenPow g.toNat), g⟩
  | steps + 1, g =>
    let top := 4 * m * num * tenPow (-g).toNat
    let unit := den * tenPow g.toNat
    let d := top / unit
    match withinRange range num den d g, withinRange range num den (d + 1) g with
    | true, true => if 2 * (top % unit) < unit then ⟨d, g⟩ else ⟨d + 1, g⟩
    | true, false => ⟨d, g⟩
    | false, true => ⟨d + 1, g⟩
    | false, false => shortestFrom range m num den steps (g - 1)

/-- The shortest decimal that reads back as `m * 2 ^ e`, for positive `m`. -/
def shortest (f : BinaryFormat) (m : Nat) (e : Int) : DecimalDigits :=
  let num := twoPow (e - 2).toNat
  let den := twoPow (2 - e).toNat
  shortestFrom (readBackRange f m e) m num den 17 (leadingPlace (4 * m * num) den)

/-- Drop zeros at the end of the digits. -/
def DecimalDigits.strip (d : DecimalDigits) : DecimalDigits :=
  if d.digits % 10 = 0 ∧ d.digits ≠ 0 then
    strip ⟨d.digits / 10, d.exponent + 1⟩
  else d
termination_by d.digits

/-- Digits with a point `places` from the right, zeros in front so that one digit precedes it. -/
def pointedText (digits places : Nat) : List Char :=
  if places = 0 then natText digits
  else natText (digits / tenPow places) ++ '.' :: paddedText places digits

def DecimalDigits.text (d : DecimalDigits) : List Char :=
  pointedText (d.digits * tenPow d.exponent.toNat) (-d.exponent).toNat

/-- How a format spells what has no digits. -/
structure BinarySpelling where
  nan : String
  infinity : String

def BinaryValue.text (v : BinaryValue) (f : BinaryFormat) (spelling : BinarySpelling) : String :=
  let signed (negative : Bool) (s : String) := if negative then "-" ++ s else s
  match v with
  | .nan => spelling.nan
  | .infinite negative => signed negative spelling.infinity
  | .finite negative m e =>
    signed negative (if m = 0 then "0" else String.ofList (shortest f m e).strip.text)

def hostSpelling : BinarySpelling := ⟨"NaN", "Infinity"⟩

/-- Stored values are shown with infinity cut short. -/
def storedSpelling : BinarySpelling := ⟨"NaN", "inf"⟩

/-- The text of a finite value with a fixed number of decimals, a tie to the even last digit. -/
def BinaryValue.fixedText (v : BinaryValue) (places : Nat) : String :=
  match v with
  | .nan => storedSpelling.nan
  | .infinite negative => (if negative then "-" else "") ++ storedSpelling.infinity
  | .finite negative m e =>
    let n := BinaryFormat.divHalfEven (m * twoPow e.toNat * tenPow places) (twoPow (-e).toNat)
    (if negative then "-" else "") ++ String.ofList (pointedText n places)

end ForeignData
