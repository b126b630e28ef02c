import ForeignData.Numeric.Extended
import ForeignData.Numeric.Numeral
import ForeignData.Numeric.Shortest

/-!
# Texts of real numbers

How a database reads and writes real numbers. Neither goes by exact values: a numeral gives its
first digits as a whole number, which is scaled in steps of 64 significant bits, and a number is
scaled in the same steps until its whole part has all digits that are written.
-/

namespace ForeignData.Sqlite

/-! ### Reading -/

/-- The least whole number that takes no more digits of a numeral. -/
def fullDigits : Nat := (UInt64.size - 10) / 10

/-- The whole number that the first digits of a text write, and how many digits are left. -/
def firstDigits (n : Nat) : List Char → Nat × Nat
  | [] => (n, 0)
  | c :: s =>
    if n < fullDigits then firstDigits (10 * n + digitValue c) s else (n, (c :: s).length)

/-- The greatest exponent of a numeral that is told apart from others. -/
def exponentLimit : Int := 10000

/-- Move places from a positive exponent into a whole number while it has room for them, and ending
zeros of the number into a negative exponent. -/
def balance (n : Nat) (exponent : Int) : Nat → Nat × Int
  | 0 => (n, exponent)
  | fuel + 1 =>
    if 0 < exponent ∧ n < UInt64.size / 10 then balance (10 * n) (exponent - 1) fuel
    else if exponent < 0 ∧ n % 10 = 0 then balance (n / 10) (exponent + 1) fuel
    else (n, exponent)

def realOfNumeral (n : Numeral) : Binary64 :=
  let sign := if n.negative then binary64.signBit else 0
  if n.digits = 0 then
    ⟨UInt64.ofNat sign⟩
  else
    let (first, left) := firstDigits 0 (natText n.digits)
    let exponent := max (-exponentLimit) (min exponentLimit (n.exponent + left))
    let (whole, exponent) := balance first exponent 20
    ⟨UInt64.ofNat (sign + ((Extended.ofNat whole).scale exponent).toBits)⟩

/-! ### Writing -/

/-- The number of significant digits of a number that becomes text. -/
def realDigits : Nat := 15

/-- Drop zeros at the end of a text, but none right behind a point. -/
def stripFraction (s : List Char) : List Char :=
  let kept := (s.reverse.dropWhile (· == '0')).reverse
  if kept.getLast? = some '.' then kept ++ ['0'] else kept

/-- An exponent: its sign and at least two digits. -/
def exponentText (e : Int) : List Char :=
  let digits := natText e.natAbs
  'e' :: (if e < 0 then '-' else '+') :: (if digits.length < 2 then '0' :: digits else digits)

/-- The significant digits of a number and the place of the first. The first digit that is left out
decides the rounding. -/
def significantDigits (x : Extended) : Nat × Int :=
  let (moved, x) := x.normalize
  let digits := x.floor
  let surplus := (natText digits).length - realDigits
  let place := (realDigits : Int) + surplus - 1 - moved
  let n := (digits / tenPow (surplus - 1) + 5) / 10
  if n < tenPow realDigits then (n, place) else (n / 10, place + 1)

/-- The text of a positive number: positional near one, with an exponent otherwise, and always with
a point. -/
def positiveText (x : Extended) : List Char :=
  let (digits, place) := significantDigits x
  if place < -4 ∨ (realDigits : Int) ≤ place then
    stripFraction (pointedText digits (realDigits - 1)) ++ exponentText place
  else
    let places := ((realDigits : Int) - 1 - place).toNat
    if places = 0 then natText digits ++ ".0".toList
    else stripFraction (pointedText digits places)

def realCellText (v : Binary64) : List Char :=
  match v.value with
  | .nan => []
  | .infinite negative => if negative then "-Inf".toList else "Inf".toList
  | .finite negative m e =>
    if m = 0 then "0.0".toList
    else (if negative then ['-'] else []) ++ positiveText ⟨m, e⟩

end ForeignData.Sqlite
