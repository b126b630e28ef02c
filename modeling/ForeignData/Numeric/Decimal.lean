import ForeignData.Text.Digits

/-!
# Decimals of 96 bits

A decimal is a sign and a magnitude of at most 96 bits divided by a power of ten of at most 28. It
is written positionally with exactly that many fraction digits. A text with more digits than fit is
rounded at the first digit that does not fit; a whole part that does not fit is refused. A zero that
is read has no sign, but a number rounded off to zero keeps its own.
-/

namespace ForeignData

def magnitudeBound : Nat := twoPow 96

/-- The largest number of fraction digits. -/
def maxScale : Nat := 28

/-- The number `magnitude / 10 ^ scale`, or its negative. -/
structure Decimal where
  negative : Bool
  magnitude : Nat
  scale : Nat
  magnitude_lt : magnitude < magnitudeBound
  scale_le : scale ≤ maxScale
  deriving DecidableEq

namespace Decimal

/-- The decimal of a sign, a magnitude and a scale, when these are within the bounds. -/
def signed? (negative : Bool) (magnitude scale : Nat) : Option Decimal :=
  if h : magnitude < magnitudeBound ∧ scale ≤ maxScale then
    some ⟨negative, magnitude, scale, h.1, h.2⟩
  else
    none

/-- The decimal of an integer and a scale that are within the bounds. -/
def ofParts? (mantissa : Int) (scale : Nat) : Option Decimal :=
  signed? (decide (mantissa < 0)) mantissa.natAbs scale

/-- A word of 64 bits as a decimal without fraction digits. -/
def ofInt64 (i : Int64) : Decimal where
  negative := decide (i.toInt < 0)
  magnitude := i.toInt.natAbs
  scale := 0
  magnitude_lt := by
    have h₁ := i.le_toInt
    have h₂ := i.toInt_lt
    have h₃ : magnitudeBound = 79228162514264337593543950336 := rfl
    omega
  scale_le := Nat.zero_le _

/-- A minus sign if there is one, the digits, and a point before the last `scale` of them. -/
def text (d : Decimal) : List Char :=
  let sign := if d.negative then ['-'] else []
  if d.scale = 0 then
    sign ++ natText d.magnitude
  else
    sign ++ natText (d.magnitude / tenPow d.scale) ++ '.' :: paddedText d.scale d.magnitude

/-! ### Reading -/

/-- A mantissa rounded by the first digit that was left out. Where rounding up needs one more bit
than there are, the last fraction digit is given up too. -/
def roundMantissa (m scale digit : Nat) : Option (Nat × Nat) :=
  if digit < 5 then
    some (m, scale)
  else if m + 1 < magnitudeBound then
    some (m + 1, scale)
  else if scale = 0 then
    none
  else
    some ((m + 5) / 10, scale - 1)

/-- A character that may stand among the digits. -/
def isDigitOrSeparator (c : Char) : Bool :=
  c.isDigit || c == '_'

/-- Round at the first digit that does not fit, separators before it left aside; the characters
behind it only have to be digits or separators. -/
def readRounded? (m scale : Nat) (s : List Char) : Option (Nat × Nat) :=
  if s.all isDigitOrSeparator then
    match s.dropWhile (· == '_') with
    | [] => some (m, scale)
    | c :: _ => roundMantissa m scale (digitValue c)
  else
    none

/-- Read digits with at most one point, with separators behind the first digit. `point` tells
whether the point has passed and `seen` whether a digit has. -/
def readMantissa? (m scale : Nat) (point seen : Bool) : List Char → Option (Nat × Nat)
  | [] => if seen then some (m, scale) else none
  | c :: s =>
    if point && scale == maxScale then
      readRounded? m scale (c :: s)
    else if c.isDigit then
      let next := 10 * m + digitValue c
      if next < magnitudeBound then
        readMantissa? next (if point then scale + 1 else scale) point true s
      else if point then
        readRounded? m scale (c :: s)
      else
        none
    else if c = '.' ∧ point = false then
      readMantissa? m scale true seen s
    else if c = '_' ∧ seen = true then
      readMantissa? m scale point seen s
    else
      none

def readPlain? (s : List Char) : Option Decimal := do
  let (negative, rest) := splitSign s
  let (m, scale) ← readMantissa? 0 0 false false rest
  ofParts? (if negative then -(m : Int) else m) scale

/-- Read an exponent: a word of 32 bits, itself with an optional plus, behind an optional minus. -/
def readExponent? (s : List Char) : Option (Bool × Nat) := do
  let (negative, rest) :=
    match s with
    | '-' :: rest => (true, rest)
    | rest => (false, rest)
  let digits :=
    match rest with
    | '+' :: digits => digits
    | digits => digits
  let n ← readNat? digits
  if n < UInt32.size then some (negative, n) else none

/-- Divide by a power of ten. Fraction digits beyond the last place are rounded off at the first of
them, and the sign stays whatever is left. -/
def lowerBy? (d : Decimal) (n : Nat) : Option Decimal :=
  if maxScale < n then
    none
  else if d.scale + n ≤ maxScale then
    signed? d.negative d.magnitude (d.scale + n)
  else
    let dropped := d.scale + n - maxScale
    let rest := d.magnitude / tenPow (dropped - 1)
    signed? d.negative (rest / 10 + (if 5 ≤ rest % 10 then 1 else 0)) maxScale

/-- Multiply by a power of ten. Fraction digits are kept while there are some; beyond them the
result is an integer. -/
def raiseBy? (d : Decimal) (n : Nat) : Option Decimal :=
  if n ≤ d.scale then
    signed? d.negative d.magnitude (d.scale - n)
  else if maxScale < n then
    none
  else
    signed? d.negative (d.magnitude * tenPow (n - d.scale)) 0

/-- Read a decimal with an exponent behind the first `e`. -/
def readScientific? (s : List Char) : Option Decimal := do
  let isMark := fun c : Char => c == 'e' || c == 'E'
  let base := s.takeWhile (!isMark ·)
  let exponent ←
    match s.dropWhile (!isMark ·) with
    | [] => none
    | _ :: exponent => some exponent
  let d ← readPlain? base
  let (negative, n) ← readExponent? exponent
  if negative then d.lowerBy? n else d.raiseBy? n

def read? (s : List Char) : Option Decimal :=
  match readPlain? s with
  | some d => some d
  | none => readScientific? s

end Decimal

end ForeignData
