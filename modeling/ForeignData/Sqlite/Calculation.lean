import ForeignData.Sqlite.Affinity

/-!
# Calculations

Arithmetic on cells, operations on their bits, the joining of their texts, and a few functions. A
text counts as the number at its beginning. Integers give an integer as long as it is a word of 64
bits, and a number in binary otherwise. Null makes everything null, and so does division by zero.
-/

namespace ForeignData.Sqlite

/-! ### Numbers at the beginning of texts -/

/-- The exponent that a text begins with, if any. -/
def leadingExponent : List Char → Int
  | [] => 0
  | c :: s =>
    let (negative, rest) := splitSign s
    let size : Int := digitsValue (spanDigits rest).1
    if c = 'e' ∨ c = 'E' then (if negative then -size else size) else 0

/-- The number at the beginning of a text, in binary; zero if there is none. -/
def leadingReal (s : List Char) : Binary64 :=
  let (negative, rest) := splitSign (s.dropWhile isAsciiBlank)
  let (whole, rest) := spanDigits rest
  let (fraction, rest) :=
    match rest with
    | '.' :: rest => spanDigits rest
    | rest => ([], rest)
  realOfNumeral ⟨negative, digitsValue (whole ++ fraction),
    leadingExponent rest - fraction.length⟩

/-- Whether a text begins with a digit. -/
def startsWithDigit (s : List Char) : Bool :=
  (s.head?.map Char.isDigit).getD false

/-- Whether the number at the beginning of a text has a point or an exponent. -/
def leadsWithReal (s : List Char) : Bool :=
  let (whole, rest) := spanDigits (splitSign (s.dropWhile isAsciiBlank)).2
  match rest with
  | '.' :: rest => !whole.isEmpty || startsWithDigit rest
  | c :: rest => (c == 'e' || c == 'E') && !whole.isEmpty && startsWithDigit (splitSign rest).2
  | [] => false

/-- The integer at the beginning of a text. -/
def leadingWhole (s : List Char) : Int :=
  let (negative, rest) := splitSign (s.dropWhile isAsciiBlank)
  let n : Int := digitsValue (spanDigits rest).1
  if negative then -n else n

namespace Cell

def numeric : Cell → Cell
  | .text bytes | .blob bytes =>
    let s := byteChars bytes
    match if leadsWithReal s then none else toInt64? (leadingWhole s) with
    | some v => .integer v
    | none => .real (leadingReal s)
  | c => c

def asReal (c : Cell) : Binary64 :=
  match c.numeric with
  | .integer v => .ofInt v.toInt
  | .real v => v
  | _ => .ofInt 0

def asInteger (c : Cell) : Int64 :=
  c.toStored.asInteger

/-- A number in binary as a cell; what is not a number is null. -/
def ofReal (v : Binary64) : Cell :=
  if v.isNan then .null else .real v

def textBytes (c : Cell) : ByteArray :=
  match c.numberToText with
  | .text bytes | .blob bytes => bytes
  | _ => .empty

/-- The number without its sign. -/
def absolute : Cell → Cell
  | .null => .null
  | .integer v => if v = Int64.minValue then .null else .integer (Int64.ofInt v.toInt.natAbs)
  | c =>
    let v := c.asReal
    .real (if v.bits.toNat < binary64.signBit then v else .ofValue v.value.neg)

def className : Cell → String
  | .null => "null"
  | .integer _ => "integer"
  | .real _ => "real"
  | .text _ => "text"
  | .blob _ => "blob"

/-- The number of characters of a text, which ends before a zero byte. -/
def textLength (bytes : List UInt8) : Nat :=
  let step (counted : Nat × Bool) (b : UInt8) : Nat × Bool :=
    if 0xc0 ≤ b then (counted.1 + 1, true)
    else if 0x80 ≤ b && counted.2 then counted
    else (counted.1 + 1, false)
  ((bytes.takeWhile (· != 0)).foldl step (0, false)).1

/-- The length of a cell, in bytes of a blob and in characters of other cells. -/
def length : Cell → Cell
  | .null => .null
  | .blob bytes => .integer (Int64.ofNat bytes.size)
  | c => .integer (Int64.ofNat (textLength c.textBytes.data.toList))

def mapText (f : UInt8 → UInt8) : Cell → Cell
  | .null => .null
  | c => .text ⟨c.textBytes.data.map f⟩

end Cell

/-! ### Operations -/

/-- An operation on two cells. -/
inductive Calculation where
  | add
  | subtract
  | multiply
  | divide
  | remainder
  | bitAnd
  | bitOr
  | shiftLeft
  | shiftRight
  | join
  deriving DecidableEq

namespace Calculation

/-- The result of arithmetic on integers; there is none of a division by zero. -/
def onIntegers? (x y : Int) : Calculation → Option Int
  | .add => some (x + y)
  | .subtract => some (x - y)
  | .multiply => some (x * y)
  | .divide => if y = 0 then none else some (x.tdiv y)
  | .remainder => if y = 0 then none else some (x.tmod y)
  | _ => none

/-- The result of arithmetic where not both sides are integers, or where the result is none. -/
def onReals (x y : Cell) : Calculation → Cell
  | .add => .ofReal (x.asReal.add y.asReal)
  | .subtract => .ofReal (x.asReal.sub y.asReal)
  | .multiply => .ofReal (x.asReal.mul y.asReal)
  | .divide => if y.asReal.value.isZero then .null else .ofReal (x.asReal.div y.asReal)
  | .remainder =>
    if y.asInteger = 0 then .null
    else .real (.ofInt (x.asInteger.toInt.tmod y.asInteger.toInt))
  | _ => .null

def arithmetic (op : Calculation) (x y : Cell) : Cell :=
  match x.numeric, y.numeric with
  | .integer a, .integer b =>
    match op.onIntegers? a.toInt b.toInt with
    | none => .null
    | some i => ((toInt64? i).map Cell.integer).getD (op.onReals x y)
  | _, _ => op.onReals x y

def wordBits : Nat := 64

/-- A word moved by a number of places, to the right if it is negative. -/
def shifted (v : Int64) (places : Int) : Int64 :=
  if 0 ≤ places then
    if (wordBits : Int) ≤ places then 0 else Int64.ofInt (v.toInt * twoPow places.toNat)
  else
    Int64.ofInt (v.toInt.fdiv (twoPow (Nat.min wordBits (-places).toNat)))

def apply (op : Calculation) (x y : Cell) : Cell :=
  if x = .null ∨ y = .null then
    .null
  else
    match op with
    | .bitAnd => .integer (x.asInteger &&& y.asInteger)
    | .bitOr => .integer (x.asInteger ||| y.asInteger)
    | .shiftLeft => .integer (shifted x.asInteger y.asInteger.toInt)
    | .shiftRight => .integer (shifted x.asInteger (-y.asInteger.toInt))
    | .join => .text (x.textBytes ++ y.textBytes)
    | op => op.arithmetic x y

end Calculation

/-! ### Functions -/

inductive UnaryFunction where
  | abs
  | length
  | lower
  | upper
  | typeOf
  deriving DecidableEq

namespace UnaryFunction

def names : List (String × UnaryFunction) :=
  [("abs", abs), ("length", length), ("lower", lower), ("upper", upper), ("typeof", typeOf)]

def ofName? (name : String) : Option UnaryFunction :=
  names.lookup (lowerAscii name)

/-- A byte, a capital letter made small. -/
def lowerByte (b : UInt8) : UInt8 :=
  if 0x41 ≤ b && b ≤ 0x5a then b + 0x20 else b

/-- A byte, a small letter made a capital. -/
def upperByte (b : UInt8) : UInt8 :=
  if 0x61 ≤ b && b ≤ 0x7a then b - 0x20 else b

def apply : UnaryFunction → Cell → Cell
  | abs, c => c.absolute
  | length, c => c.length
  | lower, c => c.mapText lowerByte
  | upper, c => c.mapText upperByte
  | typeOf, c => .ofText c.className

end UnaryFunction

end ForeignData.Sqlite
