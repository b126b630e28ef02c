/-!
# Decimal digits

The decimal text of natural numbers and integers, the value of a run of digits, and fields of a
fixed width filled with zeros. A signed text is one optional sign and at least one ASCII digit. The
units that numbers in decimal and in binary are counted in are powers of ten and of two.
-/

namespace ForeignData

abbrev twoPow (n : Nat) : Nat :=
  Nat.pow 2 n

abbrev tenPow (n : Nat) : Nat :=
  Nat.pow 10 n

theorem twoPow_pos (n : Nat) : 0 < twoPow n :=
  Nat.pow_pos (by decide)

theorem tenPow_pos (n : Nat) : 0 < tenPow n :=
  Nat.pow_pos (by decide)

/-- The character of a digit below ten. -/
def digitChar (d : Nat) : Char :=
  Char.ofNat (48 + d % 10)

def digitValue (c : Char) : Nat :=
  c.toNat - 48

/-- The decimal digits of a number, without leading zeros. -/
def natText (n : Nat) : List Char :=
  if n < 10 then [digitChar n] else natText (n / 10) ++ [digitChar n]
termination_by n

/-- A minus sign in front of the digits of a negative number, nothing else. -/
def intText (i : Int) : List Char :=
  if i < 0 then '-' :: natText i.natAbs else natText i.natAbs

/-- The last `width` digits of a number, zeros in front. -/
def paddedText : Nat → Nat → List Char
  | 0, _ => []
  | width + 1, n => paddedText width (n / 10) ++ [digitChar n]

/-- The number that a run of digits writes. -/
def digitsValue (s : List Char) : Nat :=
  s.foldl (fun n c => 10 * n + digitValue c) 0

/-- Split a text after its leading digits. -/
def spanDigits (s : List Char) : List Char × List Char :=
  (s.takeWhile Char.isDigit, s.dropWhile Char.isDigit)

/-- Read digits and nothing else, at least one. -/
def readNat? (s : List Char) : Option Nat :=
  if s ≠ [] ∧ s.all Char.isDigit then some (digitsValue s) else none

/-- Split off an optional sign; `true` for a minus. -/
def splitSign : List Char → Bool × List Char
  | '-' :: s => (true, s)
  | '+' :: s => (false, s)
  | s => (false, s)

/-- Read an optional sign and digits. -/
def readInt? (s : List Char) : Option Int :=
  let (negative, rest) := splitSign s
  (readNat? rest).map fun n => if negative then -(n : Int) else n

/-- The integer as a signed word of 16 bits, if it fits. -/
def toInt16? (i : Int) : Option Int16 :=
  if Int16.minValue.toInt ≤ i ∧ i ≤ Int16.maxValue.toInt then some (Int16.ofInt i) else none

/-- The integer as a signed word of 32 bits, if it fits. -/
def toInt32? (i : Int) : Option Int32 :=
  if Int32.minValue.toInt ≤ i ∧ i ≤ Int32.maxValue.toInt then some (Int32.ofInt i) else none

/-- The integer as a signed word of 64 bits, if it fits. -/
def toInt64? (i : Int) : Option Int64 :=
  if Int64.minValue.toInt ≤ i ∧ i ≤ Int64.maxValue.toInt then some (Int64.ofInt i) else none

/-- The decimal text of an integer as a string. -/
def intString (i : Int) : String :=
  String.ofList (intText i)

/-- The decimal text of a natural number as a string. -/
def natString (n : Nat) : String :=
  String.ofList (natText n)

end ForeignData
