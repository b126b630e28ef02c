import ForeignData.Sqlite.Real
import ForeignData.Stored.Binding
import ForeignData.Stored.Value
import ForeignData.Text.Utf8

/-!
# Cells

The values that a database keeps. Text is kept as bytes, which need not be well-formed. Cells are
ordered: null, then numbers by value, then text and then bytes, both byte by byte. A collation makes
texts equal that differ in some way.
-/

namespace ForeignData.Sqlite

/-- A value in a database. -/
inductive Cell where
  | null
  | integer (v : Int64)
  | real (v : Binary64)
  | text (bytes : ByteArray)
  | blob (bytes : ByteArray)
  deriving DecidableEq

instance : Inhabited Cell := ⟨.null⟩

/-- What makes no difference between texts. -/
inductive Collation where
  | binary
  /-- The case of ASCII letters. -/
  | noCase
  /-- Spaces at the end. -/
  | rightTrim
  deriving DecidableEq

namespace Collation

def names : List (String × Collation) :=
  [("binary", binary), ("nocase", noCase), ("rtrim", rightTrim)]

def key (collation : Collation) (bytes : List UInt8) : List UInt8 :=
  match collation with
  | binary => bytes
  | noCase => bytes.map fun b => if 0x41 ≤ b && b ≤ 0x5a then b + 0x20 else b
  | rightTrim => (bytes.reverse.dropWhile (· == 0x20)).reverse

end Collation

namespace Cell

def ofText (s : String) : Cell :=
  text (bytesOfText s)

def toStored : Cell → StoredValue
  | null => .null
  | integer v => .integer v
  | real v => .real v
  | text bytes => .text (lossyText bytes)
  | blob bytes => .blob bytes

/-- The cell that a bound value becomes. What is not a number becomes null. -/
def ofBound : BoundValue → Cell
  | .null => null
  | .int v => integer v.toInt64
  | .int64 v => integer v
  | .double v => if v.isNan then null else real v
  | .text v => ofText v
  | .blob v => blob v

/-! ### Order -/

/-- The place of a cell's class in the order. -/
def rank : Cell → Nat
  | null => 0
  | integer _ => 1
  | real _ => 1
  | text _ => 2
  | blob _ => 3

def number? : Cell → Option BinaryValue
  | integer v => some (.ofInt v.toInt)
  | real v => some v.value
  | _ => none

def compareBytes : List UInt8 → List UInt8 → Ordering
  | [], [] => .eq
  | [], _ :: _ => .lt
  | _ :: _, [] => .gt
  | a :: as, b :: bs => if a < b then .lt else if b < a then .gt else compareBytes as bs

def compare (collation : Collation) (a b : Cell) : Ordering :=
  match a, b with
  | text s, text t => compareBytes (collation.key s.data.toList) (collation.key t.data.toList)
  | blob s, blob t => compareBytes s.data.toList t.data.toList
  | a, b =>
    match a.number?, b.number? with
    | some x, some y => (x.compare? y).getD .eq
    | _, _ => Ord.compare a.rank b.rank

end Cell

/-- A cell by which rows are ordered, upwards or downwards, and how its texts are compared. -/
structure SortCell where
  cell : Cell
  descending : Bool := false
  collation : Collation := .binary

namespace SortCell

/-- The order of cells in their direction. -/
def compare (a b : SortCell) : Ordering :=
  if a.descending then b.cell.compare a.collation a.cell else a.cell.compare a.collation b.cell

/-- The order of lists of cells in their directions, by the first that differ. -/
def compareLists : List SortCell → List SortCell → Ordering
  | [], [] => .eq
  | [], _ :: _ => .lt
  | _ :: _, [] => .gt
  | a :: as, b :: bs =>
    match a.compare b with
    | .eq => compareLists as bs
    | o => o

end SortCell

/-! ### Numbers in texts -/

def byteChars (bytes : ByteArray) : List Char :=
  bytes.data.toList.map fun b => Char.ofNat b.toNat

/-- A text without the blanks at its ends. -/
def trimNumber (s : List Char) : List Char :=
  ((s.dropWhile isAsciiBlank).reverse.dropWhile isAsciiBlank).reverse

/-- An integral number as an integer, if it is strictly between the least and the greatest word. -/
def integralCell (v : Binary64) : Cell :=
  match v.value.toInt? with
  | some i =>
    if Int64.minValue.toInt < i ∧ i < Int64.maxValue.toInt then .integer (Int64.ofInt i)
    else .real v
  | none => .real v

/-- The number that a text writes: an integer if it is written as one and fits. -/
def numberOfText? (s : List Char) : Option Cell :=
  let s := trimNumber s
  match readInt? s >>= toInt64? with
  | some i => some (.integer i)
  | none => (readNumeral? s).map fun n => .real (realOfNumeral n)

end ForeignData.Sqlite
