import ForeignData.Numeric.Shortest
import ForeignData.Text.Blank
import ForeignData.Text.Hex
import ForeignData.Text.Utf8

/-!
# Stored values

The values that SQLite hands out. A value has one of five storage classes, whatever the declared
type of its column.
-/

namespace ForeignData

/-- A value of a result column. -/
inductive StoredValue where
  | null
  | integer (v : Int64)
  | real (v : Binary64)
  | text (v : String)
  | blob (v : ByteArray)
  deriving DecidableEq

def realText (v : Binary64) : String :=
  v.value.text binary64 storedSpelling

/-- How a stored value is named in a message. -/
def StoredValue.describe : StoredValue → String
  | null => "NULL"
  | integer v => intString v.toInt
  | real v => realText v
  | text v => s!"'{v}'"
  | blob v => s!"<blob of {v.size} bytes>"

/-! ### Other readings of a value -/

/-- A value as text; null has none. -/
def StoredValue.asText : StoredValue → Option String
  | null => none
  | integer v => some (intString v.toInt)
  | real v => some (realText v)
  | text v => some v
  | blob v => some (lossyText v)

/-- The integer that a text begins with, behind blanks; zero if there is none. -/
def leadingInteger (s : List Char) : Int64 :=
  let (negative, rest) := splitSign (s.dropWhile isAsciiBlank)
  let n : Int := digitsValue (spanDigits rest).1
  Int64.ofIntClamp (if negative then -n else n)

/-- A value as an integer: of a number its integral part, of text and bytes the integer at its
beginning, of null zero. -/
def StoredValue.asInteger : StoredValue → Int64
  | null => 0
  | integer v => v
  | real v => v.toInt64
  | text v => leadingInteger v.toList
  | blob v => leadingInteger (v.data.toList.map fun b => Char.ofNat b.toNat)

abbrev ResultRow := List StoredValue

/-- The value of a result column; there is only null past the end. -/
def ResultRow.value (row : ResultRow) (i : Nat) : StoredValue :=
  row[i]?.getD .null

end ForeignData
