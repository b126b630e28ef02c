import ForeignData.Calendar.Text
import ForeignData.Host.Scalar
import ForeignData.Numeric.Numeral
import ForeignData.Numeric.Shortest
import ForeignData.Text.Hex
import ForeignData.Text.Utf8

/-!
# Texts of host values

Every scalar has a text, which is also what it is stored as where it is stored as text. Every host
type reads texts: the text of a value of the type, and other spellings of it. Text and types without
a form of their own take any text as it is; bytes take anything that does not begin as hexadecimal
bytes do; all others look away from blanks at the ends.
-/

namespace ForeignData

/-! ### Writing -/

/-- Bytes in hexadecimal behind a backslash and an `x`. -/
def byteaText (v : ByteArray) : List Char :=
  '\\' :: 'x' :: hexText v.data.toList

def Scalar.write : Scalar → String
  | bool v => if v then "t" else "f"
  | int2 v => intString v.toInt
  | int4 v => intString v.toInt
  | int8 v => intString v.toInt
  | float4 v => v.value.text binary32 hostSpelling
  | float8 v => v.value.text binary64 hostSpelling
  | numeric v => String.ofList v.text
  | text v => v
  | bytea v => String.ofList (byteaText v)
  | date v => String.ofList v.text
  | time v => String.ofList v.text
  | timestamp v => String.ofList v.text
  | timestamptz v => String.ofList v.universalText
  | other v => v

/-- The text of a host value; null has an empty one. -/
def HostValue.write : HostValue → String
  | none => ""
  | some s => s.write

def HostValue.display : HostValue → String
  | none => "NULL"
  | some s => s.write

/-! ### Reading -/

/-- Read a truth value: one of the words for it in any case. -/
def readBool? (s : List Char) : Option Bool :=
  match String.ofList (s.map Char.toLower) with
  | "t" | "true" | "y" | "yes" | "on" | "1" => some true
  | "f" | "false" | "n" | "no" | "off" | "0" => some false
  | _ => none

/-- Read bytes: pairs of hexadecimal digits behind a backslash and an `x`, or the bytes of the text
itself. -/
def readBytea? (s : String) : Option ByteArray :=
  match s.toList with
  | '\\' :: 'x' :: rest => (readHexPairs? rest).map fun bs => ⟨bs.toArray⟩
  | _ => some (bytesOfText s)

def Scalar.read? (ty : HostType) (s : String) : Option Scalar :=
  let trimmed := trim s.toList
  match ty with
  | .bool => (readBool? trimmed).map .bool
  | .int2 => (readInt? trimmed >>= toInt16?).map .int2
  | .int4 => (readInt? trimmed >>= toInt32?).map .int4
  | .int8 => (readInt? trimmed >>= toInt64?).map .int8
  | .float4 => (readBinary32? trimmed).map .float4
  | .float8 => (readBinary64? trimmed).map .float8
  | .numeric => (Decimal.read? trimmed).map .numeric
  | .text | .varchar | .bpchar | .name => some (.text s)
  | .bytea => (readBytea? s).map .bytea
  | .date => (readDate? trimmed).map .date
  | .time => (readTime? trimmed).map .time
  | .timestamp => (readTimestamp? trimmed).map .timestamp
  | .timestamptz => (readUniversal? trimmed).map .timestamptz
  | .other .. => some (.other s)

/-- What is quoted of a text that a type could not read: of numbers in binary the trimmed text, of
all others the text as it came. -/
def unreadablePart (ty : HostType) (s : String) : String :=
  match ty with
  | .float4 | .float8 => trimString s
  | _ => s

end ForeignData
