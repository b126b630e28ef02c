import ForeignData.Host.ScalarText
import ForeignData.Stored.Value

/-!
# Conversion of stored values

How a stored value becomes a value of a host type. Text and types without a form of their own take
the text of any value. Numbers go exactly into the integer types or not at all; numbers in temporal
columns count seconds from the first of January 1970; text is read by the host type, and bytes that
are text are read as that text.
-/

namespace ForeignData

/-- The text of a value that has one: bytes have one only if they are text. -/
def StoredValue.text? : StoredValue → Option String
  | .null => none
  | .integer v => some (intString v.toInt)
  | .real v => some (Scalar.float8 v).write
  | .text v => some v
  | .blob v => textOfBytes? v

/-- The integer that a number in binary is, if it is one of 64 bits. -/
def Binary64.toInt64? (v : Binary64) : Option Int64 :=
  v.value.toInt? >>= ForeignData.toInt64?

/-- A count of seconds with a fraction, as a timestamp. The fraction is taken off, multiplied and
rounded as numbers in binary are, and stays below a full second. -/
def unixTimestamp? (v : Binary64) : Option Timestamp := do
  let (m, e) ← v.value.dyadic?
  let seconds ← v.value.floor?
  let low := min e 0
  let rest := Binary64.ofDyadic (m * twoPow (e - low).toNat - seconds * twoPow (-low).toNat) low
  let (m, e) ← rest.value.dyadic?
  let scaled := Binary64.ofDyadic (m * nanosPerSecond) e
  let (m, e) ← scaled.value.dyadic?
  let den := twoPow (-e).toNat
  let nanos := (2 * m.natAbs * twoPow e.toNat + den) / (2 * den)
  Timestamp.ofSeconds? seconds (min nanos (nanosPerSecond - 1))

/-- An integer as a value of a type that takes integers. -/
def convertInteger (v : Int64) (ty : HostType) : Option Scalar :=
  let i := v.toInt
  match ty with
  | .bool => some (.bool (i != 0))
  | .int2 => (toInt16? i).map .int2
  | .int4 => (toInt32? i).map .int4
  | .int8 => some (.int8 v)
  | .float4 => some (.float4 (.ofValue (.ofInt i)))
  | .float8 => some (.float8 (.ofInt i))
  | .numeric => some (.numeric (.ofInt64 v))
  | .bytea => some (.bytea (bytesOfText (intString i)))
  | .timestamp => (Timestamp.ofSeconds? i 0).map .timestamp
  | .timestamptz => (Timestamp.ofSeconds? i 0).map .timestamptz
  | .date => (Timestamp.ofSeconds? i 0).map fun t => .date t.date
  | .time =>
    if 0 ≤ i ∧ i < secondsPerDay then (Time.ofSeconds? i.toNat 0).map .time else none
  | _ => none

/-- A number in binary as a value of a type that takes such numbers. -/
def convertReal (v : Binary64) (ty : HostType) : Option Scalar :=
  match ty with
  | .bool => some (.bool (!v.value.isZero))
  | .int2 | .int4 | .int8 => v.toInt64?.bind (convertInteger · ty)
  | .float4 => some (.float4 v.narrow)
  | .float8 => some (.float8 v)
  | .numeric => (Decimal.readPlain? (realText v).toList).map .numeric
  | .bytea => some (.bytea (bytesOfText (realText v)))
  | .timestamp => (unixTimestamp? v).map .timestamp
  | .timestamptz => (unixTimestamp? v).map .timestamptz
  | _ => none

/-- Convert a stored value to a host type. There may be no such value; null is null in every
type. -/
def convert (v : StoredValue) (ty : HostType) : Option HostValue :=
  match v with
  | .null => some none
  | v =>
    if ty.isText then
      v.text?.map fun s => some (.text s)
    else if !ty.isNative then
      v.text?.map fun s => some (.other s)
    else
      match v with
      | .null => none
      | .integer i => (convertInteger i ty).map some
      | .real r => (convertReal r ty).map some
      | .text s => (Scalar.read? ty s).map some
      | .blob b =>
        if ty = .bytea then
          some (some (.bytea b))
        else
          (textOfBytes? b >>= Scalar.read? ty).map some

end ForeignData
