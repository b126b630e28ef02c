import ForeignData.Calendar.Timestamp
import ForeignData.Host.HostType
import ForeignData.Numeric.Binary
import ForeignData.Numeric.Decimal
import ForeignData.Text.Hex

/-!
# Host values

A scalar is a value of a host type. It does not carry its type; the column or the parameter that it
belongs to does. A host value is a scalar or null.
-/

namespace ForeignData

/-- A value of a host type. -/
inductive Scalar where
  | bool (v : Bool)
  | int2 (v : Int16)
  | int4 (v : Int32)
  | int8 (v : Int64)
  | float4 (v : Binary32)
  | float8 (v : Binary64)
  | numeric (v : Decimal)
  | text (v : String)
  | bytea (v : ByteArray)
  | date (v : Date)
  | time (v : Time)
  | timestamp (v : Timestamp)
  /-- A timestamp in universal time. -/
  | timestamptz (v : Timestamp)
  /-- A value of a type without a form of its own, in the text syntax of that type. -/
  | other (v : String)
  deriving DecidableEq

abbrev HostValue := Option Scalar

namespace Scalar

def form : Scalar → String
  | bool _ => "bool"
  | int2 _ => "int2"
  | int4 _ => "int4"
  | int8 _ => "int8"
  | float4 _ => "float4"
  | float8 _ => "float8"
  | numeric _ => "numeric"
  | text _ => "text"
  | bytea _ => "bytea"
  | date _ => "date"
  | time _ => "time"
  | timestamp _ => "timestamp"
  | timestamptz _ => "timestamptz"
  | other _ => "other"

/-- Whether a value belongs to a type. -/
def isOfType (s : Scalar) (ty : HostType) : Bool :=
  match s with
  | bool _ => ty == .bool
  | int2 _ => ty == .int2
  | int4 _ => ty == .int4
  | int8 _ => ty == .int8
  | float4 _ => ty == .float4
  | float8 _ => ty == .float8
  | numeric _ => ty == .numeric
  | text _ => ty.isText
  | bytea _ => ty == .bytea
  | date _ => ty == .date
  | time _ => ty == .time
  | timestamp _ => ty == .timestamp
  | timestamptz _ => ty == .timestamptz
  | other _ => !ty.isNative

end Scalar

/-- The name of a host value's form; null has a name of its own. -/
def HostValue.form : HostValue → String
  | none => "null"
  | some s => s.form

/-- Whether a host value is a value of a type; null is of none. -/
def HostValue.isOfType (v : HostValue) (ty : HostType) : Bool :=
  match v with
  | none => false
  | some s => s.isOfType ty

end ForeignData
