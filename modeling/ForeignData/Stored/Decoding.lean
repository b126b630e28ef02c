import ForeignData.Fault
import ForeignData.Stored.Conversion

/-!
# Conversion with faults

A type that cannot read a text says so by a fault. A stored value whose text cannot be read has no
representation in the type; any other fault of the reading is passed on.
-/

namespace ForeignData

/-- Read a text as a value of a type, or tell what could not be read. -/
def Scalar.decode (ty : HostType) (s : String) : Except Fault Scalar :=
  match Scalar.read? ty s with
  | some v => .ok v
  | none => .error (.unreadable (unreadablePart ty s) ty)

def representedBy (ty : HostType) (s : String) : Except Fault (Option HostValue) :=
  match Scalar.decode ty s with
  | .ok v => .ok (some (some v))
  | .error (.unreadable ..) => .ok none
  | .error fault => .error fault

/-- Convert a stored value to a host type with the faults of the reading. There may be no such
value; null is null in every type. -/
def StoredValue.decodeAs (v : StoredValue) (ty : HostType) : Except Fault (Option HostValue) :=
  match v with
  | .null => .ok (some none)
  | v =>
    if ty.isText then
      .ok (v.text?.map fun s => some (.text s))
    else if !ty.isNative then
      .ok (v.text?.map fun s => some (.other s))
    else
      match v with
      | .null => .ok none
      | .integer i => .ok ((convertInteger i ty).map some)
      | .real r => .ok ((convertReal r ty).map some)
      | .text s => representedBy ty s
      | .blob b =>
        if ty = .bytea then
          .ok (some (some (.bytea b)))
        else
          match textOfBytes? b with
          | some s => representedBy ty s
          | none => .ok none

end ForeignData
