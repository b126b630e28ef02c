import ForeignData.Calendar.Layout

/-!
# Internet timestamps

The strict format of timestamps with an offset: every number has its full count of digits, no blank
stands anywhere but between date and time, and an offset has a colon between hours and minutes.
-/

namespace ForeignData

/-- Split off exactly `width` digits. -/
def takeDigits? (width : Nat) (s : List Char) : Option (Nat × List Char) :=
  let digits := s.take width
  if digits.length = width ∧ digits.all Char.isDigit then
    some (digitsValue digits, s.drop width)
  else
    none

/-- Split off one given character. -/
def takeChar? (c : Char) : List Char → Option (List Char)
  | [] => none
  | d :: s => if d = c then some s else none

def takeDateTimeMark? : List Char → Option (List Char)
  | 'T' :: s => some s
  | 't' :: s => some s
  | ' ' :: s => some s
  | _ => none

/-- Split off `Z`, or a sign, hours, a colon and minutes. -/
def takeStrictOffset? : List Char → Option (Int × List Char)
  | 'Z' :: s => some (0, s)
  | 'z' :: s => some (0, s)
  | s => do
    let (negative, s) ← takeOffsetSign? s
    let (hours, s) ← takeDigits? 2 s
    let s ← takeChar? ':' s
    let (minutes, s) ← takeDigits? 2 s
    if minutes < 60 then some (offsetSeconds negative hours minutes, s) else none

/-- Read a timestamp in the strict format, in universal time. -/
def readInternet? (s : List Char) : Option Timestamp := do
  let (year, s) ← takeDigits? 4 s
  let s ← takeChar? '-' s
  let (month, s) ← takeDigits? 2 s
  let s ← takeChar? '-' s
  let (day, s) ← takeDigits? 2 s
  let s ← takeDateTimeMark? s
  let (hour, s) ← takeDigits? 2 s
  let s ← takeChar? ':' s
  let (minute, s) ← takeDigits? 2 s
  let s ← takeChar? ':' s
  let (second, s) ← takeDigits? 2 s
  let (nanos, s) ← takeFraction? s
  let (offset, s) ← takeStrictOffset? s
  if s = [] then
    LayoutFields.universal?
      { year := some year, month, day, hour, minute, second, nanos, offset := some offset }
  else
    none

end ForeignData
