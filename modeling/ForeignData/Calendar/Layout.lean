import ForeignData.Calendar.Timestamp
import ForeignData.Text.Blank
import ForeignData.Text.Digits

/-!
# Layouts of dates and times

A layout is a list of fields. Reading a text by a layout consumes it field by field: a number may
be preceded by blanks and takes at most its own count of digits, a gap matches any blanks or none,
and the whole text has to be used up. The fields that were read are then put together to a date, a
time of day or a timestamp, which fails if there is no such day or time.
-/

namespace ForeignData

inductive LayoutField where
  | year
  | month
  | day
  | hour
  | minute
  | second
  /-- A point and the decimals of the second, or nothing. -/
  | fraction
  /-- The offset of a zone, `Z` or a sign with hours and minutes. -/
  | offset
  /-- Any blanks, or none. -/
  | gap
  /-- One character as it stands. -/
  | literal (c : Char)
  deriving DecidableEq

/-- The numbers that a layout has read. -/
structure LayoutFields where
  year : Option Int := none
  month : Nat := 0
  day : Nat := 0
  hour : Nat := 0
  minute : Nat := 0
  second : Nat := 0
  nanos : Nat := 0
  offset : Option Int := none
  deriving DecidableEq

/-! ### Fields -/

/-- Split off at most `width` digits, at least one. -/
def takeNumber? (width : Nat) (s : List Char) : Option (Nat × List Char) :=
  let digits := (s.take width).takeWhile Char.isDigit
  if digits = [] then none else some (digitsValue digits, s.drop digits.length)

/-- Split off all leading digits, at least one. -/
def takeAllDigits? (s : List Char) : Option (Nat × List Char) :=
  takeNumber? s.length s

/-- Split off a year: four digits at most, or any number of them behind a sign. -/
def takeYear? (s : List Char) : Option (Int × List Char) :=
  match s with
  | '-' :: rest => (takeAllDigits? rest).map fun (n, rest) => (-(n : Int), rest)
  | '+' :: rest => (takeAllDigits? rest).map fun (n, rest) => ((n : Int), rest)
  | s => (takeNumber? 4 s).map fun (n, rest) => ((n : Int), rest)

/-- Split off the decimals of a second in nanoseconds. Digits behind the ninth are passed over. -/
def takeFraction? (s : List Char) : Option (Nat × List Char) :=
  match s with
  | '.' :: rest =>
    let digits := (rest.take 9).takeWhile Char.isDigit
    if digits = [] then
      none
    else
      some (digitsValue digits * tenPow (9 - digits.length),
        (rest.drop digits.length).dropWhile Char.isDigit)
  | s => some (0, s)

/-- What may stand between the hours and the minutes of an offset. -/
def isOffsetSeparator (c : Char) : Bool :=
  c == ':' || isBlank c

/-- The sign of an offset: plus, a hyphen, or the minus sign proper. -/
def takeOffsetSign? : List Char → Option (Bool × List Char)
  | '+' :: s => some (false, s)
  | '-' :: s => some (true, s)
  | '−' :: s => some (true, s)
  | _ => none

def twoDigits? (a b : Char) : Option Nat :=
  if a.isDigit && b.isDigit then some (10 * digitValue a + digitValue b) else none

def offsetSeconds (negative : Bool) (hours minutes : Nat) : Int :=
  let n : Int := 3600 * hours + 60 * minutes
  if negative then -n else n

/-- Split off an offset in seconds: `Z`, or a sign and two digits of hours, with two digits of
minutes behind any separators or at the end without them. -/
def takeOffset? (s : List Char) : Option (Int × List Char) :=
  match trimLeft s with
  | 'Z' :: rest => some (0, rest)
  | 'z' :: rest => some (0, rest)
  | s => do
    let (negative, rest) ← takeOffsetSign? s
    match rest with
    | h₁ :: h₂ :: rest =>
      let hours ← twoDigits? h₁ h₂
      match rest.dropWhile isOffsetSeparator with
      | [] => some (offsetSeconds negative hours 0, [])
      | [_] => none
      | m₁ :: m₂ :: rest =>
        let minutes ← twoDigits? m₁ m₂
        if minutes < 60 then some (offsetSeconds negative hours minutes, rest) else none
    | _ => none

/-! ### Layouts -/

def LayoutField.read? (field : LayoutField) (fields : LayoutFields) (s : List Char) :
    Option (LayoutFields × List Char) :=
  match field with
  | .year => (takeYear? (trimLeft s)).map fun (n, rest) => ({ fields with year := some n }, rest)
  | .month => (takeNumber? 2 (trimLeft s)).map fun (n, rest) => ({ fields with month := n }, rest)
  | .day => (takeNumber? 2 (trimLeft s)).map fun (n, rest) => ({ fields with day := n }, rest)
  | .hour => (takeNumber? 2 (trimLeft s)).map fun (n, rest) => ({ fields with hour := n }, rest)
  | .minute => (takeNumber? 2 (trimLeft s)).map fun (n, rest) => ({ fields with minute := n }, rest)
  | .second => (takeNumber? 2 (trimLeft s)).map fun (n, rest) => ({ fields with second := n }, rest)
  | .fraction => (takeFraction? s).map fun (n, rest) => ({ fields with nanos := n }, rest)
  | .offset => (takeOffset? s).map fun (n, rest) => ({ fields with offset := some n }, rest)
  | .gap => some (fields, trimLeft s)
  | .literal c =>
    match s with
    | d :: rest => if d = c then some (fields, rest) else none
    | [] => none

def readLayout? (layout : List LayoutField) (fields : LayoutFields) (s : List Char) :
    Option LayoutFields :=
  match layout with
  | [] => if s = [] then some fields else none
  | field :: layout => do
    let (fields, rest) ← field.read? fields s
    readLayout? layout fields rest

namespace LayoutFields

def date? (f : LayoutFields) : Option Date := do
  Date.ofYmd? (← f.year) f.month f.day

/-- The time of day of the fields; second 60 is the leap second behind 59. -/
def time? (f : LayoutFields) : Option Time :=
  if f.second = 60 then
    Time.ofHms? f.hour f.minute 59 (nanosPerSecond + f.nanos)
  else
    Time.ofHms? f.hour f.minute f.second f.nanos

def timestamp? (f : LayoutFields) : Option Timestamp := do
  return ⟨← f.date?, ← f.time?⟩

/-- The timestamp of the fields in universal time; an offset is less than a day. -/
def universal? (f : LayoutFields) : Option Timestamp := do
  let offset ← f.offset
  if -secondsPerDay < offset ∧ offset < secondsPerDay then
    (← f.timestamp?).minusSeconds? offset
  else
    none

end LayoutFields

/-! ### The layouts of host values -/

/-- `2024-02-29` -/
def dateLayout : List LayoutField :=
  [.year, .literal '-', .month, .literal '-', .day]

/-- `23:59` -/
def minuteLayout : List LayoutField :=
  [.hour, .literal ':', .minute]

/-- `23:59:59.5` -/
def secondLayout : List LayoutField :=
  minuteLayout ++ [.literal ':', .second, .fraction]

def timeLayouts : List (List LayoutField) :=
  [secondLayout, minuteLayout]

/-- The layouts of a date with a time of day, in the order in which they are tried. -/
def timestampLayouts : List (List LayoutField) :=
  [dateLayout ++ .gap :: secondLayout, dateLayout ++ .literal 'T' :: secondLayout,
   dateLayout ++ .gap :: minuteLayout, dateLayout ++ .literal 'T' :: minuteLayout]

/-- The layouts of a timestamp with an offset, in the order in which they are tried. -/
def zonedLayouts : List (List LayoutField) :=
  [dateLayout ++ .gap :: secondLayout ++ [.offset],
   dateLayout ++ .gap :: secondLayout ++ [.gap, .offset],
   dateLayout ++ .literal 'T' :: secondLayout ++ [.offset]]

end ForeignData
