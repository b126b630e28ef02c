import ForeignData.Calendar.Internet

/-!
# Texts of dates and times

How dates, times of day and timestamps are written, and how trimmed texts of them are read. A year
of four digits has no sign, any other year has one. Decimals of a second are written in groups of
three, as many as are needed. A timestamp without an offset is taken as universal time.
-/

namespace ForeignData

/-! ### Writing -/

/-- A year of at least four digits, with a sign unless it has four and is not negative. -/
def yearText (year : Int) : List Char :=
  let n := year.natAbs
  let digits := if n < 10000 then paddedText 4 n else natText n
  if year < 0 then '-' :: digits
  else if n < 10000 then digits
  else '+' :: digits

/-- `2024-02-29` -/
def Date.text (d : Date) : List Char :=
  yearText d.year ++ '-' :: paddedText 2 d.month ++ '-' :: paddedText 2 d.day

/-- The decimals of a second: none, three, six or nine. -/
def fractionText (nanos : Nat) : List Char :=
  if nanos = 0 then []
  else if nanos % 1000000 = 0 then '.' :: paddedText 3 (nanos / 1000000)
  else if nanos % 1000 = 0 then '.' :: paddedText 6 (nanos / 1000)
  else '.' :: paddedText 9 nanos

/-- `23:59:60.250` -/
def Time.text (t : Time) : List Char :=
  paddedText 2 t.hour ++ ':' :: paddedText 2 t.minute ++ ':' :: paddedText 2 t.secondOfMinute
    ++ fractionText t.fraction

/-- `2024-02-29 23:59:60.250` -/
def Timestamp.text (t : Timestamp) : List Char :=
  t.date.text ++ ' ' :: t.time.text

/-- `2024-02-29 23:59:60.250+00` -/
def Timestamp.universalText (t : Timestamp) : List Char :=
  t.text ++ ['+', '0', '0']

/-! ### Reading -/

def readBy? {α : Type} (value? : LayoutFields → Option α) (s : List Char)
    (layout : List LayoutField) : Option α :=
  (readLayout? layout {} s).bind value?

def readDay? (s : List Char) : Option Date :=
  readBy? LayoutFields.date? s dateLayout

def readTime? (s : List Char) : Option Time :=
  timeLayouts.findSome? (readBy? LayoutFields.time? s)

/-- Read a timestamp, a day alone at its midnight. -/
def readTimestamp? (s : List Char) : Option Timestamp :=
  match timestampLayouts.findSome? (readBy? LayoutFields.timestamp? s) with
  | some t => some t
  | none => (readDay? s).map fun d => ⟨d, Time.midnight⟩

def readDate? (s : List Char) : Option Date :=
  match readDay? s with
  | some d => some d
  | none => (readTimestamp? s).map Timestamp.date

/-- Read a timestamp in universal time, by its offset if it has one. -/
def readUniversal? (s : List Char) : Option Timestamp :=
  match readInternet? s with
  | some t => some t
  | none =>
    match zonedLayouts.findSome? (readBy? LayoutFields.universal? s) with
    | some t => some t
    | none => readTimestamp? s

end ForeignData
