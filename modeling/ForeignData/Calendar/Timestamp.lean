import ForeignData.Calendar.Date
import ForeignData.Calendar.Time

/-!
# Timestamps

A date with a time of day. A timestamp of a zone is moved to universal time by the offset of that
zone; a count of seconds since the first of January 1970 has its timestamp in universal time.
-/

namespace ForeignData

/-- A date and a time of day. -/
structure Timestamp where
  date : Date
  time : Time
  deriving DecidableEq

namespace Timestamp

/-- The number of seconds since the first of January 1970, leap seconds not counted. -/
def toSeconds (t : Timestamp) : Int :=
  t.date.toDays * secondsPerDay + t.time.second

/-- The timestamp of a number of seconds since the first of January 1970. -/
def ofSeconds? (seconds : Int) (nanos : Nat) : Option Timestamp := do
  let date ← Date.ofDays? (seconds / secondsPerDay)
  let time ← Time.ofSeconds? (seconds % secondsPerDay).toNat nanos
  return ⟨date, time⟩

/-- The timestamp that many seconds earlier, for less than a day either way. -/
def minusSeconds? (t : Timestamp) (seconds : Int) : Option Timestamp := do
  let total := t.time.second - seconds
  let date ←
    if total < 0 then t.date.previous?
    else if total < secondsPerDay then some t.date
    else t.date.next?
  let time ← Time.ofSeconds? (total % secondsPerDay).toNat t.time.nanos
  return ⟨date, time⟩

end Timestamp

end ForeignData
