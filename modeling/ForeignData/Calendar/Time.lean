/-!
# Times of day

A time of day counts whole seconds and nanoseconds. The last second of a minute may be followed by
a leap second, which is counted as further nanoseconds of that second.
-/

namespace ForeignData

def nanosPerSecond : Nat := 1000000000

def secondsPerDay : Nat := 86400

/-- A second of the day, with a fraction that passes one second only in a leap second. -/
def IsTime (second nanos : Nat) : Prop :=
  second < secondsPerDay ∧
    (nanos < nanosPerSecond ∨ (nanos < 2 * nanosPerSecond ∧ second % 60 = 59))

instance (second nanos : Nat) : Decidable (IsTime second nanos) :=
  inferInstanceAs (Decidable (_ ∧ _))

/-- A time of day: seconds since midnight and nanoseconds. -/
structure Time where
  second : Nat
  nanos : Nat
  isTime : IsTime second nanos
  deriving DecidableEq

namespace Time

def ofSeconds? (second nanos : Nat) : Option Time :=
  if h : IsTime second nanos then some ⟨second, nanos, h⟩ else none

@[simp] theorem ofSeconds?_self (t : Time) : ofSeconds? t.second t.nanos = some t := by
  simp [ofSeconds?, t.isTime]

def ofHms? (hour minute second nanos : Nat) : Option Time :=
  if hour < 24 ∧ minute < 60 ∧ second < 60 then
    ofSeconds? (3600 * hour + 60 * minute + second) nanos
  else
    none

def midnight : Time := ⟨0, 0, by decide⟩

def hour (t : Time) : Nat := t.second / 3600

def minute (t : Time) : Nat := t.second / 60 % 60

/-- The second of the minute, 60 in a leap second. -/
def secondOfMinute (t : Time) : Nat := t.second % 60 + t.nanos / nanosPerSecond

/-- The nanoseconds of the second, also of a leap second. -/
def fraction (t : Time) : Nat := t.nanos % nanosPerSecond

end Time

end ForeignData
