import ForeignData.Proofs.Calendar.Order
import ForeignData.Proofs.Sqlite.Order
import ForeignData.Proofs.Stored.Binding

/-!
# Bound dates and times in the order of time

Dates, times of day and timestamps are bound as texts. A database that compares such texts byte by
byte puts them in the order of time, if their years have four digits.
-/

namespace ForeignData

namespace Scalar

/-! ### Places in time -/

/-- The seconds to a date, a time of day or a timestamp, and the nanoseconds behind them, which are
more than a second has in a leap second. -/
def moment? : Scalar → Option (Int × Nat)
  | date d => some (d.toDays * secondsPerDay, 0)
  | time t => some (t.second, t.nanos)
  | timestamp t | timestamptz t => some (t.toSeconds, t.time.nanos)
  | _ => none

def year? : Scalar → Option Int
  | date d => some d.year
  | timestamp t | timestamptz t => some t.date.year
  | _ => none

/-! ### Order of bound texts -/

section

variable {ty : HostType} {a b : Scalar} {x y : Int × Nat}

lemma boundValue?_of_moment? (ha : a.isOfType ty = true) (hx : a.moment? = some x) :
    boundValue? ty a = some (.text a.write) := by
  cases a with
  | date d | time t | timestamp t | timestamptz t =>
    obtain rfl := eq_of_beq ha
    rfl
  | _ => cases hx

/-- The texts of values of one type with four digits in their years are in the order of time. -/
lemma compare_write_of_moment? (ha : a.isOfType ty = true) (hb : b.isOfType ty = true)
    (hx : a.moment? = some x) (hy : b.moment? = some y)
    (hyear : ∀ year ∈ a.year?, HasFourDigits year) (hyear' : ∀ year ∈ b.year?, HasFourDigits year) :
    compare a.write.toList b.write.toList = (compare x.1 y.1).then (compare x.2 y.2) := by
  cases a with
  | date d =>
    obtain rfl := eq_of_beq ha
    cases b with
    | date e =>
      cases hx
      cases hy
      have h := Date.compare_text (hyear _ rfl) (hyear' _ rfl) [] []
      rw [List.append_nil, List.append_nil] at h
      rw [write, write, String.toList_ofList, String.toList_ofList, h]
      have hdays : compare d.toDays e.toDays
          = compare (d.toDays * secondsPerDay) (e.toDays * secondsPerDay) := by
        unfold secondsPerDay
        exact compare_congr (by omega) (by omega)
      exact congrArg (Ordering.then · .eq) hdays
    | _ => cases hb
  | time t =>
    obtain rfl := eq_of_beq ha
    cases b with
    | time u =>
      cases hx
      cases hy
      have h := Time.compare_text .nil t u
      rw [List.append_nil, List.append_nil] at h
      rw [write, write, String.toList_ofList, String.toList_ofList, h]
      exact congrArg (Ordering.then · _) (compare_congr (by omega) (by omega))
    | _ => cases hb
  | timestamp t =>
    obtain rfl := eq_of_beq ha
    cases b with
    | timestamp u =>
      cases hx
      cases hy
      have h := Timestamp.compare_text (hyear _ rfl) (hyear' _ rfl) .nil
      rw [List.append_nil, List.append_nil] at h
      rw [write, write, String.toList_ofList, String.toList_ofList, h]
    | _ => cases hb
  | timestamptz t =>
    obtain rfl := eq_of_beq ha
    cases b with
    | timestamptz u =>
      cases hx
      cases hy
      rw [write, write, String.toList_ofList, String.toList_ofList]
      exact Timestamp.compare_text (hyear _ rfl) (hyear' _ rfl) (.cons _ (by decide))
    | _ => cases hb
  | _ => cases hx

end

end Scalar

end ForeignData
