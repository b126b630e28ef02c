import ForeignData.Numeric.Binary

/-!
# Estimates on a logarithmic scale

Numbers of rows and costs are estimated as ten times their logarithm to base two, rounded. Sums and
the way back to numbers go by the first bits only.
-/

namespace ForeignData.Sqlite

/-- Ten times the logarithm of an estimate. -/
abbrev LogEst := Int

namespace LogEst

/-- Ten times the logarithm of one to one and seven eighths, in steps of an eighth. -/
def eighths : List Int := [0, 2, 3, 5, 6, 7, 8, 9]

def ofNat (n : Nat) : LogEst :=
  if n < 2 then 0
  else
    let e := Nat.log2 n
    let eighth := n * 8 / twoPow e % 8
    10 * (e : Int) + eighths[eighth]?.getD 0

/-- What a smaller estimate adds to a larger one, by how much it is smaller. -/
def increments : List Int :=
  [10, 10, 9, 9, 8, 8, 7, 7, 7, 6, 6, 6, 5, 5, 5, 4, 4, 4, 4, 3, 3, 3, 3, 3, 3, 2, 2, 2, 2, 2, 2, 2]

def add (a b : LogEst) : LogEst :=
  let larger := max a b
  let gap := larger - min a b
  if 49 < gap then larger
  else if 31 < gap then larger + 1
  else larger + increments[gap.toNat]?.getD 0

/-- The number of rows of an estimate; below one thousand it may have a fraction. -/
def toRows (x : LogEst) : Binary64 :=
  let halvings := if x < 100 then ((109 - x) / 10).toNat else 0
  let x := (x + 10 * (halvings : Int)).toNat
  let rest := x % 10
  let eighth := if 5 ≤ rest then rest - 2 else if 1 ≤ rest then rest - 1 else 0
  .ofDyadic (eighth + 8 : Nat) ((x / 10 : Nat) - 3 - (halvings : Int))

end LogEst

end ForeignData.Sqlite
