import ForeignData.Sqlite.Expression

/-!
# Conditions of a search

A condition on rows is made of terms that have to hold together. For the way to the rows it matters
which columns a term looks at, and whether it compares a single column with something that is the
same for all rows.

A query that ties a column to a value takes the value for the column in all its other conditions,
which are then no conditions on the row any more.
-/

namespace ForeignData.Sqlite

/-- What a condition asks of a column. -/
inductive TestKind where
  /-- It equals a value; zero, one and minus one are common ones. -/
  | equal (isCommon : Bool)
  /-- It equals one of a number of values. -/
  | oneOf (choices : Nat)
  | isNull
  /-- It is not null, and so comes behind all that is. -/
  | present
  | lower
  | upper
  deriving DecidableEq

/-- Whether a column is tied to one value. -/
def TestKind.isEquality : TestKind → Bool
  | .equal _ => true
  | _ => false

/-- A condition on one column or on the rowid. -/
structure ColumnTest where
  ref : Ref
  kind : TestKind
  deriving DecidableEq

/-- A condition that has to hold, as far as it matters for access. -/
structure Term where
  /-- What the condition refers to. -/
  refs : List Ref
  /-- Whether the condition looks at the row. -/
  onRow : Bool
  test : Option ColumnTest
  /-- The number of the term of which this one is a part, said once more. -/
  source : Option Nat := none

def Term.isEquality (term : Term) : Bool :=
  (term.test.map fun test => test.kind.isEquality).getD false

def Comparison.flip : Comparison → Comparison
  | .eq => .eq
  | .ne => .ne
  | .lt => .gt
  | .le => .ge
  | .gt => .lt
  | .ge => .le

/-- Whether an expression is one of the integers that many rows share. -/
def isCommonConstant : Expr Ref → Bool
  | .constant (.integer v) => -1 ≤ v.toInt && v.toInt ≤ 1
  | .signed x => isCommonConstant x
  | _ => false

/-- What a comparison of a column with a value asks of it. -/
def Comparison.testKind? (value : Expr Ref) : Comparison → Option TestKind
  | .eq => some (.equal (isCommonConstant value))
  | .ne => none
  | .lt | .le => some .upper
  | .gt | .ge => some .lower

def Table.canonicalRef (t : Table) : Ref → Ref
  | .column place => if t.rowidColumn? = some place then .rowid else .column place
  | .rowid => .rowid

/-- Whether there can be null where something is referred to. -/
def Table.canBeNull (t : Table) (r : Ref) : Bool :=
  match t.canonicalRef r with
  | .column place => !(t.columns[place]?.map Column.notNull).getD false
  | .rowid => false

def Table.refAffinity (t : Table) : Ref → Affinity
  | .column place => t.affinity place
  | .rowid => .integer

/-! ### Ties -/

/-- The conditions that a condition is made of. -/
def conjuncts : Expr Ref → List (Expr Ref)
  | .both x y => conjuncts x ++ conjuncts y
  | x => [x]

/-- Whether texts that are referred to are equal only if they are the same. -/
def Table.isExact (t : Table) : Ref → Bool
  | .column place => t.collation place == .binary
  | .rowid => true

/-- The column that an equality ties to a value. -/
def tiedRef? (t : Table) : Expr Ref → Option Ref
  | .compare .eq (.ref r) y =>
    if y.refs = [] ∧ t.isExact r then some (t.canonicalRef r) else none
  | .compare .eq x (.ref r) =>
    if x.refs = [] ∧ t.isExact r then some (t.canonicalRef r) else none
  | _ => none

/-! ### Terms -/

/-- The test that a comparison makes of a column, if one side is a column and the other does not
look at the row. A column for which a value stands is one on the left only. -/
def columnTest? (t : Table) (looksAtRow : Expr Ref → Bool) (op : Comparison) (x y : Expr Ref) :
    Option ColumnTest :=
  match x, y with
  | .ref r, other =>
    if looksAtRow other then none
    else (op.testKind? other).map fun kind => ⟨t.canonicalRef r, kind⟩
  | other, .ref r =>
    if looksAtRow other || !looksAtRow (.ref r) then none
    else (op.flip.testKind? other).map fun kind => ⟨t.canonicalRef r, kind⟩
  | _, _ => none

/-- A condition where values stand for some columns. A column that takes all values as they are is
replaced as the side of a comparison only. What is known beforehand is no condition on the row. -/
def termOf (t : Table) (tied : List Ref) (x : Expr Ref) : Term :=
  let isTied r := tied.contains (t.canonicalRef r)
  let isFree r := !isTied r || t.refAffinity (t.canonicalRef r) == .blob
  let looksAtRow : Expr Ref → Bool
    | .ref r => !isTied r
    | side => side.refs.any isFree
  match x with
  | .compare op x y =>
    ⟨x.refs ++ y.refs, looksAtRow x || looksAtRow y, columnTest? t looksAtRow op x y, none⟩
  | .oneOf (.ref r) choices =>
    let inner := Expr.allRefs choices
    let test : ColumnTest := ⟨t.canonicalRef r, .oneOf choices.length⟩
    ⟨r :: inner, (r :: inner).any isFree, if inner.any isFree then none else some test, none⟩
  | .isNull (.ref r) =>
    if t.canBeNull r then ⟨[r], isFree r, some ⟨t.canonicalRef r, .isNull⟩, none⟩
    else ⟨[], false, none, none⟩
  | .notNull (.ref r) =>
    if t.canBeNull r then ⟨[r], isFree r, none, none⟩ else ⟨[], false, none, none⟩
  | x => ⟨x.refs, x.refs.any isFree, none, none⟩

/-- The terms of conditions where values stand for tied columns. It is the last tie of a column that
stays a condition on it. -/
def tiedTerms (t : Table) (tied : List Ref) : List (Expr Ref) → List Term
  | [] => []
  | x :: xs =>
    let own := (tiedRef? t x).filter fun r => !(xs.filterMap (tiedRef? t)).contains r
    termOf t (tied.filter fun r => own != some r) x :: tiedTerms t tied xs

/-- For each condition that a column is not null, a term that tests the column, the last one
first. -/
def presenceTerms (t : Table) (xs : List (Expr Ref)) (terms : List Term) : List Term :=
  let found := (xs.zip terms).mapIdx fun number (x, term) =>
    match x with
    | .notNull (.ref r) =>
      if t.canBeNull r then
        some { term with test := some ⟨t.canonicalRef r, .present⟩, source := some number }
      else
        none
    | _ => none
  (found.filterMap id).reverse

def queryTerms (t : Table) (condition : Expr Ref) : List Term :=
  let xs := conjuncts condition
  let terms := tiedTerms t (xs.filterMap (tiedRef? t)) xs
  terms ++ presenceTerms t xs terms

def changeTerms (t : Table) (condition : Expr Ref) : List Term :=
  let xs := conjuncts condition
  let terms := xs.map (termOf t [])
  terms ++ presenceTerms t xs terms

end ForeignData.Sqlite
