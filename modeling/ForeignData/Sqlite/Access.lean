import ForeignData.Sqlite.Search

/-!
# Access to the rows of a table

How the rows of a query are reached: by a walk through the table or through an index that has all
columns of the query, or by a search for some values. Of the ways that there are, the cheapest is
taken, the first of equally cheap ones. The way decides the order of the rows, the line of the plan
and the number of rows that is expected, but not which rows pass.

Nothing is known of the sizes of tables, so that all are taken to be equally large. A condition that
no search serves is taken to let a bit fewer rows pass, and an equality a good deal fewer.
-/

namespace ForeignData.Sqlite

/-! ### Estimates -/

/-- The number of rows of a table of which nothing is known. -/
def tableRows : LogEst := 200

/-- The cost of finding a place in a table or an index. -/
def seekCost : LogEst := 43

/-- The cost of a row of a table on top of that of reaching it. -/
def rowCost : LogEst := 16

/-- The number of rows with given values in the first columns of an index, of which it has a number
of its own. -/
def equalRows (unique : Bool) (width equal : Nat) : LogEst :=
  if equal = 0 then tableRows
  else if width < equal || unique && equal == width then 0
  else [33, 32, 30, 28, 27][equal - 1]?.getD 23

/-- The number of rows within bounds, of a number of rows. To be present is a lower bound that
keeps out no rows to speak of. -/
def boundedRows (rows : LogEst) (lower : Option TestKind) (upper : Bool) : LogEst :=
  let count := (if lower.isSome then 1 else 0) + (if upper then 1 else 0)
  let narrowed := rows - (if lower = some .lower then 20 else 0) - (if upper then 20 else 0)
    - (if count = 2 then 20 else 0)
  min (rows - count) (max narrowed 10)

def Table.indexWidth (t : Table) (index : Index) : Nat :=
  let places := t.keptPlaces index
  places.foldl (fun width p => width + (t.columns[p]?.map Column.width).getD 1)
    (if t.hasRowid then 1 else 0)

def Table.rowWidth (t : Table) : Nat :=
  t.columns.foldl (fun width c => width + c.width) (if t.rowidColumn?.isNone then 1 else 0)

def Table.indexRowCost (t : Table) (index : Index) : LogEst :=
  1 + 15 * LogEst.ofNat (4 * t.indexWidth index) / LogEst.ofNat (4 * t.rowWidth)

/-! ### Goals -/

/-- What an access is for: the columns that are asked for, the conditions, and whether rows are to
be changed. -/
structure AccessGoal where
  table : Table
  used : List Nat
  terms : List Term
  forChange : Bool

namespace AccessGoal

/-- The terms that ask something of a column, with their numbers. -/
def testsOf (goal : AccessGoal) (r : Ref) : List (Nat × TestKind) :=
  (goal.terms.mapIdx fun number term => (number, term.test)).filterMap fun (number, test) =>
    test.bind fun test => if test.ref = r then some (number, test.kind) else none

/-- Whether a search that serves some terms serves a term, itself or by a part of it. -/
def isServed (goal : AccessGoal) (served : List Nat) (number : Nat) : Bool :=
  served.any fun other =>
    other == number || (goal.terms[other]?.bind Term.source) == some number

/-- Of a number of rows, the number of those that pass the conditions that a search does not
serve. -/
def remainingRows (goal : AccessGoal) (rows : LogEst) (served : List Nat) : LogEst :=
  let unserved := (goal.terms.mapIdx fun number term => (number, term)).filterMap
    fun (number, term) =>
      if term.onRow && term.source.isNone && !goal.isServed served number then some term else none
  let reduction (term : Term) : Int :=
    match term.test with
    | some ⟨_, .equal isCommon⟩ => if isCommon then 10 else 20
    | _ => 0
  min (rows - unserved.length) (tableRows - (unserved.map reduction).foldl max 0)

/-- Whether an index has all columns that are asked for. -/
def isCovered (goal : AccessGoal) (index : Index) : Bool :=
  index.holdsRows || goal.used.all (goal.table.coveredPlaces index).contains

/-! ### Ranges -/

/-- What can be searched: the table by its rowid, or an index by its columns. -/
structure Range where
  index : Option Index
  /-- What there can be conditions on, one after the other. -/
  refs : List Ref
  /-- The number of rows with given values in some first columns. -/
  equalRows : Nat → LogEst
  rowCost : LogEst
  covering : Bool

def tableRange : Range where
  index := none
  refs := [.rowid]
  equalRows := Sqlite.equalRows true 1
  rowCost := Sqlite.rowCost
  covering := true

/-- What can be searched for behind the columns of an index: the key, unless the index is that of
the declared key. -/
def suffixRefs (goal : AccessGoal) (index : Index) : List Ref :=
  if goal.table.isKeyIndex index then []
  else if goal.table.hasRowid then [.rowid]
  else ((goal.table.keptPlaces index).drop index.columns.length).map Ref.column

/-- The columns of an index, as they may be referred to. -/
def indexRefs (goal : AccessGoal) (index : Index) : List Ref :=
  index.columns.map fun place => goal.table.canonicalRef (.column place)

def indexRange (goal : AccessGoal) (index : Index) : Range where
  index := some index
  refs := goal.indexRefs index ++ goal.suffixRefs index
  equalRows := Sqlite.equalRows index.unique index.columns.length
  rowCost := goal.table.indexRowCost index
  covering := goal.isCovered index

/-- The part of a search that has been settled: the number of columns with given values, the terms
that are served, whether one of them ties a column to a value, the number of rows for one choice of
values, and the number of choices. -/
structure Settled where
  equal : Nat
  served : List Nat
  isTied : Bool
  rows : LogEst
  choices : LogEst

/-- The way of a search with some settled part and bounds on the next column. -/
def pathOf (goal : AccessGoal) (range : Range) (s : Settled) (lower upper : Bool) : AccessPath :=
  let found := LogEst.add seekCost (s.rows + range.rowCost)
  let cost := if range.covering then found else LogEst.add found (s.rows + Sqlite.rowCost)
  { search := ⟨range.index, s.equal, lower, upper, range.covering⟩
    served := s.served
    isTied := s.isTied && range.index.isSome
    cost := cost + s.choices
    rows := goal.remainingRows (s.rows + s.choices) s.served }

/-- Add the ways that end with an upper bound on a column. -/
def addUpper (goal : AccessGoal) (range : Range) (r : Ref) (s : Settled)
    (lower : Option (Nat × TestKind)) (known : KnownPaths) : KnownPaths :=
  let uppers := (goal.testsOf r).filter fun (_, kind) => kind == .upper
  uppers.foldl (fun known (number, _) =>
    let served := s.served ++ (lower.map Prod.fst).toList ++ [number]
    let rows := boundedRows s.rows (lower.map Prod.snd) true
    known.add (goal.pathOf range { s with served, rows } lower.isSome true)) known

/-- The part that is settled with a further column, of a kind of equality. -/
def Settled.extend (s : Settled) (range : Range) (number : Nat) (kind : TestKind) : Settled :=
  let rows := s.rows + (range.equalRows (s.equal + 1) - range.equalRows s.equal)
  { equal := s.equal + 1
    served := s.served ++ [number]
    isTied := s.isTied || kind.isEquality
    rows := if kind = .isNull then rows + 10 else rows
    choices :=
      match kind with
      | .oneOf count => s.choices + LogEst.ofNat count
      | _ => s.choices }

/-- Add the ways that search by conditions on columns, from a settled part on. -/
def addSearches (goal : AccessGoal) (range : Range) :
    List Ref → Settled → KnownPaths → KnownPaths
  | [], _, known => known
  | r :: refs, s, known =>
    (goal.testsOf r).foldl (fun known (number, kind) =>
      match kind with
      | .equal _ | .oneOf _ | .isNull =>
        let extended := s.extend range number kind
        let path := goal.pathOf range extended false false
        goal.addSearches range refs extended (known.add path)
      | .lower | .present =>
        let rows := boundedRows s.rows (some kind) false
        let bounded := { s with served := s.served ++ [number], rows }
        let known := known.add (goal.pathOf range bounded true false)
        goal.addUpper range r s (some (number, kind)) known
      | .upper =>
        let rows := boundedRows s.rows none true
        let bounded := { s with served := s.served ++ [number], rows }
        known.add (goal.pathOf range bounded false true)) known

def addRange (goal : AccessGoal) (range : Range) (known : KnownPaths) : KnownPaths :=
  goal.addSearches range range.refs ⟨0, [], false, tableRows, 0⟩ known

/-! ### Walks -/

def walk (goal : AccessGoal) : AccessPath where
  search := ⟨none, 0, false, false, true⟩
  served := []
  isTied := false
  cost := tableRows + rowCost
  rows := goal.remainingRows tableRows []

/-- The cost of looking up the rows of a walk through an index. The first conditions that the index
itself can decide make it less. -/
def lookupCost (goal : AccessGoal) (index : Index) : LogEst :=
  let kept := (goal.table.keptPlaces index).map Ref.column
  let decided := goal.terms.takeWhile fun term => term.refs.all kept.contains
  decided.foldl (fun cost term => cost - if term.isEquality then 20 else 1) (tableRows + rowCost)

/-- The walk through an index. Where there are rowids it is one only if it has all columns, in
narrower rows, and no row is to be changed. -/
def indexWalk? (goal : AccessGoal) (index : Index) : Option AccessPath :=
  let t := goal.table
  let covered := goal.isCovered index
  let isNarrow := LogEst.ofNat (4 * t.indexWidth index) < LogEst.ofNat (4 * t.rowWidth)
  if t.hasRowid && (!(covered && isNarrow) || goal.forChange) then
    none
  else
    let cost := tableRows + t.indexRowCost index
    some { search := ⟨some index, 0, false, false, (goal.indexRange index).covering⟩
           served := []
           isTied := false
           cost := if covered then cost else LogEst.add cost (goal.lookupCost index)
           rows := goal.remainingRows tableRows [] }

/-! ### Choice -/

/-- Whether there is a term that ties a column to a value. -/
def hasEquality (goal : AccessGoal) (r : Ref) : Bool :=
  (goal.testsOf r).any fun (_, kind) => kind.isEquality

/-- No more columns than this are looked at to see whether a search finds a single row. -/
def maxSingleColumns : Nat := 3

/-- The search for one row: by its rowid, or by all columns of a unique index. -/
def single? (goal : AccessGoal) : Option AccessPath :=
  if goal.table.hasRowid && goal.hasEquality .rowid then
    some { search := ⟨none, 1, false, false, true⟩, served := [], isTied := false,
           cost := 33, rows := 1 }
  else
    let isSettled (index : Index) : Bool :=
      index.unique && index.columns.length ≤ maxSingleColumns
        && (goal.indexRefs index).all goal.hasEquality
    (goal.table.indexes.find? isSettled).map fun index =>
      { search := ⟨some index, index.columns.length, false, false, goal.isCovered index⟩
        served := [], isTied := true, cost := 39, rows := 1 }

/-- Whether a way is known to find no more than one row. -/
def findsOne (goal : AccessGoal) (path : AccessPath) : Bool :=
  goal.single?.isSome ||
    match path.search.index with
    | none => false
    | some index =>
      let isGiven place :=
        (goal.table.columns[place]?.map Column.notNull).getD false
          && goal.hasEquality (goal.table.canonicalRef (.column place))
      index.unique && index.columns.length ≤ path.search.equal && index.columns.all isGiven

/-- The ways that are worth a look. Where there are rowids, an equality could have an index made. -/
def knownPaths (goal : AccessGoal) : KnownPaths :=
  let t := goal.table
  let isTied := (List.range t.columns.length).any fun place => goal.hasEquality (.column place)
  let known : KnownPaths := ⟨t.hasRowid && isTied, []⟩
  let known := if t.hasRowid then goal.addRange tableRange (known.add goal.walk) else known
  t.indexes.foldl (fun known index =>
    let known := (goal.indexWalk? index).toList.foldl KnownPaths.add known
    goal.addRange (goal.indexRange index) known) known

def best (goal : AccessGoal) : AccessPath :=
  (goal.single? <|> goal.knownPaths.best?).getD goal.walk

end AccessGoal

end ForeignData.Sqlite
