import ForeignData.Sqlite.Condition
import ForeignData.Sqlite.LogEst

/-!
# Searches

A search goes through a table, or through an index of it: through all rows, or through those with
given values in some first columns and with bounds on the next one. It has an order of its rows, and
a line that tells of it in a plan.

Of the ways to the rows of a table, each with its search, those are kept that none of the others
makes useless. A way that serves all conditions of another one, and more, is never taken to be
worse.
-/

namespace ForeignData.Sqlite

/-- A search in the table or in an index: by equality on some first columns, and by bounds on the
next. Without any of these it is a walk through all rows. -/
structure Search where
  /-- The index that is searched; otherwise it is the table itself. -/
  index : Option Index
  equal : Nat
  lower : Bool
  upper : Bool
  /-- The index has all columns that are asked for. -/
  covering : Bool

/-! ### Lines of plans and orders of rows -/

def searchConditions (names : List String) (equal : Nat) (lower upper : Bool) : String :=
  let bounded := (names[equal]?).getD ""
  let parts := (names.take equal).map (· ++ "=?")
    ++ (if lower then [bounded ++ ">?"] else []) ++ (if upper then [bounded ++ "<?"] else [])
  "(" ++ " AND ".intercalate parts ++ ")"

namespace Search

/-- The line of a plan for a way to the rows of a table, which is named as the query names it. -/
def describe (s : Search) (t : Table) (name : String) : String :=
  let isSearch := s.equal != 0 || s.lower || s.upper
  let how := (if isSearch then "SEARCH " else "SCAN ") ++ name
  match s.index with
  | none =>
    if isSearch then
      how ++ " USING INTEGER PRIMARY KEY "
        ++ searchConditions ["rowid"] s.equal s.lower s.upper
    else
      how
  | some index =>
    let names := (t.keptPlaces index).map fun p => (t.columns[p]?.map Column.name).getD ""
    let names := if t.hasRowid then names ++ ["rowid"] else names
    let conditions :=
      if isSearch then " " ++ searchConditions names s.equal s.lower s.upper else ""
    if index.holdsRows then
      if isSearch then how ++ " USING PRIMARY KEY" ++ conditions else how
    else
      how ++ (if s.covering then " USING COVERING INDEX " else " USING INDEX ") ++ index.name
        ++ conditions

/-- The cells by which the rows of a search are ordered. Behind the columns of an index there is the
key, which goes upwards in an index that a table brings with it. -/
def orderOf (s : Search) (t : Table) (r : Row) : List SortCell :=
  match s.index with
  | none => t.keyOrder r
  | some index =>
    let key := t.keyOrder r
    let upwards := key.map fun c => { c with descending := false }
    t.indexOrder index r ++ if index.isOwn then upwards else key

end Search

/-! ### Ways -/

/-- A way to the rows: its search, the numbers of the terms that the search serves, whether one of
them ties a column of an index to a value, its cost, and the number of rows expected. -/
structure AccessPath where
  search : Search
  served : List Nat
  isTied : Bool
  cost : LogEst
  rows : LogEst

namespace AccessPath

/-- Whether a way goes through an index. -/
def isIndexed (path : AccessPath) : Bool :=
  path.search.index.isSome

/-- The columns of an index that have given values, where a way goes through one. -/
def settledColumns? (path : AccessPath) : Option (String × Nat) :=
  path.search.index.map fun index => (index.name, path.search.equal)

/-- Whether a way asks for less than another one, but is not worse both in cost and in rows: it
has given values for fewer columns of the same index, or serves some but not all of the terms. -/
def isLesserPart (path other : AccessPath) : Bool :=
  let isShorter :=
    match path.settledColumns?, other.settledColumns? with
    | some (index, equal), some (otherIndex, otherEqual) =>
      index == otherIndex && equal < otherEqual
    | _, _ => false
  let isPart :=
    path.served.length < other.served.length && path.served.all other.served.contains
      && !(path.search.covering && !other.search.covering)
  !(other.cost < path.cost && other.rows < path.rows) && (isShorter || isPart)

/-- The estimates of a new way, beside one that is known already: the one of the two that serves
more is not to be worse. -/
def beside (path known : AccessPath) : AccessPath :=
  if path.isIndexed && known.isIndexed then
    if known.isLesserPart path then
      { path with cost := min known.cost path.cost, rows := min (known.rows - 1) path.rows }
    else if path.isLesserPart known then
      { path with cost := max known.cost path.cost, rows := max (known.rows + 1) path.rows }
    else
      path
  else
    path

/-- Whether a way is as good as another in cost and in rows. -/
def isAsGood (path other : AccessPath) : Bool :=
  path.cost ≤ other.cost && path.rows ≤ other.rows

/-- Take out the ways that a way makes useless, up to one that is as good itself. -/
def purge (path : AccessPath) : List AccessPath → List AccessPath
  | [] => []
  | known :: paths =>
    if known.isAsGood path then known :: paths
    else if path.isAsGood known then purge path paths
    else known :: purge path paths

/-- Put a way in the place of those that it makes useless, or behind all, unless one of them is as
good. -/
def placeIn (path : AccessPath) : List AccessPath → List AccessPath
  | [] => [path]
  | known :: paths =>
    if known.isAsGood path then known :: paths
    else if path.isAsGood known then path :: purge path paths
    else known :: placeIn path paths

/-- The cost of a way together with that of preparing it and of what is before it, which are
nothing; the least costs are not told apart. -/
def totalCost (path : AccessPath) : LogEst :=
  LogEst.add (LogEst.add path.cost 0) 0

/-- Whether a way is taken rather than another one. -/
def isBetter (path other : AccessPath) : Bool :=
  path.totalCost < other.totalCost
    || path.totalCost == other.totalCost && path.rows < other.rows

end AccessPath

/-! ### Known ways -/

/-- The ways that are worth a look, in the order in which they are looked at. There may be a first
place that no way has taken yet; it is for a search by an index that would be made for the query
alone, which never pays. -/
structure KnownPaths where
  isFirstOpen : Bool
  paths : List AccessPath

namespace KnownPaths

/-- The cost of a search by an index that is made for a query. -/
def madeCost : LogEst := 53

/-- The number of rows of a search by an index that is made for a query. -/
def madeRows : LogEst := 43

/-- Add a way to those that are known. It takes an open first place if it ties a column to a value
or is as good as what the place is for. -/
def add (known : KnownPaths) (path : AccessPath) : KnownPaths :=
  let path := known.paths.foldl AccessPath.beside path
  let isAsGood := path.cost ≤ madeCost && path.rows ≤ madeRows
  if known.isFirstOpen && (path.isTied || isAsGood) then
    ⟨false, path :: path.purge known.paths⟩
  else
    { known with paths := path.placeIn known.paths }

/-- The way that is taken, the first one of the best. -/
def best? (known : KnownPaths) : Option AccessPath :=
  match known.paths with
  | [] => none
  | path :: paths =>
    some (paths.foldl (fun best path => if path.isBetter best then path else best) path)

end KnownPaths

end ForeignData.Sqlite
