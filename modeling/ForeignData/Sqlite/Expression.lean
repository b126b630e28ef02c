import ForeignData.Sqlite.Table

/-!
# Expressions over rows

The names of an expression are resolved by what they stand for. A resolved expression has a value on
every row, once its placeholders have values. Truth has three values: null is neither true nor
false.
-/

namespace ForeignData.Sqlite

/-! ### Resolution -/

/-- What a name stands for where no column has it. A name in double quotes is a text then. -/
def resolveOther (mark : Option Char) (s : String) : Checked (Expr Ref) :=
  if mark = some '"' then .ok (.constant (.ofText s))
  else if mark = none ∧ lowerAscii s = "true" then .ok (.constant (.integer 1))
  else if mark = none ∧ lowerAscii s = "false" then .ok (.constant (.integer 0))
  else .error ("no such column: " ++ s)

def callError (name : String) : String :=
  if (UnaryFunction.ofName? name).isSome then
    "wrong number of arguments to function " ++ name ++ "()"
  else
    "no such function: " ++ name

mutual

/-- Resolve the names of an expression, in order, by what they stand for. -/
def Expr.resolveBy (meaning : Option Char → String → Checked (Expr Ref)) :
    Expr Mention → Checked (Expr Ref)
  | .constant c => .ok (.constant c)
  | .hexadecimal spelling value => .ok (.hexadecimal spelling value)
  | .signed x => do return .signed (← x.resolveBy meaning)
  | .placeholder n => .ok (.placeholder n)
  | .ref (.name mark s) => meaning mark s
  | .ref (.function f) => .error (callError f)
  | .compare op x y => do return .compare op (← x.resolveBy meaning) (← y.resolveBy meaning)
  | .both x y => do return .both (← x.resolveBy meaning) (← y.resolveBy meaning)
  | .either x y => do return .either (← x.resolveBy meaning) (← y.resolveBy meaning)
  | .not x => do return .not (← x.resolveBy meaning)
  | .isNull x => do return .isNull (← x.resolveBy meaning)
  | .notNull x => do return .notNull (← x.resolveBy meaning)
  | .like x pattern => do return .like (← x.resolveBy meaning) (← pattern.resolveBy meaning)
  | .calculate op x y => do return .calculate op (← x.resolveBy meaning) (← y.resolveBy meaning)
  | .apply f x => do return .apply f (← x.resolveBy meaning)
  | .oneOf x choices => do
    return .oneOf (← x.resolveBy meaning) (← Expr.resolveAllBy meaning choices)

/-- Resolve the names of some expressions, in order. -/
def Expr.resolveAllBy (meaning : Option Char → String → Checked (Expr Ref)) :
    List (Expr Mention) → Checked (List (Expr Ref))
  | [] => .ok []
  | x :: xs => do return (← x.resolveBy meaning) :: (← Expr.resolveAllBy meaning xs)

end

/-- Refuse expressions with constants that have no value; the last of these is told of. -/
def checkSizes (xs : List (Expr Ref)) : Checked Unit :=
  match (Expr.allOversized xs).getLast? with
  | some spelling => .error ("hex literal too big: " ++ spelling)
  | none => .ok ()

/-! ### Truth -/

def truthCell : Option Bool → Cell
  | none => .null
  | some true => .integer 1
  | some false => .integer 0

def Cell.truth : Cell → Option Bool
  | .null => none
  | .integer v => some (v != 0)
  | .real v => some (!v.value.isZero)
  | .text bytes => some (!(leadingReal (byteChars bytes)).value.isZero)
  | .blob bytes => some (!(leadingReal (byteChars bytes)).value.isZero)

/-- Both hold; one that does not settles it. -/
def truthAnd : Option Bool → Option Bool → Option Bool
  | some false, _ => some false
  | _, some false => some false
  | some true, some true => some true
  | _, _ => none

/-- One of two holds; one that does settles it. -/
def truthOr : Option Bool → Option Bool → Option Bool
  | some true, _ => some true
  | _, some true => some true
  | some false, some false => some false
  | _, _ => none

/-- Whether two cells in an order satisfy a comparison. -/
def Comparison.holds : Comparison → Ordering → Bool
  | .eq, o => o == .eq
  | .ne, o => o != .eq
  | .lt, o => o == .lt
  | .le, o => o != .gt
  | .gt, o => o == .gt
  | .ge, o => o != .lt

/-- Compare two cells under an affinity and a collation; null cannot be compared. -/
def Comparison.apply (op : Comparison) (affinity : Affinity) (collation : Collation)
    (x y : Cell) : Option Bool :=
  if x = .null ∨ y = .null then
    none
  else
    let (x, y) := affinity.compared x y
    some (op.holds (x.compare collation y))

/-! ### Patterns -/

/-- Whether a text fits a pattern: a percent sign stands for any text, an underscore for any
character, and the case of ASCII letters makes no difference. -/
def likeMatches : List Char → List Char → Bool
  | [], [] => true
  | [], _ :: _ => false
  | '%' :: pattern, [] => likeMatches pattern []
  | '%' :: pattern, c :: s => likeMatches pattern (c :: s) || likeMatches ('%' :: pattern) s
  | _ :: _, [] => false
  | p :: pattern, c :: s => (p == '_' || p.toLower == c.toLower) && likeMatches pattern s
termination_by pattern s => (pattern.length + s.length, s.length)

/-- The text of a cell for a pattern; null has none. -/
def Cell.patternText (c : Cell) : Option (List Char) :=
  match c.numberToText with
  | .text bytes => some (lossyText bytes).toList
  | .blob bytes => some (lossyText bytes).toList
  | _ => none

def Cell.likes (c pattern : Cell) : Option Bool := do
  return likeMatches (← pattern.patternText) (← c.patternText)

/-! ### Values -/

/-- What an expression is evaluated against. -/
structure Env where
  placeholder : Nat → Cell
  cell : Ref → Cell
  affinity : Ref → Affinity
  collation : Ref → Option Collation

def Env.constant (placeholder : Nat → Cell) : Env where
  placeholder
  cell _ := .null
  affinity _ := .blob
  collation _ := none

def Env.ofRow (placeholder : Nat → Cell) (t : Table) (r : Row) : Env where
  placeholder
  cell
    | .column place => r.cell place
    | .rowid => .integer r.rowid
  affinity
    | .column place => t.affinity place
    | .rowid => .integer
  collation
    | .column place => t.collation place
    | .rowid => none

/-- The affinity that an expression has: only columns have one. -/
def Env.affinityOf (env : Env) : Expr Ref → Option Affinity
  | .ref r => some (env.affinity r)
  | _ => none

/-- The affinity under which two expressions are compared: that of the only column, or a common one
of two columns. -/
def Env.comparedAffinity (env : Env) (x y : Expr Ref) : Affinity :=
  match env.affinityOf x, env.affinityOf y with
  | some a, some b => if a.isNumeric || b.isNumeric then .numeric else .blob
  | some a, none => a
  | none, some b => b
  | none, none => .blob

/-- The collation that an expression has: that of a column, also behind a sign. -/
def Env.collationOf (env : Env) : Expr Ref → Option Collation
  | .ref r => env.collation r
  | .signed x => env.collationOf x
  | _ => none

/-- The collation under which two expressions are compared: that of the first that has one. -/
def Env.comparedCollation (env : Env) (x y : Expr Ref) : Collation :=
  ((env.collationOf x).or (env.collationOf y)).getD .binary

mutual

def Expr.eval (env : Env) : Expr Ref → Cell
  | .constant c => c
  | .hexadecimal _ value => (value.map Cell.integer).getD .null
  | .signed x => x.eval env
  | .placeholder n => env.placeholder n
  | .ref r => env.cell r
  | .compare op x y =>
    truthCell (op.apply (env.comparedAffinity x y) (env.comparedCollation x y) (x.eval env)
      (y.eval env))
  | .both x y => truthCell (truthAnd (x.eval env).truth (y.eval env).truth)
  | .either x y => truthCell (truthOr (x.eval env).truth (y.eval env).truth)
  | .not x => truthCell ((x.eval env).truth.map (!·))
  | .isNull x => truthCell (some (x.eval env == .null))
  | .notNull x => truthCell (some (x.eval env != .null))
  | .like x pattern => truthCell ((x.eval env).likes (pattern.eval env))
  | .calculate op x y => op.apply (x.eval env) (y.eval env)
  | .apply f x => f.apply (x.eval env)
  | .oneOf x choices =>
    truthCell (Expr.evalOneOf env ((env.affinityOf x).getD .blob)
      ((env.collationOf x).getD .binary) (x.eval env) choices)

/-- Whether a cell equals the value of one of some expressions. -/
def Expr.evalOneOf (env : Env) (affinity : Affinity) (collation : Collation) (c : Cell) :
    List (Expr Ref) → Option Bool
  | [] => some false
  | x :: xs =>
    truthOr (Comparison.eq.apply affinity collation c (x.eval env))
      (Expr.evalOneOf env affinity collation c xs)

end

/-- Whether a condition lets a row pass. -/
def passes (env : Env) (condition : Option (Expr Ref)) : Bool :=
  match condition with
  | none => true
  | some x => (x.eval env).truth == some true

end ForeignData.Sqlite
