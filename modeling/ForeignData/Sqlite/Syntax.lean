import ForeignData.Sqlite.Calculation

/-!
# Statements of SQL

The statements that are understood: queries of one table or of none, the three changes of a table,
the listing of a table's columns, and the plan of any of these. Expressions compare and combine
constants, placeholders and what they refer to; as they are read they refer to names, and once those
are resolved, to columns.
-/

namespace ForeignData.Sqlite

/-- A refusal, as it is worded. -/
abbrev Checked (α : Type) := Except String α

/-- What a resolved expression refers to in a row. -/
inductive Ref where
  | column (place : Nat)
  | rowid
  deriving DecidableEq

inductive Comparison where
  | eq
  | ne
  | lt
  | le
  | gt
  | ge
  deriving DecidableEq

/-- An expression over references of a kind `ρ`. -/
inductive Expr (ρ : Type) where
  | constant (c : Cell)
  /-- A constant in hexadecimal of more than 31 bits, with its value if it fits into 64 bits. -/
  | hexadecimal (spelling : String) (value : Option Int64)
  /-- An operand behind a sign, which its value has already. -/
  | signed (x : Expr ρ)
  | placeholder (number : Nat)
  | ref (r : ρ)
  | compare (op : Comparison) (x y : Expr ρ)
  | both (x y : Expr ρ)
  | either (x y : Expr ρ)
  | not (x : Expr ρ)
  | isNull (x : Expr ρ)
  | notNull (x : Expr ρ)
  | like (x pattern : Expr ρ)
  | oneOf (x : Expr ρ) (choices : List (Expr ρ))
  | calculate (op : Calculation) (x y : Expr ρ)
  | apply (f : UnaryFunction) (x : Expr ρ)

mutual

/-- The height of an expression: that of what has no parts is one. -/
def Expr.height {ρ : Type} : Expr ρ → Nat
  | .constant _ | .hexadecimal .. | .placeholder _ | .ref _ => 1
  | .signed x | .not x | .isNull x | .notNull x | .apply _ x => x.height + 1
  | .compare _ x y | .both x y | .either x y | .like x y | .calculate _ x y =>
    Nat.max x.height y.height + 1
  | .oneOf x choices => Nat.max x.height (Expr.heightAll choices) + 1

def Expr.heightAll {ρ : Type} : List (Expr ρ) → Nat
  | [] => 0
  | x :: xs => Nat.max x.height (Expr.heightAll xs)

end

mutual

def Expr.refs {ρ : Type} : Expr ρ → List ρ
  | .constant _ => []
  | .hexadecimal .. => []
  | .signed x => x.refs
  | .placeholder _ => []
  | .ref r => [r]
  | .compare _ x y => x.refs ++ y.refs
  | .both x y => x.refs ++ y.refs
  | .either x y => x.refs ++ y.refs
  | .not x => x.refs
  | .isNull x => x.refs
  | .notNull x => x.refs
  | .like x pattern => x.refs ++ pattern.refs
  | .calculate _ x y => x.refs ++ y.refs
  | .apply _ x => x.refs
  | .oneOf x choices => x.refs ++ Expr.allRefs choices

def Expr.allRefs {ρ : Type} : List (Expr ρ) → List ρ
  | [] => []
  | x :: xs => x.refs ++ Expr.allRefs xs

end

mutual

/-- The spellings of the constants in hexadecimal that have no value. -/
def Expr.oversized {ρ : Type} : Expr ρ → List String
  | .constant _ => []
  | .hexadecimal spelling value => if value.isNone then [spelling] else []
  | .signed x => x.oversized
  | .placeholder _ => []
  | .ref _ => []
  | .compare _ x y => x.oversized ++ y.oversized
  | .both x y => x.oversized ++ y.oversized
  | .either x y => x.oversized ++ y.oversized
  | .not x => x.oversized
  | .isNull x => x.oversized
  | .notNull x => x.oversized
  | .like x pattern => x.oversized ++ pattern.oversized
  | .calculate _ x y => x.oversized ++ y.oversized
  | .apply _ x => x.oversized
  | .oneOf x choices => x.oversized ++ Expr.allOversized choices

/-- The spellings of the constants in hexadecimal of some expressions that have no value. -/
def Expr.allOversized {ρ : Type} : List (Expr ρ) → List String
  | [] => []
  | x :: xs => x.oversized ++ Expr.allOversized xs

end

/-- Whether an expression is the constant zero, written without a sign. -/
def Expr.isZero {ρ : Type} : Expr ρ → Bool
  | .constant (.integer v) => v == 0
  | _ => false

/-- What an expression refers to as it is read. -/
inductive Mention where
  /-- A name, with the mark that it is written in, if any. -/
  | name (mark : Option Char) (s : String)
  | function (name : String)
  deriving DecidableEq

/-- The greatest number of result columns, and of new values. -/
def maxColumns : Nat := 2000

/-- A result column of a query. -/
inductive ResultItem (ρ : Type) where
  | value (x : Expr ρ)
  | allColumns

inductive Statement where
  | select (items : List (ResultItem Mention)) (table : Option String)
      (condition : Option (Expr Mention))
  | insert (table : String) (columns : Option (List String)) (values : List (Expr Mention))
  | insertDefaults (table : String)
  | update (table : String) (sets : List (String × Expr Mention))
      (condition : Option (Expr Mention))
  | delete (table : String) (condition : Option (Expr Mention))
  /-- The columns of a table. -/
  | tableInfo (table : String)
  | explain (statement : Statement)

/-- A statement with the greatest number of a placeholder in it. -/
structure ParsedStatement where
  statement : Statement
  placeholders : Nat

end ForeignData.Sqlite
