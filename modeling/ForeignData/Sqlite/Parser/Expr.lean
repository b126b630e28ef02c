import ForeignData.Sqlite.Parser.Basic

/-!
# Reading of expressions

Operators bind from the loosest to the tightest: alternatives, conjunctions, negation, equality with
the other tests of a value, order, and the levels of calculations. An expression may not be too
high, and some are settled as they are read. Names are not looked up.
-/

namespace ForeignData.Sqlite

namespace Parser

variable {α : Type}

/-- A whole number as a constant: in binary if it is too large. -/
def integerCell (negative : Bool) (n : Nat) : Cell :=
  let i : Int := if negative then -(n : Int) else n
  match toInt64? i with
  | some v => .integer v
  | none => .real (realOfNumeral ⟨negative, n, 0⟩)

def realCell (negative : Bool) (n : Numeral) : Cell :=
  .real (realOfNumeral { n with negative })

/-- A constant in hexadecimal: a word of 64 bits. The least word cannot be made negative. -/
def hexadecimalExpr (negative : Bool) (n : Nat) (spelling : String) : Expr Mention :=
  let v := if negative then -Int64.ofNat n else Int64.ofNat n
  if n < Int32.maxValue.toInt.toNat + 1 then
    .constant (.integer v)
  else
    let fits := n < UInt64.size && !(negative && v == Int64.minValue)
    .hexadecimal (if negative then "-" ++ spelling else spelling) (if fits then some v else none)

/-- A number; separators in it that are not between digits are an error of their own. -/
def number (negative : Bool) : Parser (Option (Expr Mention)) := do
  match ← peek with
  | some (.integer n) =>
    skip
    return some (.constant (integerCell negative n))
  | some (.hexadecimal n spelling) =>
    skip
    return some (hexadecimalExpr negative n spelling)
  | some (.real n) =>
    skip
    return some (.constant (realCell negative n))
  | some (.misseparated spelling) =>
    skip
    if (← peek) = some .illegal then unexpected else throw (unrecognized spelling)
  | _ => return none

def maxPlaceholder : Nat := 32766

def numberedPlaceholder (n : Nat) : Parser (Expr Mention) := do
  if n = 0 ∨ maxPlaceholder < n then
    throw ("variable number must be between ?1 and ?" ++ natString maxPlaceholder)
  modify fun s => { s with placeholders := max s.placeholders n }
  return .placeholder n

/-- The number of a placeholder that comes with none: the next after the greatest so far. -/
def nextPlaceholder : Parser Nat := do
  let n := (← get).placeholders + 1
  if maxPlaceholder < n then
    throw "too many SQL variables"
  modify fun s => { s with placeholders := n }
  return n

/-- A placeholder of a name, which has one number wherever it stands. One that begins with a hash
and a digit is none. -/
def namedPlaceholder (name : String) : Parser (Expr Mention) := do
  match name.toList with
  | '#' :: c :: _ =>
    if c.isDigit then
      throw (misplaced name)
  | _ => pure ()
  match (← get).names.lookup name with
  | some n => return .placeholder n
  | none =>
    let n ← nextPlaceholder
    modify fun s => { s with names := (name, n) :: s.names }
    return .placeholder n

def equality? : Token → Option Comparison
  | .symbol "=" | .symbol "==" => some .eq
  | .symbol "<>" | .symbol "!=" => some .ne
  | _ => none

def order? : Token → Option Comparison
  | .symbol "<" => some .lt
  | .symbol "<=" => some .le
  | .symbol ">" => some .gt
  | .symbol ">=" => some .ge
  | _ => none

/-- Items with commas between them, at least one. -/
def commaSeparated (item : Parser α) : Nat → Parser (List α)
  | 0 => unexpected
  | fuel + 1 => do
    let first ← item
    if ← acceptSymbol "," then
      return first :: (← commaSeparated item fuel)
    else
      return [first]

def maxHeight : Nat := 1000

/-- An expression that is made of others; it may not be too high. -/
def node (x : Expr Mention) : Parser (Expr Mention) := do
  if maxHeight < x.height then
    throw ("Expression tree is too large (maximum depth " ++ natString maxHeight ++ ")")
  return x

/-- Both of two conditions. A zero among them is all there is to them. -/
def bothOf (x y : Expr Mention) : Parser (Expr Mention) :=
  if x.isZero || y.isZero then pure (.constant (.integer 0)) else node (.both x y)

/-- Whether the value of an expression is the same wherever it stands. Truth and falsehood are
constants here, whatever a table may call by their names. -/
def isConstantOperand : Expr Mention → Bool
  | .constant _ | .hexadecimal .. | .placeholder _ => true
  | .signed x => isConstantOperand x
  | .calculate _ x y => isConstantOperand x && isConstantOperand y
  | .ref (.name none s) => ["true", "false"].contains (lowerAscii s)
  | _ => false

/-- Membership in a list of choices. A single choice that is constant is compared with. -/
def oneOf (x : Expr Mention) (choices : List (Expr Mention)) : Parser (Expr Mention) :=
  match choices with
  | [] => pure (.constant (.integer 0))
  | [y] => if isConstantOperand y then node (.compare .eq x (.signed y)) else node (.oneOf x [y])
  | choices => node (.oneOf x choices)

/-- The greatest number of arguments of a call. -/
def maxArguments : Nat := 127

def call (name : String) (arguments : List (Expr Mention)) : Parser (Expr Mention) := do
  if maxArguments < arguments.length then
    throw ("too many arguments on function " ++ name)
  match UnaryFunction.ofName? name, arguments with
  | some f, [x] => node (.apply f x)
  | _, _ => return .ref (.function name)

/-- The operators of calculations, from the ones that bind tightest to the loosest. -/
def calculations : List (List (String × Calculation)) :=
  [[("||", .join)],
   [("*", .multiply), ("/", .divide), ("%", .remainder)],
   [("+", .add), ("-", .subtract)],
   [("&", .bitAnd), ("|", .bitOr), ("<<", .shiftLeft), (">>", .shiftRight)]]

def calculation? (operators : List (String × Calculation)) : Token → Option Calculation
  | .symbol s => operators.lookup s
  | _ => none

def opposite (x : Expr Mention) : Expr Mention :=
  match x with
  | .constant (.integer v) =>
    if v = Int64.minValue then .calculate .subtract (.constant (.integer 0)) x
    else .signed (.constant (.integer (-v)))
  | x => .calculate .subtract (.constant (.integer 0)) x

mutual

/-- An expression: alternatives of conjunctions of conditions. -/
def expr : Nat → Parser (Expr Mention)
  | 0 => unexpected
  | fuel + 1 => do
    let x ← condition fuel
    let x ← conjunctions fuel x
    alternatives fuel x

def alternatives : Nat → Expr Mention → Parser (Expr Mention)
  | 0, _ => unexpected
  | fuel + 1, x => do
    if ← accept "or" then
      let y ← condition fuel
      let y ← conjunctions fuel y
      alternatives fuel (← node (.either x y))
    else
      return x

/-- Conditions that are to hold together with one before them. -/
def conjunctions : Nat → Expr Mention → Parser (Expr Mention)
  | 0, _ => unexpected
  | fuel + 1, x => do
    if ← accept "and" then
      let y ← condition fuel
      conjunctions fuel (← bothOf x y)
    else
      return x

def condition : Nat → Parser (Expr Mention)
  | 0 => unexpected
  | fuel + 1 => do
    if ← accept "not" then
      node (.not (← condition fuel))
    else
      let x ← ordered fuel
      tests fuel x

/-- Tests that follow an operand, one after the other. -/
def tests : Nat → Expr Mention → Parser (Expr Mention)
  | 0, _ => unexpected
  | fuel + 1, x => do
    match (← peek) >>= equality? with
    | some op =>
      skip
      let y ← ordered fuel
      tests fuel (← node (.compare op x y))
    | none =>
      if ← accept "isnull" then
        tests fuel (← node (.isNull x))
      else if ← accept "notnull" then
        tests fuel (← node (.notNull x))
      else if ← accept "is" then
        let negated ← accept "not"
        expect "null"
        tests fuel (← node (if negated then .notNull x else .isNull x))
      else if ← accept "not" then
        if ← accept "null" then
          tests fuel (← node (.notNull x))
        else
          let y ← membership fuel x
          tests fuel (← node (.not y))
      else if (← nextIs "like") || (← nextIs "in") then
        let y ← membership fuel x
        tests fuel y
      else
        return x

/-- A pattern or a list of choices. -/
def membership : Nat → Expr Mention → Parser (Expr Mention)
  | 0, _ => unexpected
  | fuel + 1, x => do
    if ← accept "like" then
      node (.like x (← ordered fuel))
    else
      expect "in"
      expectSymbol "("
      if ← acceptSymbol ")" then
        oneOf x []
      else
        let choices ← exprs fuel
        expectSymbol ")"
        oneOf x choices

/-- Operands compared by order. -/
def ordered : Nat → Parser (Expr Mention)
  | 0 => unexpected
  | fuel + 1 => do
    let x ← calculated fuel calculations.length
    orders fuel x

/-- Comparisons by order that follow an operand. -/
def orders : Nat → Expr Mention → Parser (Expr Mention)
  | 0, _ => unexpected
  | fuel + 1, x => do
    match (← peek) >>= order? with
    | some op =>
      skip
      let y ← calculated fuel calculations.length
      orders fuel (← node (.compare op x y))
    | none => return x

/-- Operands of calculations with the operators of a number of levels. -/
def calculated : Nat → Nat → Parser (Expr Mention)
  | 0, _ => unexpected
  | fuel + 1, 0 => operand fuel
  | fuel + 1, level + 1 => do
    let x ← calculated fuel level
    calculatedOn fuel level x

/-- Calculations with the operators of a level that follow an operand. -/
def calculatedOn : Nat → Nat → Expr Mention → Parser (Expr Mention)
  | 0, _, _ => unexpected
  | fuel + 1, level, x => do
    match (← peek) >>= calculation? (calculations[level]?.getD []) with
    | some op =>
      skip
      let y ← calculated fuel level
      calculatedOn fuel level (← node (.calculate op x y))
    | none => return x

/-- A constant, a placeholder, a name, a call, or an expression in parentheses. -/
def operand : Nat → Parser (Expr Mention)
  | 0 => unexpected
  | fuel + 1 => do
    if let some x ← number false then
      return x
    match ← peek with
    | some (.string s) =>
      skip
      return .constant (.ofText s)
    | some (.blob bytes) =>
      skip
      return .constant (.blob bytes)
    | some (.placeholder (some n)) =>
      skip
      numberedPlaceholder n
    | some (.placeholder none) =>
      skip
      return .placeholder (← nextPlaceholder)
    | some (.named s) =>
      skip
      namedPlaceholder s
    | some (.symbol "-") =>
      skip
      if let some x ← number true then
        return .signed x
      else
        node (opposite (← operand fuel))
    | some (.symbol "+") =>
      skip
      node (.signed (← operand fuel))
    | some (.symbol "(") =>
      skip
      let x ← expr fuel
      expectSymbol ")"
      return x
    | some token =>
      if isKeyword "null" token then
        skip
        return .constant .null
      else
        match nameOf? token with
        | some (mark, s) =>
          skip
          if ← acceptSymbol "(" then
            call s (← arguments fuel)
          else
            return .ref (.name mark s)
        | none => unexpected
    | none => unexpected

/-- The arguments of a call, up to the closing parenthesis. -/
def arguments : Nat → Parser (List (Expr Mention))
  | 0 => unexpected
  | fuel + 1 => do
    if ← acceptSymbol ")" then
      return []
    else if ← acceptSymbol "*" then
      expectSymbol ")"
      return []
    else
      let arguments ← exprs fuel
      expectSymbol ")"
      return arguments

/-- Expressions with commas between them, at least one. -/
def exprs : Nat → Parser (List (Expr Mention))
  | 0 => unexpected
  | fuel + 1 => do
    let x ← expr fuel
    if ← acceptSymbol "," then
      return x :: (← exprs fuel)
    else
      return [x]

end

/-- Enough fuel for an expression in what is left. -/
def fuel : Parser Nat := do
  return 20 * ((← get).tokens.length + 1)

end Parser

/-- Read an expression that is all of a text. -/
def parseExpr? (s : List Char) : Option (Expr Mention) :=
  let whole : Parser (Expr Mention) := do Parser.expr (← Parser.fuel)
  match whole.run { tokens := tokens s } with
  | .ok (x, rest) => if rest.tokens.isEmpty then some x else none
  | .error _ => none

end ForeignData.Sqlite
