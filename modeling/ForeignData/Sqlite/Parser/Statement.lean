import ForeignData.Sqlite.Parser.Expr

/-!
# Reading of statements

The statements that are understood, up to the end of the first one in a text. Names are not looked
up while a statement is read.
-/

namespace ForeignData.Sqlite

namespace Parser

/-- Another name for a result column; it plays no role. -/
def label : Parser Unit := do
  if ← accept "as" then
    let _ ← name
  else
    match ← peek with
    | some (.string _) => skip
    | some token => if (nameOf? token).isSome then skip
    | none => return ()

def resultItem : Parser (ResultItem Mention) := do
  if ← acceptSymbol "*" then
    return .allColumns
  else
    let x ← expr (← fuel)
    label
    return .value x

def whereClause : Parser (Option (Expr Mention)) := do
  if ← accept "where" then
    return some (← expr (← fuel))
  else
    return none

/-- A query behind its first word. -/
def select : Parser Statement := do
  let items ← commaSeparated resultItem (← fuel)
  let table ← if ← accept "from" then some <$> name else pure none
  return .select items table (← whereClause)

/-- The insertion of a row behind its first word. -/
def insert : Parser Statement := do
  expect "into"
  let table ← name
  if ← accept "default" then
    expect "values"
    return .insertDefaults table
  else
    let columns ←
      if ← acceptSymbol "(" then
        let columns ← commaSeparated name (← fuel)
        expectSymbol ")"
        pure (some columns)
      else
        pure none
    expect "values"
    expectSymbol "("
    let values ← exprs (← fuel)
    expectSymbol ")"
    return .insert table columns values

/-- A column with its new value. -/
def assignment : Parser (String × Expr Mention) := do
  let column ← name
  expectSymbol "="
  return (column, ← expr (← fuel))

/-- A change of rows behind its first word. The number of new values is looked at when the whole
change has been read. -/
def update : Parser Statement := do
  let table ← name
  expect "set"
  let sets ← commaSeparated assignment (← fuel)
  let condition ← whereClause
  match ← peek with
  | none | some (.symbol ";") =>
    if maxColumns < sets.length then
      throw "too many columns in set list"
  | some _ => pure ()
  return .update table sets condition

/-- The removal of rows behind its first word. -/
def delete : Parser Statement := do
  expect "from"
  let table ← name
  return .delete table (← whereClause)

/-- The listing of a table's columns behind its first word. -/
def pragma : Parser Statement := do
  expect "table_info"
  expectSymbol "("
  let table ← name
  expectSymbol ")"
  return .tableInfo table

def runnable : Parser Statement := do
  if ← accept "select" then select
  else if ← accept "insert" then insert
  else if ← accept "update" then update
  else if ← accept "delete" then delete
  else if ← accept "pragma" then pragma
  else unexpected

/-- A statement, or the wish for its plan, up to its end. -/
def statement : Parser Statement := do
  let explained ← accept "explain"
  if explained then
    expect "query"
    expect "plan"
  let parsed ← runnable
  match ← peek with
  | none | some (.symbol ";") => return if explained then .explain parsed else parsed
  | some _ => unexpected

end Parser

/-- Read the first statement of a text. There may be none. -/
def parse (sql : String) : Except String (Option ParsedStatement) :=
  match tokens sql.toList with
  | [] => .ok none
  | lexemes =>
    match Parser.statement.run { tokens := lexemes } with
    | .ok (statement, s) => .ok (some { statement, placeholders := s.placeholders })
    | .error message => .error message

end ForeignData.Sqlite
