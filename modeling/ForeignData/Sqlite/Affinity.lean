import ForeignData.Sqlite.Cell
import ForeignData.Text.Blank

/-!
# Affinity

The declared type of a column gives it an affinity, by the words that are in it. The affinity says
what becomes of values that are stored in the column or compared with it.
-/

namespace ForeignData.Sqlite

/-- What a column makes of the values that it is given. -/
inductive Affinity where
  /-- Every value stays as it is. -/
  | blob
  | text
  | numeric
  | integer
  | real
  deriving DecidableEq

/-- Whether a text occurs in another. -/
def occursIn (part : List Char) : List Char → Bool
  | [] => part.isEmpty
  | c :: s => part.isPrefixOf (c :: s) || occursIn part s

def Affinity.ofDeclared (declared : String) : Affinity :=
  let s := (lowerAscii declared).toList
  let has (word : String) := occursIn word.toList s
  if has "int" then integer
  else if has "char" || has "clob" || has "text" then text
  else if s = [] || has "blob" then blob
  else if has "real" || has "floa" || has "doub" then real
  else numeric

/-- Affinities that turn texts of numbers into numbers. -/
def Affinity.isNumeric : Affinity → Bool
  | numeric | integer | real => true
  | blob | text => false

/-- A number as text; other cells stay as they are. -/
def Cell.numberToText : Cell → Cell
  | .integer v => .ofText (intString v.toInt)
  | .real v => .ofText (String.ofList (realCellText v))
  | c => c

/-- The text of a number as that number; other cells stay as they are. -/
def Cell.textToNumber : Cell → Cell
  | .text bytes => (numberOfText? (byteChars bytes)).getD (.text bytes)
  | c => c

/-- An integral number as an integer; other cells stay as they are. -/
def Cell.toIntegral : Cell → Cell
  | .real v => integralCell v
  | c => c

/-- An integer as a number in binary; other cells stay as they are. -/
def Cell.toReal : Cell → Cell
  | .integer v => .real (.ofInt v.toInt)
  | c => c

/-- The cell that a column keeps of a value, as it is read again. -/
def Affinity.store (a : Affinity) (c : Cell) : Cell :=
  match a with
  | blob => c
  | text => c.numberToText
  | numeric | integer => c.textToNumber.toIntegral
  | real => c.textToNumber.toIntegral.toReal

/-- The two sides of a comparison with a column. A numeric column makes numbers of texts; a column
of texts makes texts of numbers where the other side is a text. -/
def Affinity.compared (a : Affinity) (x y : Cell) : Cell × Cell :=
  if a.isNumeric then
    (x.textToNumber, y.textToNumber)
  else if a = .text then
    match x, y with
    | .text _, _ | _, .text _ => (x.numberToText, y.numberToText)
    | _, _ => (x, y)
  else
    (x, y)

end ForeignData.Sqlite
