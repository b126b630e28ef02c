import ForeignData.Text.Blank
import ForeignData.Text.CaseTable

/-!
# Lower case

The lower-case form of a text by Unicode's full mapping: character by character, except that a
capital sigma that ends a word becomes a final sigma, and that a capital I with a dot keeps its dot
as a mark of its own.
-/

namespace ForeignData

def isCased (c : Char) : Bool :=
  inRanges casedRanges c.toNat

/-- A character that case rules look through. -/
def isCaseIgnorable (c : Char) : Bool :=
  inRanges caseIgnorableRanges c.toNat

/-- Whether a code point belongs to a run. -/
def LowerRun.covers (r : LowerRun) (n : Nat) : Bool :=
  r.first ≤ n && n ≤ r.last && (n - r.first) % r.stride == 0

/-- The lower-case form of one character, without regard to its neighbours. -/
def lowerChar (c : Char) : Char :=
  match lowerRuns.find? (LowerRun.covers · c.toNat) with
  | some r => Char.ofNat ((c.toNat : Int) + r.shift).toNat
  | none => c

/-- The first character that case rules do not look through has case. -/
def startsCased (s : List Char) : Bool :=
  match s.dropWhile isCaseIgnorable with
  | [] => false
  | c :: _ => isCased c

/-- Lower the characters of a text; `before` holds those already passed, the last one first. -/
def lowerFrom (before : List Char) : List Char → List Char
  | [] => []
  | c :: s =>
    let lowered :=
      if c = 'Σ' then
        [if startsCased before && !startsCased s then 'ς' else 'σ']
      else if c = 'İ' then
        ['i', Char.ofNat 0x307]
      else
        [lowerChar c]
    lowered ++ lowerFrom (c :: before) s

/-- The lower-case form of a text. -/
def lower (s : String) : String :=
  String.ofList (lowerFrom [] s.toList)

end ForeignData
