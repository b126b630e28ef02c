/-!
# Splitting at a mark

A text is the parts between the places of a mark. There is one part more than there are marks, and
the parts with marks put back between them give the text again.
-/

namespace ForeignData

/-- The parts of a text between the places of a mark, empty ones included. -/
def splitAtMark (mark : Char) : List Char → List (List Char)
  | [] => [[]]
  | c :: s =>
    match splitAtMark mark s with
    | [] => [[c]]
    | part :: parts => if c = mark then [] :: part :: parts else (c :: part) :: parts

@[simp] theorem splitAtMark_nil (mark : Char) : splitAtMark mark [] = [[]] := rfl

/-- There is a first part, be it empty. -/
theorem splitAtMark_ne_nil (mark : Char) (s : List Char) : splitAtMark mark s ≠ [] := by
  cases s with
  | nil => simp
  | cons c s =>
    rw [splitAtMark]
    split
    · simp
    · split <;> simp

/-- The parts with marks between them are the text. -/
theorem intercalate_splitAtMark (mark : Char) (s : List Char) :
    [mark].intercalate (splitAtMark mark s) = s := by
  induction s with
  | nil => simp [List.intercalate]
  | cons c s ih =>
    rw [splitAtMark]
    split
    · next h => exact absurd h (splitAtMark_ne_nil mark s)
    · next part parts h =>
      rw [h] at ih
      cases parts <;> split <;> simp_all [List.intercalate]

end ForeignData
