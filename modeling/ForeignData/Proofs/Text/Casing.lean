import Mathlib.Data.List.Forall2
import ForeignData.Text.Blank

/-!
# Case of letters

Words that are compared without regard to the case of ASCII letters. What such a text looks like in
lower case is a word of small letters exactly if each of its letters is the one of the word, small
or capital.
-/

namespace ForeignData

/-! ### Letters -/

lemma toNat_toLower (c : Char) :
    c.toLower.toNat = if 65 ≤ c.toNat ∧ c.toNat ≤ 90 then c.toNat + 32 else c.toNat := by
  have hrange : c.val ≥ 'A'.val ∧ c.val ≤ 'Z'.val ↔ 65 ≤ c.toNat ∧ c.toNat ≤ 90 :=
    and_congr UInt32.le_iff_toNat_le UInt32.le_iff_toNat_le
  unfold Char.toLower
  split
  case isTrue h =>
    rw [if_pos (hrange.1 h)]
    have hsum := UInt32.toNat_add c.val ('a'.val - 'A'.val)
    have hshift : ('a'.val - 'A'.val).toNat = 32 := by decide
    have hbound := hrange.1 h
    have hval : c.toNat = c.val.toNat := rfl
    rw [hshift, Nat.mod_eq_of_lt (by omega)] at hsum
    exact hsum
  case isFalse h => rw [if_neg fun h' => h (hrange.2 h')]

lemma toNat_toUpper (c : Char) :
    c.toUpper.toNat = if 97 ≤ c.toNat ∧ c.toNat ≤ 122 then c.toNat - 32 else c.toNat := by
  have hrange : 'a'.val ≤ c.val ∧ c.val ≤ 'z'.val ↔ 97 ≤ c.toNat ∧ c.toNat ≤ 122 :=
    and_congr UInt32.le_iff_toNat_le UInt32.le_iff_toNat_le
  unfold Char.toUpper
  split
  case isTrue h =>
    rw [if_pos (hrange.1 h)]
    have hsum := UInt32.toNat_add c.val ('A'.val - 'a'.val)
    have hshift : ('A'.val - 'a'.val).toNat = 2 ^ 32 - 32 := by decide
    have hbound := hrange.1 h
    have hval : c.toNat = c.val.toNat := rfl
    rw [hshift] at hsum
    have hmod : (c.val.toNat + (2 ^ 32 - 32)) % 2 ^ 32 = c.toNat - 32 := by omega
    exact hsum.trans hmod
  case isFalse h => rw [if_neg fun h' => h (hrange.2 h')]

lemma isLower_iff_toNat (c : Char) : c.isLower = true ↔ 97 ≤ c.toNat ∧ c.toNat ≤ 122 := by
  change (decide (97 ≤ c.val) && decide (c.val ≤ 122)) = true ↔ _
  rw [Bool.and_eq_true, decide_eq_true_eq, decide_eq_true_eq]
  exact Iff.rfl

/-- What is a small letter in lower case is that letter or its capital. -/
lemma toLower_eq_iff {c d : Char} (hc : c.isLower = true) :
    d.toLower = c ↔ d = c ∨ d = c.toUpper := by
  rw [isLower_iff_toNat] at hc
  simp only [← Char.toNat_inj, toNat_toLower, toNat_toUpper, if_pos hc]
  split <;> omega

/-! ### Words -/

/-- A text is a word with each letter as it is or as a capital. -/
def SpellsInAnyCase (word s : String) : Prop :=
  List.Forall₂ (fun c d => d = c ∨ d = c.toUpper) word.toList s.toList

lemma lowerAscii_eq_iff {word s : String} (hword : word.toList.all Char.isLower = true) :
    lowerAscii s = word ↔ SpellsInAnyCase word s := by
  have htext : lowerAscii s = word ↔ s.toList.map Char.toLower = word.toList := by
    rw [← String.toList_inj, lowerAscii, String.toList_ofList]
  rw [htext, SpellsInAnyCase]
  rw [List.all_eq_true] at hword
  generalize word.toList = cs at hword
  generalize s.toList = ds
  induction cs generalizing ds with
  | nil => rw [List.map_eq_nil_iff, List.forall₂_nil_left_iff]
  | cons c cs ih =>
    obtain ⟨hc, hcs⟩ := List.forall_mem_cons.1 hword
    cases ds with
    | nil => simp
    | cons d ds =>
      rw [List.map_cons, List.cons.injEq, List.forall₂_cons]
      exact and_congr (toLower_eq_iff hc) (ih hcs ds)

end ForeignData
