import Mathlib.Order.Compare
import ForeignData.Proofs.Text.Digits

/-!
# Order of texts

Texts are ordered character by character, and what a text begins with comes before it. Their bytes
are in the same order, as a character of a greater code has greater bytes in UTF-8. Numbers that are
written with the same width are in the order of their values.
-/

namespace ForeignData

/-! ### Numbers in parts -/

/-- Two results of comparisons agree if they are less and greater in the same cases. -/
lemma ordering_ext {o o' : Ordering} (hlt : o = .lt ↔ o' = .lt) (hgt : o = .gt ↔ o' = .gt) :
    o = o' := by
  cases o <;> cases o' <;> simp_all

lemma compare_congr {α β : Type} [LinearOrder α] [LinearOrder β] {a b : α} {c d : β}
    (hlt : a < b ↔ c < d) (hgt : b < a ↔ d < c) : compare a b = compare c d :=
  ordering_ext (by rw [compare_lt_iff_lt, compare_lt_iff_lt, hlt])
    (by rw [compare_gt_iff_gt, compare_gt_iff_gt]; exact hgt)

/-- A number is compared by its quotient and then by its remainder. -/
lemma compare_div_then_mod (m a b : Nat) :
    (compare (a / m) (b / m)).then (compare (a % m) (b % m)) = compare a b := by
  have ha := Nat.div_add_mod a m
  have hb := Nat.div_add_mod b m
  rcases lt_trichotomy (a / m) (b / m) with h | h | h
  · rw [compare_lt_iff_lt.2 h, compare_lt_iff_lt.2 (Nat.lt_of_div_lt_div h)]
    rfl
  · rw [compare_eq_iff_eq.2 h, Ordering.eq_then]
    rw [h] at ha
    exact compare_congr (by omega) (by omega)
  · rw [compare_gt_iff_gt.2 h, compare_gt_iff_gt.2 (Nat.lt_of_div_lt_div h)]
    rfl

/-- The last digits of a number to a base are compared by the digit in front and by the others. -/
lemma compare_mod_mul (m k a b : Nat) :
    (compare (a / m % k) (b / m % k)).then (compare (a % m) (b % m))
      = compare (a % (m * k)) (b % (m * k)) := by
  have hmod (n : Nat) : n % m = n % (m * k) % m :=
    (Nat.mod_mod_of_dvd n (Nat.dvd_mul_right m k)).symm
  rw [← Nat.mod_mul_right_div_self, ← Nat.mod_mul_right_div_self, hmod a, hmod b,
    compare_div_then_mod]

/-! ### Characters and bytes -/

lemma compare_char (c d : Char) : compare c d = compare c.toNat d.toNat := by
  have hlt : c < d ↔ c.toNat < d.toNat := Iff.rfl
  have heq : c = d ↔ c.toNat = d.toNat := Char.toNat_inj.symm
  change compareOfLessAndEq c d = compareOfLessAndEq c.toNat d.toNat
  simp only [compareOfLessAndEq, hlt, heq]

lemma compare_byte (a b : UInt8) : compare a b = compare a.toNat b.toNat := by
  have hlt : a < b ↔ a.toNat < b.toNat := Iff.rfl
  have heq : a = b ↔ a.toNat = b.toNat := UInt8.toNat_inj.symm
  change compareOfLessAndEq a b = compareOfLessAndEq a.toNat b.toNat
  simp only [compareOfLessAndEq, hlt, heq]

section Beginnings

variable {α : Type} [Ord α] [Std.ReflOrd α]

lemma compare_cons_self (a : α) (s t : List α) : compare (a :: s) (a :: t) = compare s t := by
  rw [List.compare_cons_cons, Std.ReflOrd.compare_self, Ordering.eq_then]

lemma compare_append_self (p s t : List α) : compare (p ++ s) (p ++ t) = compare s t := by
  induction p with
  | nil => rfl
  | cons a p ih => rw [List.cons_append, List.cons_append, compare_cons_self, ih]

end Beginnings

/-- The bytes of a character come before those of one with a greater code, whatever follows. -/
lemma compare_utf8EncodeChar_of_lt {c d : Char} (h : c.toNat < d.toNat) (s t : List UInt8) :
    compare (String.utf8EncodeChar c ++ s) (String.utf8EncodeChar d ++ t) = .lt := by
  have hbound (c : Char) : c.val.toNat < 0x110000 := by
    rcases c.valid with hlow | ⟨-, hhigh⟩
    · exact hlow.trans (by decide)
    · exact hhigh
  have hbyte {n : Nat} (hn : n < 256) : (UInt8.ofNat n).toNat = n := UInt8.toNat_ofNat_of_lt hn
  have hfour (v : Nat) : v / 4096 = v / 64 / 64 ∧ v / 262144 = v / 64 / 64 / 64 := by omega
  have hc := hbound c
  have hd := hbound d
  change c.val.toNat < d.val.toNat at h
  unfold String.utf8EncodeChar
  generalize c.val.toNat = v at *
  generalize d.val.toNat = w at *
  dsimp only
  -- the first byte is greater if there are more bytes, else the first six bits that differ decide
  split_ifs
  all_goals
    simp (disch := omega) only [List.cons_append, List.compare_cons_cons, Ordering.then_eq_lt,
      compare_byte, compare_lt_iff_lt, compare_eq_iff_eq, hbyte, hfour]
    omega

lemma compare_utf8EncodeChar (c d : Char) (s t : List UInt8) :
    compare (String.utf8EncodeChar c ++ s) (String.utf8EncodeChar d ++ t)
      = (compare c d).then (compare s t) := by
  rw [compare_char]
  rcases lt_trichotomy c.toNat d.toNat with h | h | h
  · rw [compare_utf8EncodeChar_of_lt h, compare_lt_iff_lt.2 h]
    rfl
  · obtain rfl := Char.toNat_inj.1 h
    rw [compare_append_self, compare_eq_iff_eq.2 rfl, Ordering.eq_then]
  · rw [Std.OrientedOrd.eq_swap, compare_utf8EncodeChar_of_lt h, compare_gt_iff_gt.2 h]
    rfl

/-- The bytes of texts are in the order of their characters. -/
lemma compare_flatMap_utf8EncodeChar (s t : List Char) :
    compare (s.flatMap String.utf8EncodeChar) (t.flatMap String.utf8EncodeChar) = compare s t := by
  have hbytes (c : Char) : ∃ b bytes, String.utf8EncodeChar c = b :: bytes :=
    List.exists_cons_of_ne_nil String.utf8EncodeChar_ne_nil
  induction s generalizing t with
  | nil =>
    cases t with
    | nil => rfl
    | cons d t =>
      obtain ⟨b, bytes, hd⟩ := hbytes d
      rw [List.flatMap_cons, hd]
      rfl
  | cons c s ih =>
    cases t with
    | nil =>
      obtain ⟨b, bytes, hc⟩ := hbytes c
      rw [List.flatMap_cons, hc]
      rfl
    | cons d t =>
      rw [List.flatMap_cons, List.flatMap_cons, compare_utf8EncodeChar, ih, List.compare_cons_cons]

/-! ### Numbers of a fixed width -/

lemma toNat_digitChar (d : Nat) : (digitChar d).toNat = 48 + d % 10 := by
  have hdigit : ∀ d < 10, (Char.ofNat (48 + d)).toNat = 48 + d := by decide
  exact hdigit (d % 10) (Nat.mod_lt d (by decide))

lemma compare_digitChar (a b : Nat) :
    compare (digitChar a) (digitChar b) = compare (a % 10) (b % 10) := by
  rw [compare_char, toNat_digitChar, toNat_digitChar]
  exact compare_congr (by omega) (by omega)

/-- Fields of the same width are compared by their digits and then by what follows them. -/
lemma compare_paddedText_append (width a b : Nat) (s t : List Char) :
    compare (paddedText width a ++ s) (paddedText width b ++ t)
      = (compare (a % 10 ^ width) (b % 10 ^ width)).then (compare s t) := by
  induction width generalizing a b s t with
  | zero => simp [paddedText, Nat.mod_one]
  | succ width ih =>
    rw [paddedText, paddedText, List.append_assoc, List.append_assoc, ih, List.cons_append,
      List.cons_append, List.nil_append, List.nil_append, List.compare_cons_cons,
      compare_digitChar, ← Ordering.then_assoc, compare_mod_mul, pow_succ']

lemma compare_paddedText_of_lt {width a b : Nat} (ha : a < 10 ^ width) (hb : b < 10 ^ width)
    (s t : List Char) :
    compare (paddedText width a ++ s) (paddedText width b ++ t)
      = (compare a b).then (compare s t) := by
  rw [compare_paddedText_append, Nat.mod_eq_of_lt ha, Nat.mod_eq_of_lt hb]

end ForeignData
