import Mathlib.Tactic.Lemma
import ForeignData.Host.ScalarText

/-!
# Written bytes read back

Two lower-case digits stand for each byte, and neither of them is a sign, so pairs of digits are
never taken for a signed digit.
-/

namespace ForeignData

private lemma hexDigit_below_sixteen :
    ∀ n < 16, hexValue? (hexDigit n) = some n ∧ hexDigit n ≠ '+' := by
  decide

lemma hexValue?_hexDigit {n : Nat} (h : n < 16) : hexValue? (hexDigit n) = some n :=
  (hexDigit_below_sixteen n h).1

lemma hexDigit_ne_plus {n : Nat} (h : n < 16) : hexDigit n ≠ '+' :=
  (hexDigit_below_sixteen n h).2

lemma hexPair?_hexDigit (b : UInt8) :
    hexPair? (hexDigit (b.toNat / 16)) (hexDigit (b.toNat % 16)) = some b := by
  have hhigh : b.toNat / 16 < 16 := by
    have := b.toNat_lt
    omega
  have hlow : b.toNat % 16 < 16 := Nat.mod_lt _ (by decide)
  have hb : UInt8.ofNat (16 * (b.toNat / 16) + b.toNat % 16) = b := by
    rw [Nat.div_add_mod, UInt8.ofNat_toNat]
  rw [hexPair?, hexValue?_hexDigit hhigh, hexValue?_hexDigit hlow]
  simp only [Option.bind_eq_bind, Option.bind_some, if_neg (hexDigit_ne_plus hhigh), hb]
  rfl

@[simp] lemma readHexPairs?_hexText (bs : List UInt8) : readHexPairs? (hexText bs) = some bs := by
  induction bs with
  | nil => rfl
  | cons b bs ih => simp [hexText, readHexPairs?, hexPair?_hexDigit, ih]

/-- Written bytes begin as hexadecimal bytes do, so they are never read as the bytes of a text. -/
@[simp] lemma readBytea?_byteaText (v : ByteArray) :
    readBytea? (String.ofList (byteaText v)) = some v := by
  simp [readBytea?, byteaText]

end ForeignData
