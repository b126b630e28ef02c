import Mathlib.Algebra.Group.Nat.Even
import Mathlib.Tactic.Lemma
import ForeignData.Proofs.Text.Hex
import ForeignData.Stored.Decoding

/-!
# Texts of bytes

Behind a backslash and an `x` bytes are read from pairs of hexadecimal digits, where a plus sign may
stand for a zero in front. Every other character is refused, wherever it stands and however many
bytes it has itself; a reader that cuts the text every two bytes refuses the same texts. A text that
begins in another way is read as its own bytes.
-/

namespace ForeignData

/-! ### Digits -/

/-- A hexadecimal digit of either case. -/
def IsHexDigit (c : Char) : Prop :=
  '0' ≤ c ∧ c ≤ '9' ∨ 'a' ≤ c ∧ c ≤ 'f' ∨ 'A' ≤ c ∧ c ≤ 'F'

instance (c : Char) : Decidable (IsHexDigit c) :=
  inferInstanceAs (Decidable (_ ∨ _))

/-- The digit that is written for one that was read: a plus sign counts as a zero. -/
def writtenDigit (c : Char) : Char :=
  if c = '+' then '0' else c.toLower

lemma hexValue?_ne_none_iff (c : Char) : hexValue? c ≠ none ↔ IsHexDigit c := by
  unfold hexValue? IsHexDigit
  split <;> rename_i h₁
  · simp [h₁]
  · split <;> rename_i h₂
    · simp [h₂]
    · split <;> rename_i h₃
      · simp [h₃]
      · simp [h₁, h₂, h₃]

lemma IsHexDigit.toNat_lt {c : Char} (h : IsHexDigit c) : c.toNat < 128 := by
  have hle {d : Char} (hd : c ≤ d) : c.toNat ≤ d.toNat := hd
  obtain ⟨-, h⟩ | ⟨-, h⟩ | ⟨-, h⟩ := h
  all_goals exact Nat.lt_of_le_of_lt (hle h) (by decide)

private lemma hexDigit_of_ascii : ∀ n < 128, ∀ v ∈ hexValue? (Char.ofNat n),
    v < 16 ∧ hexDigit v = (Char.ofNat n).toLower ∧ Char.ofNat n ≠ '+' := by
  decide

/-- A digit that was read is written in lower case. -/
lemma hexDigit_of_hexValue? {c : Char} {v : Nat} (h : hexValue? c = some v) :
    v < 16 ∧ hexDigit v = writtenDigit c := by
  have hdigit : IsHexDigit c := (hexValue?_ne_none_iff c).1 (by simp [h])
  have hc : Char.ofNat c.toNat = c := Char.ofNat_toNat c
  obtain ⟨hlt, hwritten, hplus⟩ := hexDigit_of_ascii c.toNat hdigit.toNat_lt v (by rwa [hc])
  rw [hc] at hwritten hplus
  exact ⟨hlt, by rw [writtenDigit, if_neg hplus, hwritten]⟩

/-! ### Pairs -/

/-- The digits of a byte: a pair of hexadecimal digits, or a plus sign and one such digit. -/
def IsBytePair (high low : Char) : Prop :=
  (IsHexDigit high ∨ high = '+') ∧ IsHexDigit low

/-- One pair after the other. -/
inductive AreBytePairs : List Char → Prop
  | nil : AreBytePairs []
  | cons {high low : Char} {s : List Char} (hpair : IsBytePair high low) (hs : AreBytePairs s) :
      AreBytePairs (high :: low :: s)

lemma hexPair?_ne_none_iff (high low : Char) : hexPair? high low ≠ none ↔ IsBytePair high low := by
  unfold IsBytePair
  rw [← hexValue?_ne_none_iff, ← hexValue?_ne_none_iff, hexPair?]
  cases hexValue? low with
  | none => simp
  | some l =>
    by_cases hplus : high = '+'
    · simp [hplus]
    · cases hexValue? high with
      | none => simp [hplus]
      | some h => simp [hplus]

lemma hexDigit_of_hexPair? {high low : Char} {b : UInt8} (h : hexPair? high low = some b) :
    hexDigit (b.toNat / 16) = writtenDigit high ∧ hexDigit (b.toNat % 16) = writtenDigit low := by
  unfold hexPair? at h
  obtain ⟨l, hl, h⟩ := Option.bind_eq_some_iff.1 h
  obtain ⟨hl16, hlow⟩ := hexDigit_of_hexValue? hl
  split at h
  case isTrue hplus =>
    obtain rfl := Option.some.inj h
    have hbyte : (UInt8.ofNat l).toNat = l := UInt8.toNat_ofNat_of_lt' (by show l < 256; omega)
    rw [hbyte, Nat.div_eq_of_lt hl16, Nat.mod_eq_of_lt hl16, hplus]
    exact ⟨rfl, hlow⟩
  case isFalse =>
    obtain ⟨n, hn, h⟩ := Option.bind_eq_some_iff.1 h
    obtain rfl := Option.some.inj h
    obtain ⟨hn16, hhigh⟩ := hexDigit_of_hexValue? hn
    have hbyte : (UInt8.ofNat (16 * n + l)).toNat = 16 * n + l :=
      UInt8.toNat_ofNat_of_lt' (by show 16 * n + l < 256; omega)
    have hdiv : (16 * n + l) / 16 = n := by omega
    have hmod : (16 * n + l) % 16 = l := by omega
    rw [hbyte, hdiv, hmod]
    exact ⟨hhigh, hlow⟩

lemma readHexPairs?_ne_none_iff (s : List Char) : readHexPairs? s ≠ none ↔ AreBytePairs s := by
  induction s using readHexPairs?.induct with
  | case1 => exact ⟨fun _ => .nil, fun _ => by simp [readHexPairs?]⟩
  | case2 c =>
    refine ⟨fun h => absurd rfl h, ?_⟩
    intro h
    cases h
  | case3 high low rest ih =>
    have hcons : readHexPairs? (high :: low :: rest) ≠ none ↔
        hexPair? high low ≠ none ∧ readHexPairs? rest ≠ none := by
      rw [readHexPairs?]
      cases hexPair? high low <;> cases readHexPairs? rest <;> simp
    rw [hcons, hexPair?_ne_none_iff, ih]
    constructor
    · rintro ⟨hpair, hrest⟩
      exact .cons hpair hrest
    · intro h
      cases h with
      | cons hpair hrest => exact ⟨hpair, hrest⟩

lemma hexText_of_readHexPairs? {s : List Char} {bs : List UInt8}
    (h : readHexPairs? s = some bs) : hexText bs = s.map writtenDigit := by
  induction s using readHexPairs?.induct generalizing bs with
  | case1 =>
    obtain rfl := Option.some.inj h
    rfl
  | case2 c => cases h
  | case3 high low rest ih =>
    rw [readHexPairs?] at h
    obtain ⟨b, hb, h⟩ := Option.bind_eq_some_iff.1 h
    obtain ⟨bs', hbs, h⟩ := Option.bind_eq_some_iff.1 h
    obtain rfl := Option.some.inj h
    obtain ⟨hhigh, hlow⟩ := hexDigit_of_hexPair? hb
    rw [hexText, hhigh, hlow, ih hbs]
    rfl

lemma areBytePairs_and_no_plus_iff (s : List Char) :
    AreBytePairs s ∧ '+' ∉ s ↔ Even s.length ∧ ∀ c ∈ s, IsHexDigit c := by
  have hplus : ¬IsHexDigit '+' := by decide
  constructor
  · rintro ⟨hs, hno⟩
    induction hs with
    | nil => simp
    | @cons high low s hpair _ ih =>
      obtain ⟨heven, hdigits⟩ := ih fun h => hno (by simp [h])
      refine ⟨by simpa [Nat.even_add_one] using heven, ?_⟩
      intro c hc
      obtain rfl | rfl | hc : c = high ∨ c = low ∨ c ∈ s := by simpa using hc
      · exact hpair.1.resolve_right fun h => hno (by simp [h])
      · exact hpair.2
      · exact hdigits c hc
  · rintro ⟨heven, hdigits⟩
    refine ⟨?_, fun hmem => hplus (hdigits _ hmem)⟩
    induction s using readHexPairs?.induct with
    | case1 => exact .nil
    | case2 c => simp at heven
    | case3 high low rest ih =>
      refine .cons ⟨.inl (hdigits high (by simp)), hdigits low (by simp)⟩ (ih ?_ ?_)
      · simpa [Nat.even_add_one] using heven
      · exact fun c hc => hdigits c (by simp [hc])

/-! ### Slices of two bytes -/

/-- Cut a text behind its first bytes. There is no cut inside a character. -/
def splitBytes? : Nat → List Char → Option (List Char × List Char)
  | 0, s => some ([], s)
  | _ + 1, [] => none
  | n + 1, c :: s =>
    if c.utf8Size ≤ n + 1 then
      (splitBytes? (n + 1 - c.utf8Size) s).map fun (slice, rest) => (c :: slice, rest)
    else
      none

/-- What is cut off and what is left are the whole text. -/
lemma append_of_splitBytes? {n : Nat} {s slice rest : List Char}
    (h : splitBytes? n s = some (slice, rest)) : slice ++ rest = s := by
  induction s generalizing n slice with
  | nil =>
    cases n with
    | zero =>
      cases h
      rfl
    | succ n => cases h
  | cons c s ih =>
    cases n with
    | zero =>
      cases h
      rfl
    | succ n =>
      rw [splitBytes?] at h
      split at h
      · obtain ⟨⟨slice, rest⟩, hs, heq⟩ := Option.map_eq_some_iff.1 h
        cases heq
        rw [List.cons_append, ih hs]
      · cases h

lemma length_splitBytes?_succ {n : Nat} {s slice rest : List Char}
    (h : splitBytes? (n + 1) s = some (slice, rest)) : rest.length < s.length := by
  cases s with
  | nil => cases h
  | cons c s =>
    rw [splitBytes?] at h
    split at h
    · obtain ⟨⟨slice, rest⟩, hs, heq⟩ := Option.map_eq_some_iff.1 h
      cases heq
      rw [← append_of_splitBytes? hs, List.length_cons, List.length_append]
      omega
    · cases h

/-- Read a hexadecimal numeral of a byte: digits behind an optional plus sign. -/
def readHexByte? (s : List Char) : Option UInt8 := do
  let digits :=
    match s with
    | '+' :: digits => digits
    | digits => digits
  let values ← digits.mapM hexValue?
  let n := values.foldl (fun n v => 16 * n + v) 0
  if digits ≠ [] ∧ n < UInt8.size then some (UInt8.ofNat n) else none

/-- Read numerals in slices of two bytes to the end. -/
def readHexSlices? (s : List Char) : Option (List UInt8) :=
  if s = [] then
    some []
  else
    match h : splitBytes? 2 s with
    | none => none
    | some (slice, rest) => do
      have : rest.length < s.length := length_splitBytes?_succ h
      let b ← readHexByte? slice
      let bs ← readHexSlices? rest
      return b :: bs
termination_by s.length

/-- The number of bytes of a text. -/
def byteCount : List Char → Nat
  | [] => 0
  | c :: s => c.utf8Size + byteCount s

/-- Read slices of two bytes if the number of bytes is even. -/
def readHexBytes? (s : List Char) : Option (List UInt8) :=
  if byteCount s % 2 = 0 then readHexSlices? s else none

lemma IsHexDigit.utf8Size {c : Char} (h : IsHexDigit c) : c.utf8Size = 1 := by
  rw [Char.utf8Size_eq_one_iff]
  exact Nat.le_of_lt_succ h.toNat_lt

lemma IsBytePair.utf8Size {high low : Char} (h : IsBytePair high low) :
    high.utf8Size = 1 ∧ low.utf8Size = 1 := by
  refine ⟨?_, h.2.utf8Size⟩
  obtain hdigit | rfl := h.1
  · exact hdigit.utf8Size
  · decide

lemma hexPair?_eq_none {high low : Char} (h : high.utf8Size ≠ 1 ∨ low.utf8Size ≠ 1) :
    hexPair? high low = none := by
  by_contra hread
  obtain ⟨hhigh, hlow⟩ := ((hexPair?_ne_none_iff high low).1 hread).utf8Size
  obtain hne | hne := h
  · exact hne hhigh
  · exact hne hlow

/-- A numeral of two characters is a pair. -/
lemma readHexByte?_pair (high low : Char) : readHexByte? [high, low] = hexPair? high low := by
  unfold readHexByte? hexPair?
  by_cases hplus : high = '+'
  · subst hplus
    cases hl : hexValue? low with
    | none => simp [hl]
    | some l =>
      have := (hexDigit_of_hexValue? hl).1
      have hlt : l < UInt8.size := by
        show l < 256
        omega
      simp [hl, hlt]
  · have hdigits : (match [high, low] with
        | '+' :: digits => digits
        | digits => digits) = [high, low] := by
      split
      · rename_i heq
        exact absurd (List.cons.inj heq).1 hplus
      · rfl
    rw [hdigits]
    cases hl : hexValue? low with
    | none => cases hexValue? high <;> simp [hl, hplus]
    | some l =>
      cases hh : hexValue? high with
      | none => simp [hh, hplus]
      | some n =>
        have := (hexDigit_of_hexValue? hl).1
        have := (hexDigit_of_hexValue? hh).1
        have hlt : 16 * n + l < UInt8.size := by
          show 16 * n + l < 256
          omega
        simp [hl, hh, hplus, hlt]

/-- A character of several bytes is no numeral. -/
lemma readHexByte?_wide {c : Char} (h : c.utf8Size ≠ 1) : readHexByte? [c] = none := by
  have hplus : c ≠ '+' := by
    rintro rfl
    exact h (by decide)
  have hvalue : hexValue? c = none := by
    by_contra hvalue
    exact h ((hexValue?_ne_none_iff c).1 hvalue).utf8Size
  unfold readHexByte?
  simp [hplus, hvalue]

lemma readHexSlices?_of_split {s slice rest : List Char}
    (h : splitBytes? 2 s = some (slice, rest)) :
    readHexSlices? s = (readHexByte? slice).bind fun b => (readHexSlices? rest).map (b :: ·) := by
  have hne : s ≠ [] := by
    rintro rfl
    cases h
  rw [readHexSlices?, if_neg hne]
  split
  · rename_i hnone
    rw [h] at hnone
    cases hnone
  · rename_i hsome
    rw [h] at hsome
    cases hsome
    cases readHexByte? slice <;> cases readHexSlices? rest <;> rfl

lemma readHexSlices?_of_no_split {s : List Char} (hne : s ≠ []) (h : splitBytes? 2 s = none) :
    readHexSlices? s = none := by
  rw [readHexSlices?, if_neg hne]
  split
  · rfl
  · rename_i hsome
    rw [h] at hsome
    cases hsome

/-- A text that begins with a character of several bytes has no slices that are numerals. -/
lemma readHexSlices?_wide {c : Char} (h : c.utf8Size ≠ 1) (s : List Char) :
    readHexSlices? (c :: s) = none := by
  have hpos := c.utf8Size_pos
  by_cases htwo : c.utf8Size = 2
  · have hsplit : splitBytes? 2 (c :: s) = some ([c], s) := by
      simp [splitBytes?, htwo]
    rw [readHexSlices?_of_split hsplit, readHexByte?_wide h]
    rfl
  · refine readHexSlices?_of_no_split (by simp) ?_
    rw [splitBytes?, if_neg (by omega)]

/-- Cutting the text every two bytes refuses exactly what pairs of characters refuse. -/
lemma readHexSlices?_eq (s : List Char) : readHexSlices? s = readHexPairs? s := by
  induction s using readHexPairs?.induct with
  | case1 =>
    rw [readHexSlices?]
    rfl
  | case2 c =>
    by_cases hc : c.utf8Size = 1
    · refine readHexSlices?_of_no_split (by simp) ?_
      simp [splitBytes?, hc]
    · exact readHexSlices?_wide hc []
  | case3 high low rest ih =>
    rw [readHexPairs?]
    by_cases hhigh : high.utf8Size = 1
    · by_cases hlow : low.utf8Size = 1
      · have hsplit : splitBytes? 2 (high :: low :: rest) = some ([high, low], rest) := by
          simp [splitBytes?, hhigh, hlow]
        rw [readHexSlices?_of_split hsplit, readHexByte?_pair, ih]
        cases hexPair? high low <;> cases readHexPairs? rest <;> rfl
      · -- the second character goes on behind the end of the slice
        have hpos := low.utf8Size_pos
        have hinside : splitBytes? 1 (low :: rest) = none := by
          rw [splitBytes?, if_neg (by omega)]
        have hsplit : splitBytes? 2 (high :: low :: rest) = none := by
          simp [splitBytes?, hhigh, hinside]
        rw [readHexSlices?_of_no_split (by simp) hsplit, hexPair?_eq_none (.inr hlow)]
        rfl
    · rw [readHexSlices?_wide hhigh, hexPair?_eq_none (.inl hhigh)]
      rfl

lemma AreBytePairs.byteCount_even {s : List Char} (h : AreBytePairs s) : byteCount s % 2 = 0 := by
  induction h with
  | nil => rfl
  | cons hpair hs ih =>
    obtain ⟨hhigh, hlow⟩ := hpair.utf8Size
    simp only [byteCount, hhigh, hlow]
    omega

lemma readHexBytes?_eq (s : List Char) : readHexBytes? s = readHexPairs? s := by
  unfold readHexBytes?
  rw [readHexSlices?_eq]
  split
  case isTrue => rfl
  case isFalse hodd =>
    by_contra h
    exact hodd ((readHexPairs?_ne_none_iff s).1 (Ne.symm h)).byteCount_even

/-! ### Texts of bytes -/

lemma Scalar.decode_bytea_of_marked {s : String} {digits : List Char}
    (h : s.toList = '\\' :: 'x' :: digits) :
    Scalar.decode .bytea s = match readHexPairs? digits with
      | some bs => .ok (.bytea ⟨bs.toArray⟩)
      | none => .error (.unreadable s .bytea) := by
  have hread : Scalar.read? .bytea s
      = (readHexPairs? digits).map fun bs => .bytea ⟨bs.toArray⟩ := by
    simp only [Scalar.read?, readBytea?, h, Option.map_map]
    rfl
  rw [Scalar.decode, hread]
  cases readHexPairs? digits <;> rfl

lemma Scalar.decode_bytea_of_unmarked {s : String}
    (h : ∀ digits, s.toList ≠ '\\' :: 'x' :: digits) :
    Scalar.decode .bytea s = .ok (.bytea (bytesOfText s)) := by
  have hbytes : readBytea? s = some (bytesOfText s) := by
    unfold readBytea?
    split
    · rename_i digits heq
      exact absurd heq (h digits)
    · rfl
  have hread : Scalar.read? .bytea s = some (.bytea (bytesOfText s)) :=
    congrArg (Option.map Scalar.bytea) hbytes
  rw [Scalar.decode, hread]

/-- A text of bytes is read exactly if pairs of digits stand behind its mark, and is then written
with its digits in lower case; a plus sign counts as a zero. Only without plus signs are these the
texts of an even number of digits. What else stands behind the mark is unreadable, and a text
without the mark is read as its own bytes. -/
theorem Scalar.decode_bytea (s : String) :
    (∀ digits, s.toList = '\\' :: 'x' :: digits →
        (AreBytePairs digits → ∃ v, Scalar.decode .bytea s = .ok (.bytea v)
          ∧ (Scalar.bytea v).write = String.ofList ('\\' :: 'x' :: digits.map writtenDigit))
        ∧ (¬AreBytePairs digits → Scalar.decode .bytea s = .error (.unreadable s .bytea))
        ∧ (AreBytePairs digits ∧ '+' ∉ digits ↔ Even digits.length ∧ ∀ c ∈ digits, IsHexDigit c)
        ∧ readHexBytes? digits = readHexPairs? digits)
      ∧ ((∀ digits, s.toList ≠ '\\' :: 'x' :: digits) →
        Scalar.decode .bytea s = .ok (.bytea (bytesOfText s))) := by
  refine ⟨fun digits h => ⟨fun hpairs => ?_, fun hpairs => ?_, areBytePairs_and_no_plus_iff digits,
    readHexBytes?_eq digits⟩, Scalar.decode_bytea_of_unmarked⟩
  · obtain ⟨bs, hbs⟩ := Option.ne_none_iff_exists'.1 ((readHexPairs?_ne_none_iff digits).2 hpairs)
    refine ⟨⟨bs.toArray⟩, by rw [Scalar.decode_bytea_of_marked h, hbs], ?_⟩
    rw [Scalar.write, byteaText, hexText_of_readHexPairs? hbs]
  · have hnone : readHexPairs? digits = none := by
      by_contra hread
      exact hpairs ((readHexPairs?_ne_none_iff digits).1 hread)
    rw [Scalar.decode_bytea_of_marked h, hnone]

/-- Digits of either case are written in lower case. -/
theorem Scalar.decode_bytea_mixed_case :
    ("\\x0aFf").toList = ['\\', 'x', '0', 'a', 'F', 'f']
      ∧ AreBytePairs ['0', 'a', 'F', 'f']
      ∧ ∃ v, Scalar.decode .bytea "\\x0aFf" = .ok (.bytea v)
        ∧ (Scalar.bytea v).write = String.ofList ['\\', 'x', '0', 'a', 'f', 'f'] := by
  have htext : ("\\x0aFf").toList = ['\\', 'x', '0', 'a', 'F', 'f'] := by decide
  have hpairs : AreBytePairs ['0', 'a', 'F', 'f'] :=
    .cons ⟨.inl (by decide), by decide⟩ (.cons ⟨.inl (by decide), by decide⟩ .nil)
  exact ⟨htext, hpairs, ((Scalar.decode_bytea "\\x0aFf").1 _ htext).1 hpairs⟩

/-- A plus sign and a digit are read as a byte, though they are no two digits. -/
theorem Scalar.decode_bytea_plus :
    ("\\x+1").toList = ['\\', 'x', '+', '1']
      ∧ Scalar.decode .bytea "\\x+1" = .ok (.bytea ⟨#[1]⟩)
      ∧ ¬(Even ['+', '1'].length ∧ ∀ c ∈ ['+', '1'], IsHexDigit c) := by
  refine ⟨by decide, by decide, fun ⟨_, hdigits⟩ => ?_⟩
  exact absurd (hdigits '+' (by simp)) (by decide)

end ForeignData
