import ForeignData.Json.Reader
import ForeignData.Proofs.Numeric.Binary
import ForeignData.Proofs.Text.Digits
import ForeignData.Proofs.Text.Hex

/-!
# Structured data read back

The compact text of a value is read as that value, whatever stands behind it that ends a value. The
text of a string is read character by character, that of a whole number as a number within range,
and those of arrays and objects item by item.
-/

namespace ForeignData

/-! ### Strings -/

section Strings

variable {c d : Char} {s : List Char}

lemma readStringBody?_simple (hu : c ≠ 'u') (h : simpleEscape? c = some d) (s : List Char) :
    readStringBody? ('\\' :: c :: s) = consRead d (readStringBody? s) := by
  rw [readStringBody?, h]
  · rfl
  · exact fun _ _ _ _ _ _ _ _ _ hc _ => hu hc
  · exact fun _ _ _ _ _ hc _ => hu hc

/-- Four digits write a character, also where an escape of another character stands behind them. -/
lemma readStringBody?_code {a b c d : Char} {n : Nat} (hn : n < 0xD800)
    (h : hexQuad? a b c d = some n) (s : List Char) :
    readStringBody? ('\\' :: 'u' :: a :: b :: c :: d :: s)
      = consRead (Char.ofNat n) (readStringBody? s) := by
  have hhigh : isHighSurrogate n = false := by
    simp [isHighSurrogate]
    omega
  have hlow : isLowSurrogate n = false := by
    simp [isLowSurrogate]
    omega
  by_cases hs : ∃ e f g k s', s = '\\' :: 'u' :: e :: f :: g :: k :: s'
  · obtain ⟨e, f, g, k, s', rfl⟩ := hs
    rw [readStringBody?, h]
    simp [hhigh, hlow]
  · rw [readStringBody?, h]
    · simp [hhigh, hlow]
    · exact fun e f g k s' heq => hs ⟨e, f, g, k, s', heq⟩

lemma readStringBody?_plain (hquote : c ≠ '"') (hslash : c ≠ '\\') (h : 32 ≤ c.toNat)
    (s : List Char) : readStringBody? (c :: s) = consRead c (readStringBody? s) := by
  rw [readStringBody?]
  · rw [if_neg]
    simp [hslash]
    omega
  · exact hquote
  · exact fun _ _ _ _ _ _ _ _ _ hc _ => hslash hc
  · exact fun _ _ _ _ _ hc _ => hslash hc
  · exact fun _ _ hc _ => hslash hc

lemma hexQuad?_hexDigit {n : Nat} (h : n < 256) :
    hexQuad? '0' '0' (hexDigit (n / 16)) (hexDigit (n % 16)) = some n := by
  have hzero : hexValue? '0' = some 0 := by decide
  rw [hexQuad?, hzero, hexValue?_hexDigit (by omega), hexValue?_hexDigit (by omega)]
  simp
  omega

lemma readStringBody?_jsonCharText (c : Char) (s : List Char) :
    readStringBody? (jsonCharText c ++ s) = consRead c (readStringBody? s) := by
  have hcode : ∀ n, c.toNat = n → c = Char.ofNat n := by
    rintro n rfl
    exact (Char.ofNat_toNat c).symm
  unfold jsonCharText
  by_cases hquote : c = '"'
  · subst hquote
    exact readStringBody?_simple (by decide) rfl s
  by_cases hslash : c = '\\'
  · subst hslash
    exact readStringBody?_simple (by decide) rfl s
  by_cases hfeed : c = '\n'
  · subst hfeed
    exact readStringBody?_simple (by decide) rfl s
  by_cases htab : c = '\t'
  · subst htab
    exact readStringBody?_simple (by decide) rfl s
  by_cases hreturn : c = '\r'
  · subst hreturn
    exact readStringBody?_simple (by decide) rfl s
  rw [if_neg hquote, if_neg hslash, if_neg hfeed, if_neg htab, if_neg hreturn]
  by_cases hback : c.toNat = 8
  · rw [if_pos hback, hcode 8 hback]
    exact readStringBody?_simple (by decide) rfl s
  by_cases hpage : c.toNat = 12
  · rw [if_neg hback, if_pos hpage, hcode 12 hpage]
    exact readStringBody?_simple (by decide) rfl s
  rw [if_neg hback, if_neg hpage]
  by_cases hcontrol : c.toNat < 32
  · rw [if_pos hcontrol]
    have hread := readStringBody?_code (by omega) (hexQuad?_hexDigit (n := c.toNat) (by omega)) s
    rw [Char.ofNat_toNat] at hread
    exact hread
  · rw [if_neg hcontrol]
    exact readStringBody?_plain hquote hslash (by omega) s

lemma readStringBody?_flatMap (s rest : List Char) :
    readStringBody? (s.flatMap jsonCharText ++ '"' :: rest) = some (some s, rest) := by
  induction s with
  | nil => rw [List.flatMap_nil, List.nil_append, readStringBody?]
  | cons c s ih =>
    rw [List.flatMap_cons, List.append_assoc, readStringBody?_jsonCharText, ih]
    rfl

end Strings

/-! ### Numbers -/

/-- What may stand behind a value. -/
def EndsJson (rest : List Char) : Prop :=
  ∀ c ∈ rest.head?, c = ',' ∨ c = ']' ∨ c = '}'

lemma EndsJson.stopsDigits {rest : List Char} (h : EndsJson rest) : StopsDigits rest := by
  intro c hc
  rcases h c hc with rfl | rfl | rfl <;> decide

section Numbers

variable {n : Nat} {rest : List Char}

lemma natText_ne_cons_zero (hn : n ≠ 0) (s : List Char) : natText n ≠ '0' :: s := by
  induction n using Nat.strong_induction_on generalizing s with
  | _ n ih =>
    by_cases h : n < 10
    · intro heq
      rw [natText_of_lt h] at heq
      have hvalue : digitValue (digitChar n) = digitValue '0' :=
        congrArg digitValue (List.cons.inj heq).1
      rw [digitValue_digitChar, Nat.mod_eq_of_lt h] at hvalue
      exact hn hvalue
    · intro heq
      rw [natText_of_le (by omega)] at heq
      cases htext : natText (n / 10) with
      | nil => exact natText_ne_nil _ htext
      | cons c t =>
        rw [htext, List.cons_append] at heq
        rw [(List.cons.inj heq).1] at htext
        exact ih (n / 10) (by omega) (by omega) t htext

lemma takeWhole?_natText (n : Nat) (hrest : EndsJson rest) :
    takeWhole? (natText n ++ rest) = some (natText n, rest) := by
  by_cases hn : n = 0
  · subst hn
    have hzero : natText 0 = ['0'] := by rw [natText_of_lt (by decide)]; decide
    rw [hzero]
    rfl
  · have hdigits : takeJsonDigits? (natText n ++ rest) = some (natText n, rest) := by
      rw [takeJsonDigits?, spanDigits,
        takeWhile_isDigit_append (allDigits_natText n) hrest.stopsDigits,
        dropWhile_isDigit_append (allDigits_natText n) hrest.stopsDigits]
      cases htext : natText n with
      | nil => exact absurd htext (natText_ne_nil n)
      | cons c t => rfl
    rw [takeWhole?, hdigits]
    intro s heq
    cases htext : natText n with
    | nil => exact natText_ne_nil n htext
    | cons c t =>
      rw [htext, List.cons_append] at heq
      rw [(List.cons.inj heq).1] at htext
      exact natText_ne_cons_zero hn t htext

lemma takeJsonFraction?_of_ends (hrest : EndsJson rest) :
    takeJsonFraction? rest = some (none, rest) := by
  rw [takeJsonFraction?]
  rintro s rfl
  rcases hrest '.' rfl with h | h | h <;> cases h

lemma takeJsonExponent?_of_ends (hrest : EndsJson rest) :
    takeJsonExponent? rest = some (none, rest) := by
  cases rest with
  | nil => rfl
  | cons c rest =>
    rw [takeJsonExponent?, if_neg]
    rcases hrest c rfl with rfl | rfl | rfl <;> decide

/-- Digits of a number that fits into a word are all taken. -/
lemma leadingWord_of_lt {s : List Char} (h : n * 10 ^ s.length + digitsValue s < UInt64.size) :
    leadingWord n s = (n * 10 ^ s.length + digitsValue s, []) := by
  induction s generalizing n with
  | nil => simp [leadingWord]
  | cons c s ih =>
    have hvalue : n * 10 ^ (c :: s).length + digitsValue (c :: s)
        = (10 * n + digitValue c) * 10 ^ s.length + digitsValue s := by
      rw [digitsValue_cons, List.length_cons, pow_succ]
      ring
    have hhead : 10 * n + digitValue c < UInt64.size := by
      have hpos : 0 < 10 ^ s.length := tenPow_pos _
      have := Nat.le_mul_of_pos_right (10 * n + digitValue c) hpos
      omega
    rw [leadingWord, if_pos hhead, ih (by rwa [← hvalue]), hvalue]

/-- A whole number that fits into a word is far below the greatest binary number. -/
lemma isBounded_whole {s : List Char} (h : digitsValue s < UInt64.size) :
    isBounded s [] 0 = true := by
  have hword : leadingWord 0 s = (digitsValue s, []) := by
    have hleading := leadingWord_of_lt (n := 0) (s := s) (by simpa using h)
    simpa using hleading
  have hnumber := BinaryFormat.toInt?_decode_round_lt (k := 12) (n := digitsValue s) h
  have hunit := BinaryFormat.toInt?_decode_round_lt (k := 0) (n := tenPow 0) (by decide)
  have hproduct := Nat.mul_lt_mul'' hnumber hunit
  rw [← pow_add] at hproduct
  have hround := BinaryFormat.round_one_le hproduct
  have hinfinity : binary64.infinityBits = 2047 * 2 ^ 52 := by decide
  have hbounded : binary64.round _ 1 < binary64.infinityBits :=
    Nat.lt_of_le_of_lt hround (by rw [hinfinity]; decide)
  have hplace : (0 : Int) + ([] : List Char).length + ([] : List Char).length
      - ([] : List Char).length = 0 := rfl
  unfold isBounded
  simp only [hword, leadingWord, hplace]
  change (_ || _ || _ && decide (binary64.round (_ * _) 1 < _)) = true
  rw [show ((0 : Int).toNat) = 0 from rfl, decide_eq_true hbounded]
  simp

lemma readNumber?_intText {i : Int} (hi : i.natAbs < UInt64.size) (hrest : EndsJson rest) :
    readNumber? (intText i ++ rest) = some (.integer i, rest) := by
  have hbounded : isBounded (natText i.natAbs) [] 0 = true :=
    isBounded_whole (by rwa [digitsValue_natText])
  unfold readNumber? intText
  by_cases hneg : i < 0
  · have hne : natText i.natAbs ≠ ['0'] := natText_ne_cons_zero (by omega) []
    have hvalue : -(digitsValue (natText i.natAbs) : Int) = i := by
      rw [digitsValue_natText]
      omega
    rw [if_pos hneg]
    simp [takeWhole?_natText _ hrest, takeJsonFraction?_of_ends hrest,
      takeJsonExponent?_of_ends hrest, hbounded, hne, hvalue, -digitsValue_natText]
  · obtain ⟨c, s, htext⟩ := List.exists_cons_of_ne_nil (natText_ne_nil i.natAbs)
    have hdigit : c.isDigit = true := allDigits_natText i.natAbs c (by simp [htext])
    have hminus : c ≠ '-' := ne_of_isDigit hdigit (by decide)
    have hwhole := takeWhole?_natText i.natAbs hrest
    rw [htext] at hwhole hbounded
    have hvalue : (digitsValue (c :: s) : Int) = i := by
      rw [← htext, digitsValue_natText]
      omega
    rw [List.cons_append] at hwhole
    rw [if_neg hneg, htext, List.cons_append]
    simp [hminus, hwhole, takeJsonFraction?_of_ends hrest, takeJsonExponent?_of_ends hrest,
      hbounded, hvalue]

end Numbers

/-! ### Values -/

/-- A text writes a value: with enough fuel it is read as that value, whatever stands behind it that
ends a value. -/
structure WritesJson (text : List Char) (value : Json) : Prop where
  starts : ∃ c s, text = c :: s ∧ isJsonBlank c = false ∧ c ≠ ']'
  read : ∀ fuel rest, text.length ≤ fuel → EndsJson rest →
    readJsonValue? fuel (text ++ rest) = some (value, rest)

lemma skipJsonBlanks_of_not_blank {c : Char} (h : isJsonBlank c = false) (s : List Char) :
    skipJsonBlanks (c :: s) = c :: s := by
  rw [skipJsonBlanks, List.dropWhile_cons_of_neg (by simp [h])]

lemma writesJson_string (s : List Char) : WritesJson (jsonStringText s) (.string s) where
  starts := ⟨'"', _, rfl, by decide, by decide⟩
  read fuel rest hfuel hrest := by
    cases fuel with
    | zero => simp [jsonStringText] at hfuel
    | succ fuel =>
      have htext : jsonStringText s ++ rest = '"' :: (s.flatMap jsonCharText ++ '"' :: rest) := by
        simp [jsonStringText]
      rw [htext, readJsonValue?, skipJsonBlanks_of_not_blank (by decide)]
      change Option.map _ (readStringBody? _) = _
      rw [readStringBody?_flatMap]
      rfl

lemma writesJson_bool (b : Bool) : WritesJson (jsonBoolText b) (.bool b) where
  starts := by cases b <;> exact ⟨_, _, rfl, by decide, by decide⟩
  read fuel rest hfuel hrest := by
    cases fuel with
    | zero => cases b <;> simp [jsonBoolText] at hfuel
    | succ fuel => cases b <;> rfl

/-- What an integer begins with: a minus sign or a digit. -/
lemma exists_intText_eq_cons (i : Int) :
    ∃ c s, intText i = c :: s ∧ (c = '-' ∨ c.isDigit = true) := by
  unfold intText
  split
  · exact ⟨'-', _, rfl, .inl rfl⟩
  · obtain ⟨c, s, htext⟩ := List.exists_cons_of_ne_nil (natText_ne_nil i.natAbs)
    exact ⟨c, s, htext, .inr (allDigits_natText i.natAbs c (by simp [htext]))⟩

lemma ne_of_number {c d : Char} (h : c = '-' ∨ c.isDigit = true) (hminus : d ≠ '-')
    (hdigit : d.isDigit = false) : c ≠ d := by
  rcases h with rfl | h
  · exact hminus.symm
  · exact ne_of_isDigit h hdigit

lemma isJsonBlank_of_number {c : Char} (h : c = '-' ∨ c.isDigit = true) :
    isJsonBlank c = false := by
  simp [isJsonBlank, ne_of_number h (d := ' '), ne_of_number h (d := '\n'),
    ne_of_number h (d := '\t'), ne_of_number h (d := '\r')]

lemma readJsonValue?_number {c : Char} (h : c = '-' ∨ c.isDigit = true) (fuel : Nat)
    (s : List Char) : readJsonValue? (fuel + 1) (c :: s) = readNumber? (c :: s) := by
  have hne : ∀ d : Char, d ≠ '-' → d.isDigit = false → c ≠ d := fun d => ne_of_number h
  have hblank := isJsonBlank_of_number h
  rw [readJsonValue?, skipJsonBlanks_of_not_blank hblank]
  split
  case h_8 => rfl
  -- every other form begins with a mark of its own
  all_goals
    rename_i heq
    first
    | exact absurd (List.cons.inj heq).1 (hne _ (by decide) (by decide))
    | cases heq

lemma writesJson_integer {i : Int} (h : i.natAbs < UInt64.size) :
    WritesJson (intText i) (.integer i) := by
  obtain ⟨c, s, htext, hc⟩ := exists_intText_eq_cons i
  constructor
  · exact ⟨c, s, htext, isJsonBlank_of_number hc, ne_of_number hc (by decide) (by decide)⟩
  · intro fuel rest hfuel hrest
    cases fuel with
    | zero => simp [htext] at hfuel
    | succ fuel =>
      rw [← readNumber?_intText h hrest, htext]
      exact readJsonValue?_number hc fuel (s ++ rest)

/-! ### Arrays and objects -/

lemma endsJson_cons {c : Char} (h : c = ',' ∨ c = ']' ∨ c = '}') (s : List Char) :
    EndsJson (c :: s) := by
  rintro d ⟨⟩
  exact h

lemma length_commaSeparated_cons (t u : List Char) (ts : List (List Char)) :
    (commaSeparated (t :: u :: ts)).length = t.length + 1 + (commaSeparated (u :: ts)).length := by
  simp [commaSeparated]
  omega

lemma commaSeparated_cons_append (t u : List Char) (ts : List (List Char)) (rest : List Char) :
    commaSeparated (t :: u :: ts) ++ rest = t ++ ',' :: (commaSeparated (u :: ts) ++ rest) := by
  simp [commaSeparated]

/-- Texts with commas between them, up to the end of their array, are read one by one. -/
lemma readJsonItems?_commaSeparated {items : List (List Char × Json)}
    (hitems : ∀ p ∈ items, WritesJson p.1 p.2) (hne : items ≠ []) (fuel : Nat)
    (hfuel : (commaSeparated (items.map Prod.fst)).length < fuel) (rest : List Char) :
    readJsonItems? fuel (commaSeparated (items.map Prod.fst) ++ ']' :: rest)
      = some (items.map Prod.snd, rest) := by
  induction items generalizing fuel with
  | nil => exact absurd rfl hne
  | cons p items ih =>
    obtain ⟨hp, htail⟩ := List.forall_mem_cons.1 hitems
    obtain ⟨fuel, rfl⟩ : ∃ n, fuel = n + 1 := ⟨fuel - 1, by omega⟩
    cases items with
    | nil =>
      have hread := hp.read fuel (']' :: rest) (Nat.le_of_lt_succ hfuel) (endsJson_cons (by simp) _)
      simp only [List.map_cons, List.map_nil, commaSeparated]
      rw [readJsonItems?, hread]
      rfl
    | cons q items =>
      simp only [List.map_cons] at ih hfuel ⊢
      rw [length_commaSeparated_cons] at hfuel
      have hread := hp.read fuel
        (',' :: (commaSeparated (q.1 :: items.map Prod.fst) ++ ']' :: rest)) (by omega)
        (endsJson_cons (by simp) _)
      have hmore := ih htail (by simp) fuel (by omega)
      rw [commaSeparated_cons_append, readJsonItems?, hread]
      change Option.bind (readJsonItems? fuel _) _ = _
      rw [hmore]
      rfl

/-- An array of written values is written as the array of them. -/
lemma writesJson_array {items : List (List Char × Json)}
    (hitems : ∀ p ∈ items, WritesJson p.1 p.2) :
    WritesJson (jsonArrayText (items.map Prod.fst)) (.array (items.map Prod.snd)) where
  starts := ⟨'[', _, rfl, by decide, by decide⟩
  read fuel rest hfuel hrest := by
    have htext : jsonArrayText (items.map Prod.fst) ++ rest
        = '[' :: (commaSeparated (items.map Prod.fst) ++ ']' :: rest) := by
      simp [jsonArrayText]
    have hlength : (jsonArrayText (items.map Prod.fst)).length
        = (commaSeparated (items.map Prod.fst)).length + 2 := by
      simp [jsonArrayText]
    obtain ⟨fuel, rfl⟩ : ∃ n, fuel = n + 1 := ⟨fuel - 1, by omega⟩
    rw [htext, readJsonValue?_bracket]
    cases items with
    | nil => rfl
    | cons p items =>
      have hread := readJsonItems?_commaSeparated hitems (by simp) fuel (by omega) rest
      obtain ⟨c, s, hstart, hblank, hclose⟩ := (hitems p (by simp)).starts
      obtain ⟨t, hitemsText⟩ : ∃ t, commaSeparated ((p :: items).map Prod.fst) = c :: t := by
        rw [List.map_cons, hstart]
        cases items <;> exact ⟨_, rfl⟩
      rw [hitemsText, List.cons_append] at hread ⊢
      rw [skipJsonBlanks_of_not_blank hblank]
      split
      · rename_i heq
        exact absurd (List.cons.inj heq).1 hclose
      · rw [hread]
        rfl

def jsonMemberText (name : String) (text : List Char) : List Char :=
  jsonStringText name.toList ++ ':' :: text

/-- The text of a member is read up to the end of its value; what comes behind that tells whether
another member follows. -/
lemma readJsonMembers?_member {fuel : Nat} {name : String} {text s : List Char} {value : Json}
    (hread : readJsonValue? fuel (text ++ s) = some (value, s)) :
    readJsonMembers? (fuel + 1) (jsonMemberText name text ++ s) = match skipJsonBlanks s with
      | ',' :: s => (readJsonMembers? fuel s).bind fun (members, rest) =>
        some ((some name.toList, value) :: members, rest)
      | '}' :: rest => some ([(some name.toList, value)], rest)
      | _ => none := by
  have htext : jsonMemberText name text ++ s
      = '"' :: (name.toList.flatMap jsonCharText ++ '"' :: ':' :: (text ++ s)) := by
    simp [jsonMemberText, jsonStringText]
  rw [htext, readJsonMembers?, skipJsonBlanks_of_not_blank (by decide)]
  change Option.bind (readStringBody? _) _ = _
  rw [readStringBody?_flatMap]
  change Option.bind (readJsonValue? fuel _) _ = _
  rw [hread]
  rfl

/-- Members with commas between them, up to the end of their object, are read one by one. -/
lemma readJsonMembers?_commaSeparated {members : List (String × List Char × Json)}
    (hmembers : ∀ m ∈ members, WritesJson m.2.1 m.2.2) (hne : members ≠ []) (fuel : Nat)
    (hfuel : (commaSeparated (members.map fun m => jsonMemberText m.1 m.2.1)).length < fuel)
    (rest : List Char) :
    readJsonMembers? fuel
        (commaSeparated (members.map fun m => jsonMemberText m.1 m.2.1) ++ '}' :: rest)
      = some (members.map fun m => (some m.1.toList, m.2.2), rest) := by
  induction members generalizing fuel with
  | nil => exact absurd rfl hne
  | cons m members ih =>
    obtain ⟨hm, htail⟩ := List.forall_mem_cons.1 hmembers
    obtain ⟨fuel, rfl⟩ : ∃ n, fuel = n + 1 := ⟨fuel - 1, by omega⟩
    have hlength : m.2.1.length < (jsonMemberText m.1 m.2.1).length := by
      simp [jsonMemberText]
      omega
    cases members with
    | nil =>
      have hread := hm.read fuel ('}' :: rest) (by simp [commaSeparated] at hfuel; omega)
        (endsJson_cons (by simp) _)
      simp only [List.map_cons, List.map_nil, commaSeparated]
      rw [readJsonMembers?_member hread]
      rfl
    | cons m' members =>
      simp only [List.map_cons] at ih hfuel ⊢
      rw [length_commaSeparated_cons] at hfuel
      have hread := hm.read fuel (',' :: (commaSeparated (jsonMemberText m'.1 m'.2.1
        :: members.map fun m => jsonMemberText m.1 m.2.1) ++ '}' :: rest)) (by omega)
        (endsJson_cons (by simp) _)
      have hmore := ih htail (by simp) fuel (by omega)
      rw [commaSeparated_cons_append, readJsonMembers?_member hread]
      change Option.bind (readJsonMembers? fuel _) _ = _
      rw [hmore]
      rfl

/-- An object of written values is written as the object of them. -/
lemma writesJson_object {members : List (String × List Char × Json)}
    (hmembers : ∀ m ∈ members, WritesJson m.2.1 m.2.2) :
    WritesJson (jsonObjectText (members.map fun m => (m.1, m.2.1)))
      (.object (members.map fun m => (some m.1.toList, m.2.2))) where
  starts := ⟨'{', _, rfl, by decide, by decide⟩
  read fuel rest hfuel hrest := by
    have hobject : jsonObjectText (members.map fun m => (m.1, m.2.1))
        = '{' :: commaSeparated (members.map fun m => jsonMemberText m.1 m.2.1) ++ ['}'] := by
      simp [jsonObjectText, jsonMemberText, Function.comp_def]
    have htext : jsonObjectText (members.map fun m => (m.1, m.2.1)) ++ rest
        = '{' :: (commaSeparated (members.map fun m => jsonMemberText m.1 m.2.1)
          ++ '}' :: rest) := by
      simp [hobject]
    have hlength : (jsonObjectText (members.map fun m => (m.1, m.2.1))).length
        = (commaSeparated (members.map fun m => jsonMemberText m.1 m.2.1)).length + 2 := by
      simp [hobject]
    obtain ⟨fuel, rfl⟩ : ∃ n, fuel = n + 1 := ⟨fuel - 1, by omega⟩
    rw [htext, readJsonValue?, skipJsonBlanks_of_not_blank (by decide)]
    cases members with
    | nil => rfl
    | cons m members =>
      have hread := readJsonMembers?_commaSeparated hmembers (by simp) fuel (by omega)
        rest
      obtain ⟨t, hmembersText⟩ : ∃ t, commaSeparated
          ((m :: members).map fun m => jsonMemberText m.1 m.2.1) = '"' :: t := by
        cases members <;> exact ⟨_, rfl⟩
      rw [hmembersText, List.cons_append] at hread ⊢
      change Option.map _ (readJsonMembers? fuel ('"' :: (t ++ '}' :: rest))) = _
      rw [hread]
      rfl

lemma WritesJson.readJson? {text : List Char} {value : Json} (h : WritesJson text value) :
    readJson? text = some value := by
  have hread := h.read (text.length + 1) [] (by omega) (by simp [EndsJson])
  rw [List.append_nil] at hread
  rw [ForeignData.readJson?, hread]
  rfl

end ForeignData
