import ForeignData.Proofs.Sqlite.Order
import ForeignData.Proofs.Sqlite.TextTest
import ForeignData.Proofs.Stored.Binding
import ForeignData.Sqlite.Resolution

/-!
# Truth of tests of texts

On a row whose column holds a text, a test of that column is true or false of the text, and tests
that have to hold together are true if each of them is. They stay what they are when the names of
the columns are resolved.
-/

namespace ForeignData.Sqlite

/-! ### Texts in cells -/

lemma Cell.compareBytes_eq_iff {as bs : List UInt8} : compareBytes as bs = .eq ↔ as = bs := by
  rw [compareBytes_eq_compare, Std.compare_eq_iff_eq]

lemma bytesOfText_inj {s t : String} : bytesOfText s = bytesOfText t ↔ s = t := by
  constructor
  · intro h
    have hread := congrArg textOfBytes? h
    rw [textOfBytes?_bytesOfText, textOfBytes?_bytesOfText] at hread
    exact Option.some.inj hread
  · rintro rfl
    rfl

lemma lossyText_bytesOfText (s : String) : lossyText (bytesOfText s) = s := by
  rw [lossyText, textOfBytes?_bytesOfText]

lemma apply_eq_ofText (s t : String) :
    Comparison.eq.apply .text .binary (.ofText s) (.ofText t) = some (s == t) := by
  have horder : Cell.compare .binary (.ofText s) (.ofText t) = .eq ↔ s = t := by
    rw [Cell.ofText, Cell.ofText, ← bytesOfText_inj]
    refine Cell.compareBytes_eq_iff.trans ?_
    constructor
    · intro h
      exact ByteArray.ext (Array.toList_inj.1 h)
    · rintro h
      rw [h]
  have hne : ¬(Cell.ofText s = .null ∨ Cell.ofText t = .null) := by
    rintro (h | h) <;> cases h
  rw [Comparison.apply, if_neg hne]
  change some (Cell.compare .binary (.ofText s) (.ofText t) == .eq) = _
  rw [Option.some_inj, Bool.eq_iff_iff, beq_iff_eq, beq_iff_eq, horder]

lemma likes_ofText (s pattern : String) :
    (Cell.ofText s).likes (.ofText pattern) = some (likeMatches pattern.toList s.toList) := by
  have htext : ∀ s, (Cell.ofText s).patternText = some s.toList := by
    intro s
    change some (lossyText (bytesOfText s)).toList = _
    rw [lossyText_bytesOfText]
  rw [Cell.likes, htext, htext]
  rfl

/-! ### Patterns -/

section Patterns

variable {s word pattern : List Char}

/-- Any text fits a percent sign. -/
lemma likeMatches_any (s : List Char) : likeMatches ['%'] s = true := by
  induction s with
  | nil => rw [likeMatches, likeMatches]
  | cons c s ih => rw [likeMatches, ih, Bool.or_true]

/-- Characters that stand for themselves are matched one by one, in any case. -/
lemma likeMatches_append (hword : (word.all fun p => p != '%' && p != '_') = true) :
    likeMatches (word ++ pattern) s = true
      ↔ ∃ head tail, s = head ++ tail ∧ head.map Char.toLower = word.map Char.toLower
          ∧ likeMatches pattern tail = true := by
  induction word generalizing s with
  | nil => simp
  | cons p word ih =>
    simp only [List.all_cons, Bool.and_eq_true, bne_iff_ne] at hword
    obtain ⟨⟨hany, hone⟩, htail⟩ := hword
    cases s with
    | nil =>
      rw [List.cons_append, likeMatches]
      · simp
      · exact hany
    | cons c s =>
      rw [List.cons_append, likeMatches, Bool.and_eq_true, ih htail, beq_false_of_ne hone,
        Bool.false_or, beq_iff_eq]
      · constructor
        · rintro ⟨hc, head, tail, rfl, hhead, hmatch⟩
          exact ⟨c :: head, tail, rfl, by rw [List.map_cons, List.map_cons, hhead, hc], hmatch⟩
        · rintro ⟨head, tail, hs, hhead, hmatch⟩
          cases head with
          | nil => cases hhead
          | cons d head =>
            obtain ⟨rfl, rfl⟩ := List.cons.inj hs
            obtain ⟨hc, hhead⟩ := List.cons.inj hhead
            exact ⟨hc.symm, head, tail, rfl, hhead, hmatch⟩
      · exact hany

/-- An underscore stands for one character of any kind. -/
lemma likeMatches_one_any (s : List Char) : likeMatches ['_', '%'] s = !s.isEmpty := by
  cases s with
  | nil => rw [likeMatches] <;> simp
  | cons c s =>
    rw [likeMatches, likeMatches_any]
    · rfl
    · simp

end Patterns

/-! ### Truth -/

def TextTest.accepts (s : String) : TextTest → Bool
  | equals t => s == t
  | unlike pattern => !likeMatches pattern.toList s.toList
  | oneOf texts => texts.contains s
  | noneOf texts => !texts.contains s

/-- What is referred to is a text, which is compared as it is. -/
structure Env.HoldsText (env : Env) (r : Ref) (s : String) : Prop where
  cell : env.cell r = .ofText s
  affinity : env.affinity r = .text
  collation : env.collation r = some .binary

lemma truth_truthCell (o : Option Bool) : (truthCell o).truth = o := by
  match o with
  | none => rfl
  | some true => rfl
  | some false => rfl

section Truth

variable {env : Env} {r : Ref} {s : String} {x y : Expr Ref}

lemma evalOneOf_texts (s : String) (texts : List String) :
    Expr.evalOneOf env .text .binary (.ofText s) (texts.map textExpr)
      = some (texts.contains s) := by
  induction texts with
  | nil => rfl
  | cons t texts ih =>
    rw [List.map_cons, Expr.evalOneOf, ih, textExpr, Expr.eval, apply_eq_ofText,
      List.contains_cons]
    cases s == t <;> cases texts.contains s <;> rfl

variable (h : env.HoldsText r s)

include h

lemma truth_memberExpr (texts : List String) :
    ((memberExpr (.ref r) texts).eval env).truth = some (texts.contains s) := by
  match texts with
  | [] => rfl
  | [t] =>
    simp only [memberExpr, textExpr, Expr.eval, truth_truthCell, Env.comparedAffinity,
      Env.affinityOf, Env.comparedCollation, Env.collationOf, h.collation, h.affinity, h.cell]
    rw [List.contains_cons, List.contains_nil, Bool.or_false]
    exact apply_eq_ofText s t
  | t :: t' :: texts =>
    change (truthCell (Expr.evalOneOf env _ _ (env.cell r)
      ((t :: t' :: texts).map textExpr))).truth = _
    rw [truth_truthCell, Env.affinityOf, Env.collationOf, h.collation, h.affinity, h.cell]
    exact evalOneOf_texts s (t :: t' :: texts)

/-- A test is true of the texts that pass it and false of all others. -/
lemma TextTest.truth_expr (test : TextTest) :
    ((test.expr (.ref r)).eval env).truth = some (test.accepts s) := by
  cases test with
  | equals t =>
    simp only [expr, textExpr, Expr.eval, truth_truthCell, Env.comparedAffinity, Env.affinityOf,
      Env.comparedCollation, Env.collationOf, h.collation, h.affinity, h.cell]
    exact apply_eq_ofText s t
  | unlike pattern =>
    simp only [expr, textExpr, Expr.eval, truth_truthCell, h.cell, likes_ofText]
    rfl
  | oneOf texts => exact truth_memberExpr h texts
  | noneOf texts =>
    rw [expr, Expr.eval, truth_truthCell, truth_memberExpr h]
    rfl

end Truth

section Conjunctions

variable {env : Env} {x y : Expr Ref}

lemma truth_of_isZero (h : x.isZero = true) : (x.eval env).truth = some false := by
  cases x
  case constant c =>
    cases c
    case integer v =>
      obtain rfl := eq_of_beq h
      rfl
    all_goals cases h
  all_goals cases h

lemma truth_bothExpr :
    ((bothExpr x y).eval env).truth = truthAnd (x.eval env).truth (y.eval env).truth := by
  unfold bothExpr
  split
  · rename_i hzero
    rw [Bool.or_eq_true] at hzero
    rcases hzero with h | h
    · rw [truth_of_isZero h]
      rfl
    · rw [truth_of_isZero h]
      match (x.eval env).truth with
      | none => rfl
      | some true => rfl
      | some false => rfl
  · rw [Expr.eval, truth_truthCell]

/-- Tests that have to hold together with a condition are true if all of them are. -/
lemma truth_allExpr (ref : String → Ref) (text : String → String) {b : Bool}
    (hx : (x.eval env).truth = some b) {tests : List NamedTest}
    (htests : ∀ t ∈ tests, env.HoldsText (ref t.column) (text t.column)) :
    ((allExpr (fun s => .ref (ref s)) x tests).eval env).truth
      = some (b && tests.all fun t => t.test.accepts (text t.column)) := by
  induction tests generalizing x b with
  | nil =>
    rw [List.all_nil, Bool.and_true]
    exact hx
  | cons t tests ih =>
    obtain ⟨ht, htail⟩ := List.forall_mem_cons.1 htests
    have hboth : ((bothExpr x (t.expr fun s => .ref (ref s))).eval env).truth
        = some (b && t.test.accepts (text t.column)) := by
      rw [truth_bothExpr, hx, NamedTest.expr, t.test.truth_expr ht]
      cases b <;> cases t.test.accepts (text t.column) <;> rfl
    rw [List.all_cons, ← Bool.and_assoc]
    exact ih hboth htail

end Conjunctions

/-! ### Resolution -/

/-- An expression is resolved without an error, and is no constant that is told apart from what it
was. -/
structure Resolves (meaning : Option Char → String → Checked (Expr Ref)) (x : Expr Mention)
    (y : Expr Ref) : Prop where
  resolveBy_eq : x.resolveBy meaning = .ok y
  isZero_eq : y.isZero = x.isZero
  oversized_eq : y.oversized = []

section Resolution

variable {meaning : Option Char → String → Checked (Expr Ref)} {x : Expr Mention} {y : Expr Ref}

lemma resolveAllBy_texts (texts : List String) :
    Expr.resolveAllBy meaning (texts.map textExpr) = .ok (texts.map textExpr) := by
  induction texts with
  | nil => rfl
  | cons s texts ih =>
    rw [List.map_cons, Expr.resolveAllBy, ih]
    rfl

lemma allOversized_texts (texts : List String) :
    Expr.allOversized (texts.map (textExpr (ρ := Ref))) = [] := by
  induction texts with
  | nil => rfl
  | cons s texts ih =>
    rw [List.map_cons, Expr.allOversized, ih]
    rfl

variable (h : Resolves meaning x y)

include h

lemma Resolves.memberExpr (texts : List String) :
    Resolves meaning (memberExpr x texts) (memberExpr y texts) := by
  match texts with
  | [] => exact ⟨rfl, rfl, rfl⟩
  | [s] =>
    refine ⟨?_, rfl, ?_⟩
    · rw [Sqlite.memberExpr, Expr.resolveBy, h.resolveBy_eq]
      rfl
    · rw [Sqlite.memberExpr, Expr.oversized, h.oversized_eq]
      rfl
  | s :: t :: texts =>
    refine ⟨?_, rfl, ?_⟩
    · change Expr.resolveBy meaning (.oneOf x ((s :: t :: texts).map textExpr)) = _
      rw [Expr.resolveBy, h.resolveBy_eq, resolveAllBy_texts]
      rfl
    · change Expr.oversized (.oneOf y ((s :: t :: texts).map textExpr)) = _
      rw [Expr.oversized, h.oversized_eq, allOversized_texts, List.append_nil]

lemma Resolves.not : Resolves meaning (.not x) (.not y) where
  resolveBy_eq := by
    rw [Expr.resolveBy, h.resolveBy_eq]
    rfl
  isZero_eq := rfl
  oversized_eq := by rw [Expr.oversized, h.oversized_eq]

lemma Resolves.textTest (test : TextTest) : Resolves meaning (test.expr x) (test.expr y) := by
  cases test with
  | equals s =>
    refine ⟨?_, rfl, ?_⟩
    · rw [TextTest.expr, Expr.resolveBy, h.resolveBy_eq]
      rfl
    · rw [TextTest.expr, Expr.oversized, h.oversized_eq]
      rfl
  | unlike pattern =>
    apply Resolves.not
    refine ⟨?_, rfl, ?_⟩
    · rw [Expr.resolveBy, h.resolveBy_eq]
      rfl
    · rw [Expr.oversized, h.oversized_eq]
      rfl
  | oneOf texts => exact h.memberExpr texts
  | noneOf texts => exact (h.memberExpr texts).not

lemma Resolves.bothExpr {x' : Expr Mention} {y' : Expr Ref} (h' : Resolves meaning x' y') :
    Resolves meaning (bothExpr x x') (bothExpr y y') := by
  unfold Sqlite.bothExpr
  rw [h.isZero_eq, h'.isZero_eq]
  split
  · exact ⟨rfl, rfl, rfl⟩
  · refine ⟨?_, rfl, ?_⟩
    · rw [Expr.resolveBy, h.resolveBy_eq, h'.resolveBy_eq]
      rfl
    · rw [Expr.oversized, h.oversized_eq, h'.oversized_eq]
      rfl

lemma Resolves.allExpr {ref : String → Expr Ref} {tests : List NamedTest}
    (htests : ∀ t ∈ tests, Resolves meaning (mentioned t.column) (ref t.column)) :
    Resolves meaning (allExpr mentioned x tests) (allExpr ref y tests) := by
  induction tests generalizing x y with
  | nil => exact h
  | cons t tests ih =>
    obtain ⟨ht, htail⟩ := List.forall_mem_cons.1 htests
    exact ih (h.bothExpr (ht.textTest t.test)) htail

end Resolution

end ForeignData.Sqlite
