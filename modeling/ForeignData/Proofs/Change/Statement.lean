import ForeignData.Plan.Change
import ForeignData.Proofs.Sqlite.Changes
import ForeignData.Proofs.Sqlite.Null

/-!
# Statements of changes

The statement of a mutation has the tokens of one insertion, one update of rows or one removal of
rows, with its names in quotes and its placeholders counted from one. SQLite reads it as that change
unless it has too many values.
-/

namespace ForeignData

open Sqlite

/-! ### Pieces -/

lemma toList_placeholderText (n : Nat) : (placeholderText n).toList = '?' :: natText n := by
  simp [placeholderText, natString]

lemma isPhrase_quoteRemoteName (s : String) :
    IsPhrase (quoteRemoteName s).toList [quotedName s] := by
  rw [quoteRemoteName, String.toList_ofList]
  exact .name s.toList

lemma isPhrase_placeholderText (n : Nat) :
    IsPhrase (placeholderText n).toList [placeholderLexeme n] := by
  rw [toList_placeholderText]
  exact .placeholder n

lemma isPhrase_assignment (s : String) (n : Nat) :
    IsPhrase (quoteRemoteName s ++ " = " ++ placeholderText n).toList
      [quotedName s, symbolLexeme '=', placeholderLexeme n] := by
  have htext : (quoteRemoteName s ++ " = " ++ placeholderText n).toList
      = (quoteRemoteName s).toList ++ ' ' :: (['='] ++ ' ' :: (placeholderText n).toList) := by
    simp
  rw [htext]
  exact (isPhrase_quoteRemoteName s).space (IsPhrase.equals.space (isPhrase_placeholderText n))

lemma isPhrase_intercalate {texts : List String} {groups : List (List Lexeme)}
    (h : List.Forall₂ (fun text group => IsPhrase text.toList group) texts groups)
    (hne : texts ≠ []) : IsPhrase (", ".intercalate texts).toList (commas groups) := by
  rw [String.toList_intercalate]
  refine IsPhrase.intercalate ?_ (by simpa using hne)
  exact List.forall₂_map_left_iff.2 h

/-! ### Lists -/

section Lists

variable {names : List String}

lemma isPhrase_names (hne : names ≠ []) :
    IsPhrase (", ".intercalate (names.map quoteRemoteName)).toList (commas (nameGroups names)) := by
  refine isPhrase_intercalate ?_ (by simpa using hne)
  rw [nameGroups, List.forall₂_map_left_iff, List.forall₂_map_right_iff, List.forall₂_same]
  exact fun s _ => isPhrase_quoteRemoteName s

lemma placeholders_eq (index : Nat) (names : List String) :
    placeholders index names = (List.range' index names.length).map placeholderText := by
  induction names generalizing index with
  | nil => rfl
  | cons s names ih =>
    rw [placeholders, ih, List.length_cons, List.range'_succ, List.map_cons]

lemma isPhrase_placeholders (hne : names ≠ []) :
    IsPhrase (", ".intercalate (placeholders 1 (names.map quoteRemoteName))).toList
      (commas (placeholderGroups 0 names.length)) := by
  rw [placeholders_eq, List.length_map]
  refine isPhrase_intercalate ?_ (by simpa using hne)
  rw [placeholderGroups, List.forall₂_map_left_iff, List.forall₂_map_right_iff, List.forall₂_same]
  exact fun n _ => isPhrase_placeholderText n

lemma forall₂_assignments (k : Nat) (names : List String) :
    List.Forall₂ (fun text group => IsPhrase text.toList group)
      (assignments (k + 1) (names.map quoteRemoteName)) (assignmentGroups k names) := by
  induction names generalizing k with
  | nil => exact .nil
  | cons s names ih => exact .cons (isPhrase_assignment s (k + 1)) (ih (k + 1))

lemma isPhrase_assignments (hne : names ≠ []) :
    IsPhrase (", ".intercalate (assignments 1 (names.map quoteRemoteName))).toList
      (commas (assignmentGroups 0 names)) := by
  refine isPhrase_intercalate (forall₂_assignments 0 names) ?_
  obtain ⟨s, names, rfl⟩ := List.exists_cons_of_ne_nil hne
  simp [assignments]

end Lists

/-! ### Null characters -/

section NullCharacters

variable {names : List String}

lemma isNulFree_placeholderText (n : Nat) : IsNulFree (placeholderText n) := by
  rw [IsNulFree, toList_placeholderText, List.any_eq_false]
  intro c hc
  rw [FileTree.isNul, beq_iff_eq]
  rcases List.mem_cons.1 hc with rfl | hc
  · decide
  · have hdigit := (isDigit_iff_toNat c).1 (allDigits_natText n c hc)
    omega

lemma isNulFree_rowidCondition (n : Nat) : IsNulFree (rowidCondition n) :=
  isNulFree_append_iff.2 ⟨by decide, isNulFree_placeholderText n⟩

lemma forall_isNulFree_placeholders (index : Nat) (names : List String) :
    ∀ text ∈ placeholders index names, IsNulFree text := by
  rw [placeholders_eq]
  exact List.forall_mem_map.2 fun n _ => isNulFree_placeholderText n

lemma forall_isNulFree_assignments_iff (index : Nat) :
    (∀ text ∈ assignments index (names.map quoteRemoteName), IsNulFree text)
      ↔ ∀ name ∈ names, IsNulFree name := by
  induction names generalizing index with
  | nil => exact ⟨fun _ => nofun, fun _ => nofun⟩
  | cons name names ih =>
    rw [List.map_cons, assignments, List.forall_mem_cons, List.forall_mem_cons, ih,
      isNulFree_append_iff, isNulFree_append_iff, isNulFree_quoteRemoteName_iff]
    have hequals : IsNulFree " = " := by decide
    have hplaceholder := isNulFree_placeholderText index
    tauto

end NullCharacters

/-! ### Whole statements -/

namespace Mutation

/-- The tokens of the statement of a mutation of some columns. -/
def lexemes (m : Mutation) (table : String) (names : List String) : List Lexeme :=
  match m, names with
  | insert _, [] => insertDefaultsLexemes table
  | insert _, names => insertLexemes table names
  | update _, names => updateLexemes table names
  | delete, _ => deleteLexemes table

/-- The number of placeholders of the statement of a mutation of a number of columns. -/
def placeholderCount (m : Mutation) (columns : Nat) : Nat :=
  match m with
  | insert _ => columns
  | update _ => columns + 1
  | delete => 1

/-- The number of columns that SQLite takes in the statement of a mutation. -/
def maxTargets : Mutation → Nat
  | insert _ => Parser.maxPlaceholder
  | update _ => maxColumns
  | delete => 0

/-- The change that SQLite reads the statement of a mutation as. -/
def remote (m : Mutation) (table : String) (names : List String) : Statement :=
  match m, names with
  | insert _, [] => .insertDefaults table
  | insert _, names => .insert table (some names) (placeholderValues 0 names.length)
  | update _, names =>
    .update table (names.zip (placeholderValues 0 names.length)) (some (rowidIs (names.length + 1)))
  | delete, _ => .delete table (some (rowidIs 1))

variable {m : Mutation} {remoteName : String} {names : List String} {query : String}

lemma isPhrase_rowidCondition {s : List Char} {lexemes : List Lexeme} (h : IsPhrase s lexemes)
    (n : Nat) : IsPhrase (s ++ (rowidCondition n).toList) (lexemes ++ rowidLexemes n) := by
  have hwhere : IsPhrase "WHERE".toList [word "WHERE"] := .word (by decide)
  have hrowid : IsPhrase rowidName.toList [word "rowid"] := .word (by decide)
  have htext : (rowidCondition n).toList = ' ' :: ("WHERE".toList ++ ' ' :: (rowidName.toList
      ++ ' ' :: (['='] ++ ' ' :: (placeholderText n).toList))) := by
    simp [rowidCondition]
  rw [htext]
  exact h.space (hwhere.space (hrowid.space (IsPhrase.equals.space (isPhrase_placeholderText n))))

lemma isPhrase_insertDefaults (table : String) :
    IsPhrase ("INSERT INTO " ++ quoteRemoteName table ++ " DEFAULT VALUES").toList
      (insertDefaultsLexemes table) := by
  have hinsert : IsPhrase "INSERT".toList [word "INSERT"] := .word (by decide)
  have hinto : IsPhrase "INTO".toList [word "INTO"] := .word (by decide)
  have hdefault : IsPhrase "DEFAULT".toList [word "DEFAULT"] := .word (by decide)
  have hvalues : IsPhrase "VALUES".toList [word "VALUES"] := .word (by decide)
  have hall := hinsert.space (hinto.space ((isPhrase_quoteRemoteName table).space
    (hdefault.space hvalues)))
  simpa [insertDefaultsLexemes] using hall

lemma isPhrase_insert (table : String) (hne : names ≠ []) :
    IsPhrase ("INSERT INTO " ++ quoteRemoteName table ++ " ("
        ++ ", ".intercalate (names.map quoteRemoteName) ++ ") VALUES ("
        ++ ", ".intercalate (placeholders 1 (names.map quoteRemoteName)) ++ ")").toList
      (insertLexemes table names) := by
  have hinsert : IsPhrase "INSERT".toList [word "INSERT"] := .word (by decide)
  have hinto : IsPhrase "INTO".toList [word "INTO"] := .word (by decide)
  have hvalues : IsPhrase "VALUES".toList [word "VALUES"] := .word (by decide)
  have hall := hinsert.space (hinto.space ((isPhrase_quoteRemoteName table).space
    ((isPhrase_names hne).parenthesize.space
      (hvalues.space (isPhrase_placeholders hne).parenthesize))))
  simpa [insertLexemes, -String.toList_intercalate] using hall

lemma isPhrase_update (table : String) (hne : names ≠ []) :
    IsPhrase ("UPDATE " ++ quoteRemoteName table ++ " SET "
        ++ ", ".intercalate (assignments 1 (names.map quoteRemoteName))
        ++ rowidCondition (names.length + 1)).toList (updateLexemes table names) := by
  have hupdate : IsPhrase "UPDATE".toList [word "UPDATE"] := .word (by decide)
  have hset : IsPhrase "SET".toList [word "SET"] := .word (by decide)
  have hall := isPhrase_rowidCondition (hupdate.space ((isPhrase_quoteRemoteName table).space
    (hset.space (isPhrase_assignments hne)))) (names.length + 1)
  simpa [updateLexemes, -String.toList_intercalate] using hall

lemma isPhrase_delete (table : String) :
    IsPhrase ("DELETE FROM " ++ quoteRemoteName table ++ rowidCondition 1).toList
      (deleteLexemes table) := by
  have hdelete : IsPhrase "DELETE".toList [word "DELETE"] := .word (by decide)
  have hfrom : IsPhrase "FROM".toList [word "FROM"] := .word (by decide)
  have hall := isPhrase_rowidCondition
    (hdelete.space (hfrom.space (isPhrase_quoteRemoteName table))) 1
  simpa [deleteLexemes] using hall

lemma tokens_statement (h : m.statement remoteName (names.map quoteRemoteName) = .ok query) :
    tokens query.toList = m.lexemes remoteName names := by
  cases m with
  | insert ts =>
    cases names with
    | nil =>
      obtain rfl := Except.ok.inj h
      exact (isPhrase_insertDefaults remoteName).tokens_eq (by simp)
    | cons s names =>
      obtain rfl := Except.ok.inj h
      exact (isPhrase_insert remoteName (by simp)).tokens_eq (by simp)
  | update ts =>
    cases names with
    | nil => cases h
    | cons s names =>
      obtain rfl := Except.ok.inj h
      rw [List.length_map]
      exact (isPhrase_update remoteName (by simp)).tokens_eq (by simp)
  | delete =>
    obtain rfl := Except.ok.inj h
    exact (isPhrase_delete remoteName).tokens_eq (by simp)

/-- The statement of a mutation has a null character if and only if one of its names has. -/
lemma isNulFree_statement_iff
    (h : m.statement remoteName (names.map quoteRemoteName) = .ok query)
    (hlength : names.length = m.targets.length) :
    IsNulFree query ↔ IsNulFree remoteName ∧ ∀ name ∈ names, IsNulFree name := by
  have hcomma : IsNulFree ", " := by decide
  have hquoted : (∀ text ∈ names.map quoteRemoteName, IsNulFree text)
      ↔ ∀ name ∈ names, IsNulFree name := by
    simp only [List.forall_mem_map, isNulFree_quoteRemoteName_iff]
  cases m with
  | insert ts =>
    cases names with
    | nil =>
      obtain rfl := Except.ok.inj h
      have hfront : IsNulFree "INSERT INTO " := by decide
      have hback : IsNulFree " DEFAULT VALUES" := by decide
      simp only [isNulFree_append_iff, isNulFree_quoteRemoteName_iff, hfront, hback, true_and,
        and_true, List.not_mem_nil, false_imp_iff, implies_true]
    | cons name names =>
      obtain rfl := Except.ok.inj h
      have hfront : IsNulFree "INSERT INTO " := by decide
      have hopen : IsNulFree " (" := by decide
      have hvalues : IsNulFree ") VALUES (" := by decide
      have hclose : IsNulFree ")" := by decide
      have hplaceholders := (isNulFree_intercalate_iff hcomma).2
        (forall_isNulFree_placeholders 1 ((name :: names).map quoteRemoteName))
      rw [← hquoted, ← isNulFree_intercalate_iff hcomma]
      simp only [isNulFree_append_iff, isNulFree_quoteRemoteName_iff, hfront, hopen, hvalues,
        hclose, true_and, and_true]
      exact and_iff_left hplaceholders
  | update ts =>
    cases names with
    | nil => cases h
    | cons name names =>
      obtain rfl := Except.ok.inj h
      have hfront : IsNulFree "UPDATE " := by decide
      have hset : IsNulFree " SET " := by decide
      rw [← forall_isNulFree_assignments_iff 1, ← isNulFree_intercalate_iff hcomma]
      simp only [isNulFree_append_iff, isNulFree_quoteRemoteName_iff, hfront, hset, true_and,
        and_true]
      exact and_iff_left (isNulFree_rowidCondition _)
  | delete =>
    obtain rfl := Except.ok.inj h
    obtain rfl := List.eq_nil_of_length_eq_zero hlength
    have hfront : IsNulFree "DELETE FROM " := by decide
    have hcondition := isNulFree_rowidCondition 1
    simp only [isNulFree_append_iff, isNulFree_quoteRemoteName_iff, hfront, hcondition, true_and,
      and_true, List.not_mem_nil, false_imp_iff, implies_true]

/-- SQLite reads the statement of a mutation as that change, unless it has too many values. -/
lemma parse_statement (h : m.statement remoteName (names.map quoteRemoteName) = .ok query)
    (hmax : names.length ≤ m.maxTargets) :
    parse query = .ok (some ⟨m.remote remoteName names, m.placeholderCount names.length⟩) := by
  have htokens := tokens_statement h
  cases m with
  | insert ts =>
    cases names with
    | nil => exact parse_of_insertDefaultsLexemes htokens
    | cons s names => exact parse_of_insertLexemes htokens (by simp) hmax
  | update ts =>
    cases names with
    | nil => cases h
    | cons s names => exact parse_of_updateLexemes htokens (by simp) hmax
  | delete => exact parse_of_deleteLexemes htokens

/-- The statement of a change of rows that is read has no more values than SQLite takes. -/
lemma length_le_of_parse_statement
    (h : m.statement remoteName (names.map quoteRemoteName) = .ok query)
    (hlength : names.length = m.targets.length) (hrowid : m.needsRowid = true)
    {parsed : ParsedStatement} (hparse : parse query = .ok (some parsed)) :
    names.length ≤ m.maxTargets := by
  have htokens := tokens_statement h
  cases m with
  | insert ts => cases hrowid
  | update ts =>
    cases names with
    | nil => cases h
    | cons s names => exact length_le_of_parse_updateLexemes htokens (by simp) hparse
  | delete => exact hlength.le

/-! ### Placeholders -/

/-- The number of a token, if it is a placeholder; none in its place if it has no number. -/
def placeholderOf? (lexeme : Lexeme) : Option (Option Nat) :=
  match lexeme.token with
  | .placeholder n => some n
  | .named _ => some none
  | _ => none

lemma filterMap_commas (groups : List (List Lexeme)) :
    (commas groups).filterMap placeholderOf?
      = groups.flatMap fun g => g.filterMap placeholderOf? := by
  induction groups with
  | nil => rfl
  | cons g groups ih =>
    cases groups with
    | nil => simp
    | cons g' groups =>
      rw [commas_cons_cons, List.filterMap_append, List.flatMap_cons, ← ih]
      rfl

lemma filterMap_nameGroups (names : List String) :
    (commas (nameGroups names)).filterMap placeholderOf? = [] := by
  rw [filterMap_commas, nameGroups, List.flatMap_map]
  exact List.flatMap_eq_nil_iff.2 fun s _ => rfl

lemma filterMap_placeholderGroups (k count : Nat) :
    (commas (placeholderGroups k count)).filterMap placeholderOf?
      = (List.range' (k + 1) count).map some := by
  rw [filterMap_commas, placeholderGroups, List.flatMap_map]
  exact List.map_eq_flatMap.symm

lemma filterMap_assignmentGroups (k : Nat) (names : List String) :
    (commas (assignmentGroups k names)).filterMap placeholderOf?
      = (List.range' (k + 1) names.length).map some := by
  rw [filterMap_commas]
  induction names generalizing k with
  | nil => rfl
  | cons s names ih =>
    rw [assignmentGroups, List.flatMap_cons, ih, List.length_cons, List.range'_succ, List.map_cons]
    rfl

/-- The placeholders of a statement are numbered from one on, and each stands there once. -/
lemma filterMap_lexemes (m : Mutation) (table : String) (names : List String) :
    (m.lexemes table names).filterMap placeholderOf?
      = (List.range' 1 (m.placeholderCount names.length)).map some := by
  cases m with
  | insert ts =>
    cases names with
    | nil => rfl
    | cons s names =>
      have hvalues := filterMap_placeholderGroups 0 (s :: names).length
      simp only [lexemes, insertLexemes, List.filterMap_append, filterMap_nameGroups, hvalues]
      exact List.append_nil _
  | update ts =>
    have hsets := filterMap_assignmentGroups 0 names
    have hcount : placeholderCount (.update ts) names.length = names.length + 1 := rfl
    simp only [lexemes, updateLexemes, List.filterMap_append, hsets]
    rw [hcount, List.range'_concat, List.map_append, Nat.one_mul, Nat.add_comm 1]
    rfl
  | delete => rfl

end Mutation

end ForeignData
