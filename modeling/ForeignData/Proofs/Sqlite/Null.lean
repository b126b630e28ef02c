import ForeignData.Proofs.Action
import ForeignData.Sql.Quote
import ForeignData.Sqlite.Open

/-!
# Null characters

SQLite takes a text up to its first null character, so a statement with one in it is not prepared.
Quotes around a name and marks between names bring none in and take none away.
-/

namespace ForeignData

/-- A text without null characters. -/
def IsNulFree (s : String) : Prop :=
  s.toList.any FileTree.isNul = false

instance : DecidablePred IsNulFree :=
  fun s => inferInstanceAs (Decidable (s.toList.any FileTree.isNul = false))

lemma isNulFree_append_iff {s t : String} : IsNulFree (s ++ t) ↔ IsNulFree s ∧ IsNulFree t := by
  rw [IsNulFree, String.toList_append, List.any_append, Bool.or_eq_false_iff]
  rfl

lemma any_doubled (mark : Char) (p : Char → Bool) (s : List Char) :
    (doubled mark s).any p = s.any p := by
  induction s with
  | nil => rfl
  | cons c s ih =>
    rw [doubled]
    split
    · rename_i hmark
      rw [List.any_cons, List.any_cons, ih, List.any_cons, hmark, ← Bool.or_assoc, Bool.or_self]
    · rw [List.any_cons, ih, List.any_cons]

lemma any_isNul_enclosed {mark : Char} (hmark : FileTree.isNul mark = false) (s : List Char) :
    (enclosed mark s).any FileTree.isNul = s.any FileTree.isNul := by
  rw [enclosed, List.any_append, List.any_cons, any_doubled, List.any_cons, List.any_nil, hmark,
    Bool.false_or, Bool.or_false, Bool.or_false]

lemma isNulFree_quoteRemoteName_iff {s : String} : IsNulFree (quoteRemoteName s) ↔ IsNulFree s := by
  rw [IsNulFree, quoteRemoteName, String.toList_ofList, any_isNul_enclosed (by decide)]
  rfl

lemma isNulFree_quoteRemoteConstant_iff {s : String} :
    IsNulFree (quoteRemoteConstant s) ↔ IsNulFree s := by
  rw [IsNulFree, quoteRemoteConstant, String.toList_ofList, any_isNul_enclosed (by decide)]
  rfl

lemma any_isNul_intercalate {mark : List Char} (hmark : mark.any FileTree.isNul = false)
    (texts : List (List Char)) : (mark.intercalate texts).any FileTree.isNul
      = texts.any fun text => text.any FileTree.isNul := by
  induction texts with
  | nil => rfl
  | cons text texts ih =>
    cases texts with
    | nil => simp [List.intercalate]
    | cons text' texts =>
      have htexts : mark.intercalate (text :: text' :: texts)
          = text ++ (mark ++ mark.intercalate (text' :: texts)) := by
        simp [List.intercalate]
      rw [htexts, List.any_append, List.any_append, hmark, ih, Bool.false_or]
      rfl

lemma isNulFree_intercalate_iff {mark : String} (hmark : IsNulFree mark) {texts : List String} :
    IsNulFree (mark.intercalate texts) ↔ ∀ text ∈ texts, IsNulFree text := by
  rw [IsNulFree, String.toList_intercalate, any_isNul_intercalate hmark, List.any_map,
    List.any_eq_false]
  simp only [Function.comp_apply, Bool.not_eq_true]
  rfl

namespace Sqlite

/-- A text with a null character is not prepared, and nothing is changed. -/
lemma prepare_run_of_not_isNulFree {sql : String} (h : ¬IsNulFree sql) (c : Connection)
    (store : Store) : (engine.prepare c sql).run store
      = (.error (.prepareFailed "query contains a nul byte"), store) := by
  have hprepare : c.prepare store sql
      = (.error (.prepareFailed "query contains a nul byte"), c) := by
    rw [Connection.prepare, if_pos (Bool.not_eq_false _ ▸ h)]
  change (Sqlite.prepare c sql).run store = _
  rw [Sqlite.prepare, Action.run_get_bind, hprepare]
  rfl

end Sqlite

end ForeignData
