import ForeignData.Sqlite.Connection
import Mathlib.Tactic.Lemma

/-!
# Programs of statements

What a prepared statement says of its text: it was read and resolved against some database. A query
of values has a result column for each of them.
-/

namespace ForeignData.Sqlite

/-! ### Steps of a check -/

lemma Checked.bind_eq_ok {α β : Type} {x : Checked α} {f : α → Checked β} {b : β}
    (h : x >>= f = .ok b) : ∃ a, x = .ok a ∧ f a = .ok b := by
  cases x with
  | error message => cases h
  | ok a => exact ⟨a, rfl, h⟩

lemma Checked.map_some_eq_ok {α : Type} {x : Checked α} {a : α}
    (h : some <$> x = .ok (some a)) : x = .ok a := by
  cases x with
  | error message => cases h
  | ok b => exact congrArg Except.ok (Option.some.inj (Except.ok.inj h))

/-! ### Queries -/

lemma length_resolveItems {relation : Option Relation} {xs : List (Expr Mention)}
    {items : List (Expr Ref)}
    (h : resolveItems relation (xs.map .value) = .ok items) : items.length = xs.length := by
  induction xs generalizing items with
  | nil =>
    obtain rfl := Except.ok.inj h
    rfl
  | cons x xs ih =>
    obtain ⟨item, -, h⟩ := Checked.bind_eq_ok h
    obtain ⟨rest, hrest, h⟩ := Checked.bind_eq_ok h
    obtain rfl := Except.ok.inj h
    rw [List.length_cons, ih hrest, List.length_cons]

/-- A query of values has a result column for each. -/
lemma width_of_compileSelect {db : Database} {xs : List (Expr Mention)} {table : Option String}
    {condition : Option (Expr Mention)} {compiled : Compiled}
    (h : compileSelect db (xs.map .value) table condition = .ok compiled) :
    compiled.width = xs.length := by
  unfold compileSelect at h
  cases table with
  | none =>
    obtain ⟨_, -, h⟩ := Checked.bind_eq_ok h
    obtain ⟨items, hitems, h⟩ := Checked.bind_eq_ok h
    obtain ⟨_, -, h⟩ := Checked.bind_eq_ok h
    obtain ⟨_, -, h⟩ := Checked.bind_eq_ok h
    obtain rfl := Except.ok.inj h
    exact length_resolveItems hitems
  | some name =>
    dsimp only at h
    split at h
    · cases h
    · obtain ⟨_, -, h⟩ := Checked.bind_eq_ok h
      obtain ⟨items, hitems, h⟩ := Checked.bind_eq_ok h
      obtain ⟨_, -, h⟩ := Checked.bind_eq_ok h
      obtain ⟨_, -, h⟩ := Checked.bind_eq_ok h
      obtain rfl := Except.ok.inj h
      exact length_resolveItems hitems

/-! ### Prepared statements -/

lemma Connection.program_eq_ok {c : Connection} {store : Store} {sql : String} {program : Program}
    (h : c.program store sql = .ok (some program)) :
    ∃ parsed db, parse sql = .ok (some parsed) ∧ parsed.program db = .ok program := by
  obtain ⟨parsed, hparsed, h⟩ := Checked.bind_eq_ok h
  split at h
  · cases h
  · rename_i parsed
    split at h
    · exact ⟨parsed, .empty, hparsed, Checked.map_some_eq_ok h⟩
    · split at h
      · cases h
      · split at h
        · exact ⟨parsed, _, hparsed, Checked.map_some_eq_ok h⟩
        · cases h

lemma Connection.prepare_eq_ok {c c' : Connection} {store : Store} {sql : String}
    {prepared : Prepared} (h : c.prepare store sql = (.ok prepared, c')) :
    ∃ parsed db, parse sql = .ok (some parsed) ∧ parsed.program db = .ok prepared.program := by
  unfold Connection.prepare at h
  split at h
  · cases h
  · dsimp only at h
    split at h
    · cases h
    · cases h
    · rename_i program hprogram
      obtain rfl := Except.ok.inj (Prod.mk.inj h).1
      exact Connection.program_eq_ok hprogram

end ForeignData.Sqlite
