import ForeignData.Proofs.Action
import ForeignData.Proofs.Sqlite.Program
import ForeignData.Sqlite.Open

/-!
# Statements as they are opened

A statement that has just been prepared on a connection of its own stands at its beginning, with
nothing bound. Its text has been resolved against the database of the connection's file.
-/

namespace ForeignData.Sqlite

/-- A statement that has been opened for a text. -/
structure OpenStatement.IsOpened (s : OpenStatement) (store : Store) (sql : String) : Prop where
  state : s.prepared.state = .ready
  view : s.connection.view = none
  length_bindings : s.prepared.bindings.length = s.prepared.program.placeholders
  program : ∃ parsed, parse sql = .ok (some parsed)
    ∧ (parsed.statement.usesDatabase = true → ∃ db, s.connection.database? store = some db
      ∧ parsed.program db = .ok s.prepared.program)

variable {c : Connection} {store store' : Store} {sql path : String} {s : OpenStatement}
  {mode : OpenMode}

lemma Connection.program_eq_ok_of_database {program : Program}
    (h : c.program store sql = .ok (some program)) :
    ∃ parsed, parse sql = .ok (some parsed)
      ∧ (parsed.statement.usesDatabase = true → ∃ db, c.database? store = some db
        ∧ parsed.program db = .ok program) := by
  obtain ⟨parsed, hparsed, h⟩ := Checked.bind_eq_ok h
  cases parsed with
  | none => cases h
  | some parsed =>
    refine ⟨parsed, hparsed, fun huses => ?_⟩
    have hnot : ¬(!true) = true := by decide
    dsimp only at h
    rw [huses, if_neg hnot] at h
    split at h
    · cases h
    · split at h
      · rename_i db hdatabase
        exact ⟨db, hdatabase, Checked.map_some_eq_ok h⟩
      · cases h

lemma view_of_openLocation {location : Location}
    (h : openLocation store path location = .ok (c, store')) : c.view = none := by
  unfold openLocation at h
  split at h
  · cases h
    rfl
  · obtain ⟨store₁, -, h⟩ := Checked.bind_eq_ok h
    cases h
    rfl

/-- A connection that has been opened stands on no row. -/
lemma view_of_connect (h : (connect mode path).run store = (.ok c, store')) : c.view = none := by
  unfold connect at h
  rw [Action.run, ExceptT.run] at h
  dsimp only at h
  generalize hopened : (if path.toList.any FileTree.isNul = true then _ else _) = opened at h
  cases opened with
  | error reason => cases h
  | ok opened =>
    cases h
    split at hopened
    · cases hopened
    · obtain ⟨location, -, hopened⟩ := Checked.bind_eq_ok hopened
      exact view_of_openLocation hopened

lemma isOpened_of_prepare (hview : c.view = none)
    (h : (Sqlite.prepare c sql).run store = (.ok s, store')) :
    s.IsOpened store' sql ∧ store' = store := by
  rw [Sqlite.prepare, Action.run_get_bind] at h
  cases hprepare : c.prepare store sql with
  | mk result connection =>
    rw [hprepare] at h
    unfold Connection.prepare at hprepare
    split at hprepare
    · cases hprepare
      cases h
    · dsimp only at hprepare
      split at hprepare
      · cases hprepare
        cases h
      · cases hprepare
        cases h
      · rename_i program hprogram
        cases hprepare
        cases h
        exact ⟨⟨rfl, hview, List.length_replicate,
          Connection.program_eq_ok_of_database hprogram⟩, rfl⟩

/-- Opening a database and preparing a text opens a statement for it. -/
lemma isOpened_of_open (h : (do
      let connection ← engine.connect mode path
      engine.prepare connection sql).run store = (.ok s, store')) : s.IsOpened store' sql := by
  obtain ⟨c, store₁, hconnect, h⟩ := Action.run_bind_eq_ok h
  exact (isOpened_of_prepare (view_of_connect hconnect) h).1

/-- A text that is a statement on a database is prepared, if the database can be read. -/
lemma prepare_eq_of_parse {db : Database} {parsed : ParsedStatement} {program : Program}
    (hdatabase : c.database? store = some db)
    (hfree : c.isShutOut store = false) (hnul : sql.toList.any FileTree.isNul = false)
    (hparse : parse sql = .ok (some parsed)) (huses : parsed.statement.usesDatabase = true)
    (hprogram : parsed.program db = .ok program) :
    (Sqlite.prepare c sql).run store
      = (.ok ⟨.new sql program, { c with status := .ok, reason := none }⟩, store) := by
  have hprepared : c.program store sql = .ok (some program) := by
    rw [Connection.program, hparse]
    change (if (!parsed.statement.usesDatabase) = true then _ else if _ then _ else _) = _
    rw [huses, hfree, hdatabase]
    change some <$> parsed.program db = _
    rw [hprogram]
    rfl
  have hprepare : c.prepare store sql
      = (.ok (.new sql program), { c with status := .ok, reason := none }) := by
    rw [Connection.prepare, hnul, hprepared]
    rfl
  rw [Sqlite.prepare, Action.run_get_bind, hprepare]
  rfl

end ForeignData.Sqlite
