import ForeignData.Proofs.Action
import ForeignData.Proofs.Scan.Tape

/-!
# Engines that follow a script

An engine that may fail at any point of an import: as the database is opened, as a statement is
prepared, or behind any number of rows. It gives one answer for the first statement, the listing of
the tables, and one for each statement after it, and counts the steps of the listing.
-/

namespace ForeignData

/-- All rows of an answer, or the fault that breaks them off. -/
def Answer.all : Answer → Except Fault (List ResultRow)
  | ⟨rows, none⟩ => .ok rows
  | ⟨_, some fault⟩ => .error fault

/-- What comes of the database and of each statement of an import. -/
structure Script where
  opening : Except Fault Unit
  listing : Except Fault Answer
  /-- The columns of a table, by the number of tables before it and the query for them. -/
  columns : Nat → (query : String) → Except Fault Answer

namespace Script

structure Statement where
  /-- The number of statements before it. -/
  place : Nat
  answer : Answer
  rest : Answer
  row : ResultRow

/-- A statement that has not been stepped. -/
def Statement.fresh (place : Nat) (answer : Answer) : Statement :=
  { place, answer, rest := answer, row := [] }

def Statement.rewind (t : Statement) : Statement :=
  { t with rest := t.answer, row := [] }

/-- One step of a statement. It starts over if it is stepped past its end. -/
def Statement.step (t : Statement) : Except Fault StepResult × Statement :=
  match t.rest with
  | ⟨row :: rows, fault⟩ => (.ok .row, { t with rest := ⟨rows, fault⟩, row })
  | ⟨[], none⟩ => (.ok .done, t.rewind)
  | ⟨[], some fault⟩ => (.error fault, t.rewind)

/-- How far a script has been followed. -/
structure Progress where
  /-- The number of statements that have been asked for. -/
  prepared : Nat
  /-- The number of steps that the listing, the first of them, has taken. -/
  listed : Nat

/-- A script that has not been followed. -/
def Progress.start : Progress :=
  ⟨0, 0⟩

/-- One more statement has been asked for. -/
def Progress.prepare (w : Progress) : Progress :=
  { w with prepared := w.prepared + 1 }

def Progress.step (w : Progress) (place : Nat) : Progress :=
  if place = 0 then { w with listed := w.listed + 1 } else w

@[simp] lemma Progress.prepared_step (w : Progress) (place : Nat) :
    (w.step place).prepared = w.prepared := by
  rw [step]
  split <;> rfl

lemma Progress.listed_step (w : Progress) {place : Nat} (h : place = 0) :
    (w.step place).listed = w.listed + 1 := by
  rw [step, if_pos h]

lemma Progress.step_of_ne_zero (w : Progress) {place : Nat} (h : place ≠ 0) :
    w.step place = w :=
  if_neg h

variable (script : Script)

/-- What comes of the statement at a place. -/
def reply : Nat → String → Except Fault Answer
  | 0, _ => script.listing
  | n + 1, query => script.columns n query

def engine : Engine Progress Unit Statement where
  connect _ _ := Action.ofExcept script.opening
  prepare _ query := fun w =>
    ((script.reply w.prepared query).map (Statement.fresh w.prepared), w.prepare)
  bind call := throw (.bindFailed (natString call.index))
  clearBindings := pure ()
  step := fun (t, w) => (t.step.1, (t.step.2, w.step t.place))
  reset := fun (t, w) => (.ok (), (t.rewind, w))
  width t := t.row.length
  row t := t.row
  changes _ := 0
  estimate _ := .error (.noEstimate "")
  rowsLeft := fun (t, _) => t.rest.rows.length
  besides _ w := w

/-! ### Following a script -/

section Following

variable {script} {t : Statement} {w : Progress} {row : ResultRow} {rows : List ResultRow}

lemma run_step_row {fault : Option Fault} (h : t.rest = ⟨row :: rows, fault⟩) :
    script.engine.step.run (t, w)
      = (.ok .row, ({ t with rest := ⟨rows, fault⟩, row }, w.step t.place)) := by
  change (t.step.1, (t.step.2, w.step t.place)) = _
  rw [Statement.step, h]

lemma run_step_done (h : t.rest = ⟨[], none⟩) :
    script.engine.step.run (t, w) = (.ok .done, (t.rewind, w.step t.place)) := by
  change (t.step.1, (t.step.2, w.step t.place)) = _
  rw [Statement.step, h]

lemma run_step_fault {fault : Fault} (h : t.rest = ⟨[], some fault⟩) :
    script.engine.step.run (t, w) = (.error fault, (t.rewind, w.step t.place)) := by
  change (t.step.1, (t.step.2, w.step t.place)) = _
  rw [Statement.step, h]

/-- The rows of any statement but the listing are taken without a step of the listing. -/
lemma exists_run_takeRows (hplace : t.place ≠ 0) {fault : Option Fault}
    (hrest : t.rest = ⟨rows, fault⟩) {fuel : Nat} (hfuel : rows.length < fuel) :
    ∃ t', (script.engine.takeRows fuel).run (t, w) = (Answer.all ⟨rows, fault⟩, (t', w)) := by
  have hstep : w.step t.place = w := w.step_of_ne_zero hplace
  induction rows generalizing t fuel with
  | nil =>
    obtain ⟨fuel, rfl⟩ := Nat.exists_eq_add_of_lt hfuel
    rw [List.length_nil, Nat.zero_add]
    refine ⟨t.rewind, ?_⟩
    cases fault with
    | none => rw [Engine.run_takeRows_of_done (run_step_done hrest), hstep]; rfl
    | some fault => rw [Engine.run_takeRows_of_fault (run_step_fault hrest), hstep]; rfl
  | cons row rows ih =>
    obtain _ | fuel := fuel
    · exact absurd hfuel (Nat.not_lt_zero _)
    obtain ⟨t', htaken⟩ := ih (t := { t with rest := ⟨rows, fault⟩, row }) hplace rfl
      (Nat.succ_lt_succ_iff.1 hfuel) hstep
    refine ⟨t', ?_⟩
    rw [Engine.run_takeRows_of_row (run_step_row hrest), hstep, htaken]
    cases fault <;> rfl

/-- A query behind the listing asks for one more statement and gives the rows of it. -/
lemma run_query (hprepared : w.prepared ≠ 0) (text : String) :
    (script.engine.query () text).run w
      = ((script.reply w.prepared text).bind Answer.all, w.prepare) := by
  cases hreply : script.reply w.prepared text with
  | error fault =>
    have hprepare : (script.engine.prepare () text).run w = (.error fault, w.prepare) := by
      change ((script.reply w.prepared text).map (Statement.fresh w.prepared), w.prepare) = _
      rw [hreply]
      rfl
    rw [Engine.query, Action.run_bind_of_error _ hprepare]
    rfl
  | ok answer =>
    have hprepare : (script.engine.prepare () text).run w
        = (.ok (.fresh w.prepared answer), w.prepare) := by
      change ((script.reply w.prepared text).map (Statement.fresh w.prepared), w.prepare) = _
      rw [hreply]
      rfl
    obtain ⟨t', htaken⟩ : ∃ t', (script.engine.takeRows (answer.rows.length + 1)).run
        (.fresh w.prepared answer, w.prepare) = (answer.all, (t', w.prepare)) :=
      exists_run_takeRows hprepared rfl (Nat.lt_succ_self answer.rows.length)
    have hall : script.engine.allRows.run (.fresh w.prepared answer, w.prepare)
        = (answer.all, (t', w.prepare)) := by
      rw [Engine.allRows, Action.run_get_bind]
      exact htaken
    rw [Engine.query, Action.run_bind_of_ok _ hprepare, Action.run_bind, Action.run_holding, hall]
    obtain ⟨rows, _ | fault⟩ := answer <;> rfl

end Following

end Script

end ForeignData
