import Mathlib.Data.List.Forall2
import ForeignData.Change.Basic
import ForeignData.Proofs.Stored.Parameter
import ForeignData.Proofs.Sqlite.Program
import ForeignData.Proofs.Sqlite.Walk

/-!
# Changes that are run once

A statement that changes a database stands at its beginning between its runs. A run binds its
placeholders in order, takes one step and rewinds. If it fails the files are as they were, and
otherwise the database is the changed one.
-/

namespace ForeignData.Sqlite

namespace OpenStatement

variable {s s' : OpenStatement} {store store' : Store}

/-- A statement that changes a database, at its beginning. -/
structure Rests (s : OpenStatement) : Prop where
  isChange : s.prepared.program.operation.isChange = true
  state : s.prepared.state = .ready
  view : s.connection.view = none
  length_bindings : s.prepared.bindings.length = s.prepared.program.placeholders

/-- What a run leaves of a statement: its program, at the beginning, on the same file. -/
structure Keeps (s s' : OpenStatement) : Prop where
  program : s'.prepared.program = s.prepared.program
  place : s'.connection.place = s.connection.place
  access : s'.connection.access = s.connection.access
  locking : s'.connection.locking = s.connection.locking

lemma Keeps.refl (s : OpenStatement) : s.Keeps s := ⟨rfl, rfl, rfl, rfl⟩

lemma Keeps.trans {s'' : OpenStatement} (h : s.Keeps s') (h' : s'.Keeps s'') : s.Keeps s'' :=
  ⟨h'.program.trans h.program, h'.place.trans h.place, h'.access.trans h.access,
    h'.locking.trans h.locking⟩

/-! ### Binding -/

/-- Binding leaves the files alone, whether it fails or not. -/
lemma bindParams_run_store (params : List Param) (s : OpenStatement) (store : Store) :
    ((bindParams bind params).run (s, store)).2.2 = store := by
  refine bindParams_keeps (P := fun w : OpenStatement × Store => w.2 = store) ?_ params rfl
  rintro call w rfl
  rfl

/-- A statement at its beginning is kept there by binding, whether it fails or not. -/
lemma Rests.bindParams_run (h : s.Rests) (params : List Param) (store : Store) :
    s.Keeps ((bindParams bind params).run (s, store)).2.1
      ∧ ((bindParams bind params).run (s, store)).2.1.Rests := by
  refine bindParams_keeps (P := fun w : OpenStatement × Store => s.Keeps w.1 ∧ w.1.Rests) ?_ params
    ⟨.refl s, h⟩
  rintro call ⟨s₁, store₁⟩ ⟨hkeeps, hrests⟩
  have hsame : s.Keeps s₁ ∧ s₁.Rests := ⟨hkeeps, hrests⟩
  have hended : ∀ status reason, s.Keeps (s₁.endedFor status reason)
      ∧ (s₁.endedFor status reason).Rests := fun status reason =>
    ⟨hkeeps.trans ⟨rfl, rfl, rfl, rfl⟩,
      hrests.isChange, hrests.state, hrests.view, hrests.length_bindings⟩
  unfold bind act
  rw [Action.run, ExceptT.run]
  dsimp only
  split
  · exact hsame
  · split
    · exact hended _ _
    · split
      · exact hended _ _
      · exact ⟨hkeeps.trans ⟨rfl, rfl, rfl, rfl⟩, hrests.isChange, hrests.state, hrests.view,
          List.length_set.trans hrests.length_bindings⟩

lemma bind_run_of_large {call : BindCall} (h : maxIndex < call.index) (s : OpenStatement)
    (store : Store) : (bind call).run (s, store)
      = (.error (.misuse (.parameterIndex call.index)), (s, store)) := by
  unfold bind act
  rw [Action.run, ExceptT.run]
  dsimp only
  rw [if_pos h]

/-- A value for a placeholder of a statement at its beginning takes its place. -/
lemma bind_run_of_ready (hready : s.prepared.state = .ready) {k : Nat} (hmax : k + 1 ≤ maxIndex)
    (hk : k < s.prepared.program.placeholders) (v : BoundValue) (store : Store) :
    ∃ s', (bind ⟨k + 1, v⟩).run (s, store) = (.ok (), (s', store))
      ∧ s'.prepared = { s.prepared with bindings := s.prepared.bindings.set k (.ofBound v) }
      ∧ s.Keeps s' ∧ s'.connection.view = s.connection.view := by
  have hisReady : (!s.isReady) = false := by rw [isReady, hready]; rfl
  have hbind : (bind ⟨k + 1, v⟩).run (s, store)
      = (.ok (), (OpenStatement.ended { s with prepared := { s.prepared with
          bindings := s.prepared.bindings.set k (.ofBound v) } } .ok, store)) := by
    unfold bind act
    rw [Action.run, ExceptT.run]
    dsimp only
    rw [if_neg (by omega), if_neg (by rw [hisReady]; exact Bool.false_ne_true),
      if_neg (by omega)]
    rfl
  exact ⟨_, hbind, rfl, ⟨rfl, rfl, rfl, rfl⟩, rfl⟩

/-- Parameters that can be bound become the values of the placeholders behind those before. -/
lemma bindParams_run_of_calls (hready : s.prepared.state = .ready)
    {params : List Param} {values : List BoundValue}
    (hcalls : List.Forall₂ (fun p v => p.call = .ok ⟨p.index, v⟩) params values) {k : Nat}
    (hindex : params.map Param.index = List.range' (k + 1) params.length)
    (hplaceholders : k + params.length = s.prepared.program.placeholders)
    (hmax : k + params.length ≤ maxIndex) {front back : List Cell}
    (hbindings : s.prepared.bindings = front ++ back) (hfront : front.length = k)
    (hback : back.length = params.length) (store : Store) :
    ∃ s', (bindParams bind params).run (s, store) = (.ok (), (s', store))
      ∧ s'.prepared = { s.prepared with bindings := front ++ values.map Cell.ofBound }
      ∧ s.Keeps s' ∧ s'.connection.view = s.connection.view := by
  induction hcalls generalizing s k front back with
  | nil =>
    obtain rfl := List.eq_nil_of_length_eq_zero hback
    refine ⟨s, rfl, ?_, .refl s, rfl⟩
    rw [List.map_nil, ← hbindings]
  | cons hcall hcalls ih =>
    rename_i p v params values
    obtain ⟨c, back, rfl⟩ := List.exists_cons_of_length_eq_add_one hback
    rw [List.length_cons] at hplaceholders hmax hback
    rw [List.map_cons, List.length_cons, List.range'_succ] at hindex
    obtain ⟨hp, hparams⟩ := List.cons.inj hindex
    rw [hp] at hcall
    obtain ⟨s₁, hbind, hprepared, hkeeps, hview⟩ :=
      bind_run_of_ready (k := k) hready (by omega) (by omega) v store
    have hset : s.prepared.bindings.set k (.ofBound v) = (front ++ [.ofBound v]) ++ back := by
      rw [hbindings, ← hfront, List.set_append_right _ _ (Nat.le_refl _), Nat.sub_self,
        List.set_cons_zero, List.append_assoc, List.singleton_append]
    obtain ⟨s₂, hrun, hprepared₂, hkeeps₂, hview₂⟩ := ih (s := s₁) (k := k + 1)
      (by rw [hprepared]; exact hready) hparams (by rw [hkeeps.program]; omega) (by omega)
      (by rw [hprepared]; exact hset) (by rw [List.length_append, hfront]; rfl)
      (Nat.succ.inj hback)
    refine ⟨s₂, ?_, ?_, hkeeps.trans hkeeps₂, hview₂.trans hview⟩
    · have hparam : (bindParam bind p).run (s, store) = (.ok (), (s₁, store)) := by
        rw [bindParam, Action.run_bind, Action.run_ofExcept, hcall]
        exact hbind
      rw [bindParams, Action.run_bind_of_ok _ hparam]
      exact hrun
    · rw [hprepared₂, hprepared, List.map_cons, List.append_assoc, List.singleton_append]

/-! ### Stepping -/

namespace Rests

variable (h : s.Rests)

include h

lemma step_run (store : Store) : step.run (s, store)
    = s.stepChange store ((s.connection.database? store).getD .empty) := by
  have hstarted : s.started = s := by rw [started, h.state]
  rw [OpenStatement.run_step]
  dsimp only
  rw [hstarted, if_pos h.isChange]

lemma rowsLeft_eq (store : Store) : engine.rowsLeft (s, store) = 0 := by
  change s.rowBound store = 0
  have hchange := h.isChange
  rw [rowBound]
  cases hoperation : s.prepared.program.operation with
  | insert | update | delete => rfl
  | fixed | constants | query =>
    rw [hoperation] at hchange
    cases hchange

/-- A change that is refused leaves the files alone. -/
lemma allRows_run_of_error {reason : String}
    (hchange : s.change store ((s.connection.database? store).getD .empty) = .error reason) :
    ∃ s', engine.allRows.run (s, store) = (.error (.stepFailed reason), (s', store)) := by
  obtain ⟨s', hstep⟩ : ∃ s', engine.step.run (s, store)
      = (.error (.stepFailed reason), (s', store)) := by
    change ∃ s', step.run (s, store) = _
    rw [h.step_run, stepChange, hchange]
    exact ⟨_, rfl⟩
  refine ⟨s', ?_⟩
  rw [Engine.allRows, Action.run_get_bind, h.rowsLeft_eq, Engine.run_takeRows_of_fault hstep]

lemma allRows_run_of_ok {db' : Database} {count : Nat}
    (hchange : s.change store ((s.connection.database? store).getD .empty) = .ok (db', count)) :
    ∃ s', engine.allRows.run (s, store) = (.ok [], (s', s.connection.store store db'))
      ∧ s'.prepared = { s.prepared with state := .done } ∧ s.Keeps s'
      ∧ s'.connection.view = none ∧ s'.connection.changes = count := by
  obtain ⟨s', hstep, hprepared, hkeeps, hview, hcount⟩ : ∃ s', engine.step.run (s, store)
      = (.ok .done, (s', s.connection.store store db'))
        ∧ s'.prepared = { s.prepared with state := .done } ∧ s.Keeps s'
        ∧ s'.connection.view = s.connection.view.map (fun _ => db')
        ∧ s'.connection.changes = count := by
    change ∃ s', step.run (s, store) = _ ∧ _
    rw [h.step_run, stepChange, hchange]
    exact ⟨_, rfl, rfl, ⟨rfl, rfl, rfl, rfl⟩, rfl, rfl⟩
  rw [h.view] at hview
  refine ⟨s', ?_, hprepared, hkeeps, hview, hcount⟩
  rw [Engine.allRows, Action.run_get_bind, h.rowsLeft_eq, Engine.run_takeRows_of_done hstep]

end Rests

lemma reset_run_of_done (h : s.prepared.state = .done) (store : Store) :
    ∃ s', reset.run (s, store) = (.ok (), (s', store))
      ∧ s'.prepared = { s.prepared with state := .ready } ∧ s.Keeps s'
      ∧ s'.connection.view = none := by
  have hrewind : s.rewind = (s.inRest .ready).endedFor .ok none := by rw [rewind, h]
  refine ⟨s.rewind, ?_, by rw [hrewind]; rfl, by rw [hrewind]; exact ⟨rfl, rfl, rfl, rfl⟩,
    by rw [hrewind]; rfl⟩
  unfold reset act
  rw [Action.run, ExceptT.run]
  dsimp only
  rw [h]

/-! ### Whole runs -/

/-- A statement whose placeholders have values. -/
def withBindings (s : OpenStatement) (bindings : List Cell) : OpenStatement :=
  { s with prepared := { s.prepared with bindings } }

/-- The placeholders of a statement at its beginning have the values that are bound, in order. -/
lemma map_placeholder_withBindings (hready : s.prepared.state = .ready) (front back : List Cell) :
    (List.range' 1 front.length).map (s.withBindings (front ++ back)).prepared.placeholder
      = front := by
  have hvalue : ∀ k, (s.withBindings (front ++ back)).prepared.placeholder k
      = (front ++ back)[k - 1]?.getD .null := by
    intro k
    unfold Prepared.placeholder Prepared.values withBindings
    dsimp only
    rw [hready]
  apply List.ext_getElem
  · simp
  · intro k hk hlt
    simp [hvalue, List.getElem?_append_left hlt, List.getElem?_eq_getElem hlt]

lemma placeholder_withBindings (hready : s.prepared.state = .ready) (front back : List Cell)
    (cell : Cell) : (s.withBindings (front ++ cell :: back)).prepared.placeholder (front.length + 1)
      = cell := by
  unfold Prepared.placeholder Prepared.values withBindings
  dsimp only
  rw [hready]
  simp

/-- A change depends on the connection of a statement only as far as a run keeps it. -/
lemma change_eq_of_keeps (hprepared : s'.prepared = s.prepared) (h : s.Keeps s') (store : Store)
    (db : Database) : s'.change store db = s.change store db := by
  obtain ⟨prepared, path, place, access, locking, view, changes, status, reason⟩ := s'
  obtain ⟨-, hplace, haccess, hlocking⟩ := h
  cases hprepared
  cases hplace
  cases haccess
  cases hlocking
  rfl

/-- Without a look at the rows of statements that stand somewhere, the database is that of the
file. -/
lemma database?_eq_of_keeps (h : s.Keeps s') (hview : s.connection.view = none)
    (hview' : s'.connection.view = none) (store : Store) :
    s'.connection.database? store = s.connection.database? store := by
  unfold Connection.database?
  rw [hview, hview', h.place]

lemma change_eq_ok {db : Database} {outcome : Database × Nat}
    (h : s.change store db = .ok outcome) :
    s.prepared.program.operation.change db s.prepared.placeholder = .ok outcome := by
  unfold change at h
  dsimp only at h
  split at h
  · cases h
  · split at h
    · cases h
    · split at h
      · split at h
        · cases h
        · obtain ⟨made, hmade, h⟩ := Checked.bind_eq_ok h
          split at h
          · cases h
          · cases h
            exact hmade
      · obtain ⟨made, hmade, h⟩ := Checked.bind_eq_ok h
        split at h
        · cases h
        · cases h
          exact hmade

/-- Nothing keeps a connection that writes from changing a file that nobody else reads. -/
lemma change_eq_of_writes (haccess : s.connection.access ≠ .readOnly)
    (hfree : s.connection.readByOthers store = []) (db : Database) :
    s.change store db = s.prepared.program.operation.change db s.prepared.placeholder := by
  have hshut : s.connection.isShutOut store = false := by
    rw [Connection.isShutOut, hfree]
    exact Bool.and_false _
  unfold change
  dsimp only
  rw [if_neg haccess, hshut, hfree]
  cases s.prepared.program.operation.changedTable? with
  | none | some table =>
    cases s.prepared.program.operation.change db s.prepared.placeholder with
    | error | ok => simp

/-- A parameter is bound only if there is a call for it. -/
lemma calls_of_bindParams {params : List Param} {w : OpenStatement × Store}
    (h : (bindParams bind params).run (s, store) = (.ok (), w)) :
    ∃ values, List.Forall₂ (fun p v => p.call = .ok ⟨p.index, v⟩) params values
      ∧ ∀ p ∈ params, p.index ≤ maxIndex := by
  induction params generalizing s store with
  | nil => exact ⟨[], .nil, fun p hp => absurd hp List.not_mem_nil⟩
  | cons p params ih =>
    obtain ⟨_, ⟨s₁, store₁⟩, hparam, h⟩ := Action.run_bind_eq_ok h
    obtain ⟨v, hcall, hbind⟩ := bindParam_run_eq_ok hparam
    obtain ⟨values, hcalls, hmax⟩ := ih h
    refine ⟨v :: values, .cons hcall hcalls, List.forall_mem_cons.2 ⟨?_, hmax⟩⟩
    by_contra hlarge
    rw [bind_run_of_large (Nat.lt_of_not_le hlarge)] at hbind
    cases hbind

section Runs

variable {params : List Param} {values : List BoundValue}

/-- The values of parameters that can be bound become those of the placeholders. -/
lemma bindParams_run_of_rests (h : s.Rests)
    (hcalls : List.Forall₂ (fun p v => p.call = .ok ⟨p.index, v⟩) params values)
    (hindex : params.map Param.index = List.range' 1 s.prepared.program.placeholders)
    (hmax : params.length ≤ maxIndex) (store : Store) :
    ∃ s₁, (bindParams engine.bind params).run (s, store) = (.ok (), (s₁, store))
      ∧ s₁.prepared = (s.withBindings (values.map Cell.ofBound)).prepared
      ∧ s.Keeps s₁ ∧ s₁.Rests := by
  have hlength : params.length = s.prepared.program.placeholders := by
    rw [← List.length_map Param.index, hindex, List.length_range']
  obtain ⟨s₁, hbind, hprepared, hkeeps, hview⟩ := bindParams_run_of_calls (k := 0) h.state hcalls
    (by rw [hindex, hlength]) (by rw [Nat.zero_add, hlength]) (by rwa [Nat.zero_add])
    (List.nil_append _).symm rfl (by rw [h.length_bindings, hlength]) store
  refine ⟨s₁, hbind, hprepared, hkeeps, ?_, ?_, hview.trans h.view, ?_⟩
  · rw [hkeeps.program]
    exact h.isChange
  · rw [hprepared]
    exact h.state
  · rw [hprepared]
    exact (List.length_map _).trans (hcalls.length_eq.symm.trans hlength)

/-- A run whose values have been bound makes the change, and the statement stands at its beginning
again. -/
lemma runOnce_run_of_bound {s₁ : OpenStatement}
    (hbind : (bindParams engine.bind params).run (s, store) = (.ok (), (s₁, store)))
    (h : s₁.Rests) {db' : Database} {count : Nat}
    (hchange : s₁.change store ((s₁.connection.database? store).getD .empty) = .ok (db', count)) :
    ∃ s', (ForeignChange.runOnce engine params).run (s, store)
        = (.ok count, (s', s₁.connection.store store db')) ∧ s₁.Keeps s' ∧ s'.Rests := by
  obtain ⟨s₂, hrows, hprepared₂, hkeeps₂, -, rfl⟩ := h.allRows_run_of_ok hchange
  obtain ⟨s', hreset, hprepared', hkeeps', hview⟩ :=
    reset_run_of_done (by rw [hprepared₂]) (s₁.connection.store store db')
  have hrewound : engine.reset.run (s₂, s₁.connection.store store db')
      = (.ok (), (s', s₁.connection.store store db')) := hreset
  have hkept := hkeeps₂.trans hkeeps'
  refine ⟨s', ?_, hkept, ?_, by rw [hprepared'], hview, ?_⟩
  · rw [ForeignChange.runOnce, Action.run_bind_of_ok _ hbind, Action.run_bind_of_ok _ hrows,
      Action.run_get_bind, Action.run_bind_of_ok _ hrewound]
    rfl
  · rw [hkept.program]
    exact h.isChange
  · rw [hprepared', hprepared₂]
    exact h.length_bindings

/-- A run that has succeeded leaves the statement at its beginning. -/
lemma Rests.keeps_of_runOnce (h : s.Rests) {count : Nat}
    (hrun : (ForeignChange.runOnce engine params).run (s, store) = (.ok count, (s', store'))) :
    s.Keeps s' ∧ s'.Rests := by
  obtain ⟨_, ⟨s₁, store₁⟩, hbind, hrest⟩ := Action.run_bind_eq_ok hrun
  have hstore := bindParams_run_store params s store
  obtain ⟨hkeeps, hrests⟩ := h.bindParams_run params store
  change (bindParams bind params).run (s, store) = _ at hbind
  rw [hbind] at hstore hkeeps hrests
  obtain rfl : store₁ = store := hstore
  cases hchange : s₁.change store₁ ((s₁.connection.database? store₁).getD .empty) with
  | error reason =>
    obtain ⟨s₂, hrows⟩ := hrests.allRows_run_of_error hchange
    rw [Action.run_bind_of_error _ hrows] at hrest
    cases hrest
  | ok outcome =>
    obtain ⟨s₂, hmade, hkeeps₂, hrests₂⟩ := runOnce_run_of_bound hbind hrests hchange
    rw [hrun] at hmade
    cases hmade
    exact ⟨hkeeps.trans hkeeps₂, hrests₂⟩

/-- The number of changed rows is responded, and the statement stands at its beginning again. -/
lemma runOnce_run_of_ok (h : s.Rests)
    (hcalls : List.Forall₂ (fun p v => p.call = .ok ⟨p.index, v⟩) params values)
    (hindex : params.map Param.index = List.range' 1 s.prepared.program.placeholders)
    (hmax : params.length ≤ maxIndex) {db' : Database} {count : Nat}
    (hchange : (s.withBindings (values.map Cell.ofBound)).change store
      ((s.connection.database? store).getD .empty) = .ok (db', count)) :
    ∃ s', (ForeignChange.runOnce engine params).run (s, store)
        = (.ok count, (s', s.connection.store store db')) := by
  obtain ⟨s₁, hbind, hprepared, hkeeps, hrests⟩ :=
    bindParams_run_of_rests h hcalls hindex hmax store
  have hwith : (s.withBindings (values.map Cell.ofBound)).Keeps s₁ :=
    ⟨hkeeps.program, hkeeps.place, hkeeps.access, hkeeps.locking⟩
  rw [← change_eq_of_keeps hprepared hwith,
    ← database?_eq_of_keeps hkeeps h.view hrests.view] at hchange
  obtain ⟨s', hrun, -⟩ := runOnce_run_of_bound hbind hrests hchange
  have hstore : s₁.connection.store store db' = s.connection.store store db' := by
    unfold Connection.store
    rw [hkeeps.place]
  rw [hstore] at hrun
  exact ⟨s', hrun⟩

/-- A run fails without a change of the files, or there are values for the placeholders, with which
the change is made. -/
lemma runOnce_cases (h : s.Rests)
    (hindex : params.map Param.index = List.range' 1 s.prepared.program.placeholders)
    (store : Store) :
    (∃ fault s', (ForeignChange.runOnce engine params).run (s, store)
        = (.error fault, (s', store)))
      ∨ params.length ≤ maxIndex ∧ ∃ values outcome,
        List.Forall₂ (fun p v => p.call = .ok ⟨p.index, v⟩) params values
          ∧ (s.withBindings (values.map Cell.ofBound)).change store
            ((s.connection.database? store).getD .empty) = .ok outcome := by
  have hstore := bindParams_run_store params s store
  have hlength : params.length = s.prepared.program.placeholders := by
    rw [← List.length_map Param.index, hindex, List.length_range']
  match hbind : (bindParams bind params).run (s, store) with
  | (.error fault, (s₁, store₁)) =>
    rw [hbind] at hstore
    obtain rfl : store₁ = store := hstore
    have hrun : (bindParams engine.bind params).run (s, store₁) = (.error fault, (s₁, store₁)) :=
      hbind
    refine .inl ⟨fault, s₁, ?_⟩
    rw [ForeignChange.runOnce, Action.run_bind_of_error _ hrun]
  | (.ok (), (s₁, store₁)) =>
    obtain ⟨values, hcalls, hsmall⟩ := calls_of_bindParams hbind
    have hmax : params.length ≤ maxIndex := by
      by_cases hzero : params.length = 0
      · omega
      · have hlast : params.length ∈ params.map Param.index := by
          rw [hindex, ← hlength, List.mem_range'_1]
          omega
        obtain ⟨p, hp, heq⟩ := List.mem_map.1 hlast
        rw [← heq]
        exact hsmall p hp
    obtain ⟨s₁, hbind, hprepared, hkeeps, hrests⟩ :=
      bindParams_run_of_rests h hcalls hindex hmax store
    have hwith : (s.withBindings (values.map Cell.ofBound)).Keeps s₁ :=
      ⟨hkeeps.program, hkeeps.place, hkeeps.access, hkeeps.locking⟩
    cases hchange : (s.withBindings (values.map Cell.ofBound)).change store
        ((s.connection.database? store).getD .empty) with
    | ok outcome => exact .inr ⟨hmax, values, outcome, hcalls, hchange⟩
    | error reason =>
      rw [← change_eq_of_keeps hprepared hwith,
        ← database?_eq_of_keeps hkeeps h.view hrests.view] at hchange
      obtain ⟨s', hrows⟩ := hrests.allRows_run_of_error hchange
      refine .inl ⟨.stepFailed reason, s', ?_⟩
      rw [ForeignChange.runOnce, Action.run_bind_of_ok _ hbind, Action.run_bind_of_error _ hrows]

end Runs

end OpenStatement

end ForeignData.Sqlite
