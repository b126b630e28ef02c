import ForeignData.Proofs.Engine.Record
import ForeignData.Proofs.Scan.Steps

/-!
# What a scan asks for

On a recorded engine a scan does what it does on the engine itself, and all that it asks for is in
the record. Of all calls on a scan only its beginning opens a database, and no more than one.
-/

namespace ForeignData

namespace ForeignScan

variable {σ κ τ : Type} {e : Engine σ κ τ} {scan : ForeignScan τ} {w : σ} {record : List Event}
  {R : Request → Prop}

lemma notes_moving {S S' α : Type} {pair : S → List Event → S'}
    {action : Action S (α × ScanState τ)} {action' : Action S' (α × ScanState τ)} {s : S}
    {events : List Event} (h : Action.Notes pair action' action s record events)
    (scan : ForeignScan τ) :
    Action.Notes (fun s record => (s.1, pair s.2 record)) (moving action') (moving action)
      (scan, s) record events := by
  obtain ⟨hrun', hheeds⟩ := h
  rcases hrun : action.run s with ⟨fault | ⟨a, state⟩, s'⟩ <;> rw [hrun] at hrun' hheeds
  · constructor
    · rw [moving_run_of_error hrun]
      exact moving_run_of_error hrun'
    · rw [moving_run_of_error hrun]
      exact nofun
  · constructor
    · rw [moving_run_of_ok hrun]
      exact moving_run_of_ok hrun'
    · exact fun _ => hheeds rfl

lemma records_moving {S S' α : Type} {pair : S → List Event → S'}
    {action : Action S (α × ScanState τ)} {action' : Action S' (α × ScanState τ)} {s : S}
    (h : Action.Records pair R action' action s record) (scan : ForeignScan τ) :
    Action.Records (fun s record => (s.1, pair s.2 record)) R (moving action') (moving action)
      (scan, s) record := by
  obtain ⟨events, hnotes, hevents⟩ := h
  exact ⟨events, notes_moving hnotes scan, hevents⟩

lemma records_paramsFrom (evaluator : Evaluator σ) (i : Nat) (types : List HostType) (w : σ) :
    Action.Records Prod.mk R (Evaluator.paramsFrom evaluator.unnoted.evaluate i types)
      (Evaluator.paramsFrom evaluator.evaluate i types) w record := by
  induction types generalizing i w record with
  | nil => exact Action.records_pure []
  | cons type types ih =>
    refine Action.Records.bind (Action.records_of_run_eq rfl) fun value w' _ _ _ => ?_
    exact (ih (i + 1) w').bind fun rest _ _ _ _ => Action.records_pure _

/-- An evaluation asks for nothing. -/
lemma records_evaluate (plan : ScanPlan) (params : Option (Evaluator σ)) (w : σ) :
    Action.Records Prod.mk R (evaluate plan (params.map Evaluator.unnoted)) (evaluate plan params) w
      record := by
  cases params with
  | none =>
    rw [Option.map_none, evaluate, evaluate]
    split
    · exact Action.records_pure []
    · exact Action.records_throw _
  | some evaluator =>
    refine Action.Records.bind (records_paramsFrom evaluator 0 _ w) fun params _ _ _ _ => ?_
    split
    · exact Action.records_pure params
    · exact Action.records_throw _

lemma exists_start_eq (e : Engine σ κ τ) (scan : ForeignScan τ) (params : Option (Evaluator σ)) :
    ∃ (rest : κ → Action σ (Unit × ScanState τ))
      (rest' : κ → Action (σ × List Event) (Unit × ScanState τ)),
      scan.start e params = e.connect .readOnly scan.source.database >>= rest
        ∧ scan.start e.recorded (params.map Evaluator.unnoted)
          = e.recorded.connect .readOnly scan.source.database >>= rest'
        ∧ ∀ connection w record, Action.Records Prod.mk (fun request => request.isConnect = false)
          (rest' connection) (rest connection) w record := by
  refine ⟨_, _, rfl, rfl, fun connection w record => ?_⟩
  refine Action.Records.bind (e.records_prepare (by rfl)) fun statement w₁ _ _ _ => ?_
  refine Action.Records.bind (records_evaluate scan.plan params w₁) fun ps w₂ _ _ _ => ?_
  exact (e.records_bindParams (fun _ => by rfl) ps _).holding.bind fun _ _ _ _ _ =>
    Action.records_pure _

lemma notes_start (scan : ForeignScan τ) (params : Option (Evaluator σ)) (w : σ)
    (record : List Event) :
    ∃ events, Action.Notes Prod.mk (scan.start e.recorded (params.map Evaluator.unnoted))
        (scan.start e params) w record events
      ∧ openings events = 1 := by
  obtain ⟨rest, rest', hstart, hstart', hrest⟩ := exists_start_eq e scan params
  rw [hstart, hstart']
  have hopened : Action.Notes Prod.mk (e.recorded.connect .readOnly scan.source.database)
      (e.connect .readOnly scan.source.database) w record _ := Action.notes_noting _ _ w record
  rcases hconnect : (e.connect .readOnly scan.source.database).run w with ⟨fault | connection, w₁⟩
  · exact ⟨_, hopened.bind_of_error hconnect, rfl⟩
  · obtain ⟨events, hnotes, hevents⟩ := hrest connection w₁ _
    exact ⟨_, hopened.bind_of_ok hconnect hnotes, openings_append_of_forall hevents [_]⟩

lemma records_advance (shape : RowShape) (running : RunningScan τ) (w : σ) :
    Action.Records Prod.mk (fun request => request.isConnect = false)
      (advance e.recorded shape running) (advance e shape running) w record := by
  rw [advance, advance]
  split
  · exact Action.records_pure _
  · refine Action.Records.bind (e.records_step (by rfl)).holding ?_
    rintro ⟨result, statement⟩ w₁ events - -
    cases result with
    | done => exact Action.records_pure _
    | row =>
      exact (Action.records_ofExcept _).bind fun values _ _ _ _ =>
        (Action.records_ofExcept _).bind fun rowid _ _ _ _ => Action.records_pure _

lemma records_restart (plan : ScanPlan) (params : Option (Evaluator σ)) (running : RunningScan τ)
    (w : σ) : Action.Records Prod.mk (fun request => request.isConnect = false)
      (restart e.recorded plan (params.map Evaluator.unnoted) running)
      (restart e plan params running) w record := by
  refine Action.Records.bind (e.records_reset (by rfl)).holding ?_
  rintro ⟨-, statement⟩ w₁ events - -
  cases params with
  | none => exact Action.records_pure _
  | some evaluator =>
    refine Action.Records.bind ?_ fun running' _ _ _ _ => Action.records_pure _
    refine Action.Records.bind (records_evaluate plan (some evaluator) w₁) fun ps w₂ _ _ _ => ?_
    refine Action.Records.bind ?_ fun running' _ _ _ _ => Action.records_pure _
    apply Action.Records.holding
    exact (e.records_clearBindings (by rfl)).bind fun _ s _ _ _ =>
      e.records_bindParams (fun _ => by rfl) ps s

/-! ### What a call asks for -/

lemma records_begin (params : Option (Evaluator σ)) {explainOnly : Bool}
    (h : explainOnly = false → scan.phase ≠ .planned) :
    Action.Records beside (fun request => request.isConnect = false)
      (begin e.recorded (params.map Evaluator.unnoted) explainOnly) (begin e params explainOnly)
      (scan, w) record := by
  by_cases hplanned : scan.phase = .planned
  · cases explainOnly with
    | true =>
      have hstate := phase_eq_planned_iff.1 hplanned
      exact Action.records_of_unchanged (begin_run_of_explainOnly hstate)
        (begin_run_of_explainOnly hstate)
    | false => exact absurd hplanned (h rfl)
  · exact Action.records_of_unchanged (begin_run_of_not_planned hplanned explainOnly)
      (begin_run_of_not_planned hplanned explainOnly)

lemma notes_begin (h : scan.phase = .planned) (params : Option (Evaluator σ))
    (record : List Event) :
    ∃ events, Action.Notes beside (begin e.recorded (params.map Evaluator.unnoted) false)
        (begin e params false) (scan, w) record events
      ∧ openings events = 1 := by
  obtain ⟨events, hnotes, hone⟩ := notes_start scan params w record
  have hstate := phase_eq_planned_iff.1 h
  exact ⟨events, (notes_moving hnotes scan).congr (begin_run_of_planned hstate)
    (begin_run_of_planned hstate), hone⟩

lemma records_iterate :
    Action.Records beside (fun request => request.isConnect = false) (iterate e.recorded)
      (iterate e) (scan, w) record := by
  cases hrunning : scan.state.running? with
  | none =>
    obtain hplanned | hended := running?_eq_none_iff.1 hrunning
    · have hstate := phase_eq_planned_iff.1 hplanned
      exact Action.records_of_unchanged (iterate_run_of_planned hstate)
        (iterate_run_of_planned hstate)
    · have hstate := phase_eq_ended_iff.1 hended
      exact Action.records_of_unchanged (iterate_run_of_ended hstate) (iterate_run_of_ended hstate)
  | some running =>
    exact (records_moving (records_advance scan.shape running w) scan).congr
      (iterate_run_of_running hrunning) (iterate_run_of_running hrunning)

lemma records_rescan (params : Option (Evaluator σ)) :
    Action.Records beside (fun request => request.isConnect = false)
      (rescan e.recorded (params.map Evaluator.unnoted)) (rescan e params) (scan, w) record := by
  cases hrunning : scan.state.running? with
  | none =>
    exact Action.records_of_unchanged (rescan_run_of_not_running hrunning)
      (rescan_run_of_not_running hrunning)
  | some running =>
    exact (records_moving (records_restart scan.plan params running w) scan).congr
      (rescan_run_of_running hrunning) (rescan_run_of_running hrunning)

end ForeignScan

end ForeignData
