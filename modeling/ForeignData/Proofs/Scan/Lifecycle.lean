import ForeignData.Proofs.Scan.Record
import ForeignData.Proofs.Scan.Replay

/-!
# The lifecycle of a scan

A scan is called on in any order. What a call does to it depends on its phase: the call is refused
and changes nothing, or it leads on; if it fails then, the scan has ended.
-/

namespace ForeignData

inductive ScanCall (σ : Type) where
  | begin (params : Option (Evaluator σ)) (explainOnly : Bool)
  | iterate
  | rescan (params : Option (Evaluator σ))
  | finish

namespace ScanCall

variable {σ κ τ : Type}

/-- Make a call. Only an iteration has something to give. -/
def run (e : Engine σ κ τ) : ScanCall σ → Action (ForeignScan τ × σ) (Option ScanRow)
  | begin params explainOnly => do
    ForeignScan.begin e params explainOnly
    return none
  | iterate => ForeignScan.iterate e
  | rescan params => do
    ForeignScan.rescan e params
    return none
  | finish => do
    modify fun (scan, w) => (scan.finish, w)
    return none

/-- Make calls one after the other, whatever each comes to. -/
def runAll (e : Engine σ κ τ) (calls : List (ScanCall σ)) (s : ForeignScan τ × σ) :
    ForeignScan τ × σ :=
  calls.foldl (fun s call => ((call.run e).run s).2) s

/-- The same call beside a record. -/
def unnoted : ScanCall σ → ScanCall (σ × List Event)
  | begin params explainOnly => begin (params.map Evaluator.unnoted) explainOnly
  | iterate => iterate
  | rescan params => rescan (params.map Evaluator.unnoted)
  | finish => finish

/-- The phases in which a call is refused. -/
def RefusedIn : ScanCall σ → ScanPhase → Prop
  | begin .., phase => phase ≠ .planned
  | iterate, phase => phase = .planned
  | rescan _, phase => phase = .planned ∨ phase = .ended
  | finish, _ => False

def phaseAfter : ScanCall σ → ScanPhase → ScanPhase
  | begin _ explainOnly, phase => if explainOnly then phase else .began
  | iterate, phase => if phase = .ended then .ended else .iterating
  | rescan _, _ => .began
  | finish, _ => .ended

/-- What a call is sure to make of a scan, and of the world, whatever the engine does. -/
structure Safe (e : Engine σ κ τ) (call : ScanCall σ) (s : ForeignScan τ × σ) : Prop where
  /-- A refusal is a misuse and changes nothing. -/
  refused : call.RefusedIn s.1.phase → ∃ cause, (call.run e).run s = (.error (.misuse cause), s)
  /-- Any other failure ends the scan. -/
  failed : ¬call.RefusedIn s.1.phase → ∀ fault s', (call.run e).run s = (.error fault, s') →
    s'.1.phase = .ended
  succeeded : ∀ row s', (call.run e).run s = (.ok row, s') →
    s'.1.phase = call.phaseAfter s.1.phase
  /-- A beginning that is only to be explained changes nothing. -/
  explained : ∀ params, call = begin params true → s.1.phase = .planned →
    (call.run e).run s = (.ok none, s)
  /-- There is nothing to be had of a scan that has ended. -/
  ended : s.1.phase = .ended → ((call.run e).run s).2 = s
    ∧ (call = iterate → ((call.run e).run s).1 = .ok none)
  /-- A scan can be ended in each phase. -/
  finished : call = finish → (call.run e).run s = (.ok none, (s.1.finish, s.2))
    ∧ s.1.finish.phase = .ended

end ScanCall

/-! ### Refusal and failure -/

namespace ScanCall

open ForeignScan

variable {σ κ τ : Type} {e : Engine σ κ τ} {scan : ForeignScan τ} {w : σ}

/-- A call at the wrong time is a misuse, which changes nothing. -/
lemma run_of_refused {call : ScanCall σ} (h : call.RefusedIn scan.phase) :
    ∃ cause, (call.run e).run (scan, w) = (.error (.misuse cause), (scan, w)) := by
  cases call with
  | begin params explainOnly =>
    refine ⟨.beginInPhase scan.phase, ?_⟩
    rw [run, Action.run_bind_of_error _ (begin_run_of_not_planned h explainOnly)]
  | iterate => exact ⟨_, iterate_run_of_planned (phase_eq_planned_iff.1 h)⟩
  | rescan params =>
    refine ⟨.rescanNotRunning, ?_⟩
    rw [run, Action.run_bind_of_error _ (rescan_run_of_not_running (running?_eq_none_iff.2 h))]
  | finish => cases h

lemma phase_of_run_eq_error {call : ScanCall σ} (h : ¬call.RefusedIn scan.phase) {fault : Fault}
    {s : ForeignScan τ × σ} (hrun : (call.run e).run (scan, w) = (.error fault, s)) :
    s.1.phase = .ended := by
  cases call with
  | begin params explainOnly =>
    have hplanned := phase_eq_planned_iff.1 (not_not.1 h)
    obtain hbegin | ⟨_, _, -, hreturn⟩ := Action.run_bind_eq_error hrun
    · cases explainOnly with
      | true =>
        rw [begin_run_of_explainOnly hplanned] at hbegin
        cases hbegin
      | false =>
        rw [begin_run_of_planned hplanned] at hbegin
        exact phase_of_moving_run hbegin
    · cases hreturn
  | iterate =>
    change (ForeignScan.iterate e).run (scan, w) = _ at hrun
    cases hrunning : scan.state.running? with
    | none =>
      have hended := (running?_eq_none_iff.1 hrunning).resolve_left h
      rw [iterate_run_of_ended (phase_eq_ended_iff.1 hended)] at hrun
      cases hrun
    | some running =>
      rw [iterate_run_of_running hrunning] at hrun
      exact phase_of_moving_run hrun
  | rescan params =>
    cases hrunning : scan.state.running? with
    | none => exact absurd (running?_eq_none_iff.1 hrunning) h
    | some running =>
      obtain hrescan | ⟨_, _, -, hreturn⟩ := Action.run_bind_eq_error hrun
      · rw [rescan_run_of_running hrunning] at hrescan
        exact phase_of_moving_run hrescan
      · cases hreturn
  | finish => cases hrun

/-! What a call that succeeds makes of the phase. -/

lemma phase_of_begin {params : Option (Evaluator σ)} {explainOnly : Bool}
    {s : ForeignScan τ × σ} (hplanned : scan.state = .planned)
    (hrun : (ForeignScan.begin e params explainOnly).run (scan, w) = (.ok (), s)) :
    s.1.phase = if explainOnly then scan.phase else .began := by
  cases explainOnly with
  | true =>
    rw [begin_run_of_explainOnly hplanned] at hrun
    cases hrun
    rfl
  | false =>
    rw [begin_run_of_planned hplanned] at hrun
    obtain ⟨state, w', hstart, rfl⟩ := moving_run_eq_ok hrun
    obtain ⟨-, -, -, -, -, -, -, -, rfl⟩ := start_run_eq_ok hstart
    rfl

lemma phase_of_iterate {row : Option ScanRow} {s : ForeignScan τ × σ}
    (haccepted : scan.phase ≠ .planned)
    (hrun : (ForeignScan.iterate e).run (scan, w) = (.ok row, s)) :
    s.1.phase = if scan.phase = .ended then .ended else .iterating := by
  cases hrunning : scan.state.running? with
  | none =>
    have hended := (running?_eq_none_iff.1 hrunning).resolve_left haccepted
    rw [iterate_run_of_ended (phase_eq_ended_iff.1 hended)] at hrun
    cases hrun
    rw [if_pos hended, hended]
  | some running =>
    have hnot : scan.phase ≠ .ended := by
      intro hended
      rw [running?_eq_none_iff.2 (.inr hended)] at hrunning
      cases hrunning
    rw [iterate_run_of_running hrunning] at hrun
    obtain ⟨state, w', hadvance, rfl⟩ := moving_run_eq_ok hrun
    obtain ⟨running', rfl, -⟩ := advances_of_run hadvance
    rw [if_neg hnot]
    rfl

lemma phase_of_rescan {params : Option (Evaluator σ)} {s : ForeignScan τ × σ}
    (haccepted : ¬(scan.phase = .planned ∨ scan.phase = .ended))
    (hrun : (ForeignScan.rescan e params).run (scan, w) = (.ok (), s)) : s.1.phase = .began := by
  cases hrunning : scan.state.running? with
  | none => exact absurd (running?_eq_none_iff.1 hrunning) haccepted
  | some running =>
    rw [rescan_run_of_running hrunning] at hrun
    obtain ⟨state, w', hrestart, rfl⟩ := moving_run_eq_ok hrun
    obtain ⟨running', rfl⟩ := exists_began_of_restart hrestart
    rfl

lemma phase_of_run_eq_ok {call : ScanCall σ} {row : Option ScanRow} {s : ForeignScan τ × σ}
    (hrun : (call.run e).run (scan, w) = (.ok row, s)) :
    s.1.phase = call.phaseAfter scan.phase := by
  by_cases hrefused : call.RefusedIn scan.phase
  · obtain ⟨cause, hrun'⟩ := run_of_refused (e := e) (w := w) hrefused
    cases hrun'.symm.trans hrun
  cases call with
  | begin params explainOnly =>
    obtain ⟨_, s', hbegin, hreturn⟩ := Action.run_bind_eq_ok hrun
    cases hreturn
    exact phase_of_begin (phase_eq_planned_iff.1 (not_not.1 hrefused)) hbegin
  | iterate => exact phase_of_iterate hrefused hrun
  | rescan params =>
    obtain ⟨_, s', hrescan, hreturn⟩ := Action.run_bind_eq_ok hrun
    cases hreturn
    exact phase_of_rescan hrefused hrescan
  | finish =>
    cases hrun
    rfl

lemma run_of_ended (call : ScanCall σ) (h : scan.phase = .ended) :
    ((call.run e).run (scan, w)).2 = (scan, w) := by
  have hended := phase_eq_ended_iff.1 h
  cases call with
  | begin params explainOnly =>
    have hrefused : RefusedIn (.begin params explainOnly) scan.phase := by
      rw [h]
      exact nofun
    obtain ⟨cause, hrun⟩ := run_of_refused (e := e) (w := w) hrefused
    rw [hrun]
  | iterate =>
    change ((ForeignScan.iterate e).run (scan, w)).2 = _
    rw [iterate_run_of_ended hended]
  | rescan params =>
    have hrefused : RefusedIn (.rescan params) scan.phase := .inr h
    obtain ⟨cause, hrun⟩ := run_of_refused (e := e) (w := w) hrefused
    rw [hrun]
  | finish =>
    change (scan.finish, w) = (scan, w)
    rw [ForeignScan.finish, ← hended]

lemma safe (e : Engine σ κ τ) (call : ScanCall σ) (s : ForeignScan τ × σ) : call.Safe e s where
  refused := run_of_refused
  failed h _ _ := phase_of_run_eq_error h
  succeeded _ _ := phase_of_run_eq_ok
  explained params hcall hplanned := by
    subst hcall
    rw [run, Action.run_bind_of_ok _ (begin_run_of_explainOnly (phase_eq_planned_iff.1 hplanned))]
    rfl
  ended h := by
    refine ⟨run_of_ended call h, ?_⟩
    rintro rfl
    change ((ForeignScan.iterate e).run s).1 = _
    rw [iterate_run_of_ended (phase_eq_ended_iff.1 h)]
  finished hcall := by
    subst hcall
    exact ⟨rfl, rfl⟩

/-- Nor do any calls. -/
lemma runAll_of_ended (calls : List (ScanCall σ)) (h : scan.phase = .ended) :
    runAll e calls (scan, w) = (scan, w) := by
  induction calls with
  | nil => rfl
  | cons call calls ih =>
    rw [runAll, List.foldl_cons, run_of_ended call h]
    exact ih

/-! ### What a call asks for -/

variable {call : ScanCall σ} {s : ForeignScan τ × σ} {record : List Event}

/-- Whether a call opens the database of a scan. -/
def Opens (call : ScanCall σ) (phase : ScanPhase) : Prop :=
  phase = .planned ∧ ∃ params, call = begin params false

lemma records_run (h : ¬call.Opens s.1.phase) (record : List Event) :
    Action.Records beside (fun request => request.isConnect = false) (call.unnoted.run e.recorded)
      (call.run e) s record := by
  obtain ⟨scan, w⟩ := s
  cases call with
  | begin params explainOnly =>
    refine (records_begin params ?_).bind fun _ _ _ _ _ => Action.records_pure none
    rintro rfl hplanned
    exact h ⟨hplanned, params, rfl⟩
  | iterate => exact records_iterate
  | rescan params => exact (records_rescan params).bind fun _ _ _ _ _ => Action.records_pure none
  | finish => exact Action.records_of_run_eq rfl

lemma notes_run_of_opens (h : call.Opens s.1.phase) (record : List Event) :
    ∃ events, Action.Notes beside (call.unnoted.run e.recorded) (call.run e) s record events
      ∧ openings events = 1 := by
  obtain ⟨hplanned, params, rfl⟩ := h
  obtain ⟨scan, w⟩ := s
  obtain ⟨events, hnotes, hone⟩ := notes_begin (e := e) (w := w) hplanned params record
  rcases hbegin : (ForeignScan.begin e params false).run (scan, w) with ⟨fault | _, s'⟩
  · exact ⟨events, hnotes.bind_of_error hbegin, hone⟩
  · refine ⟨events ++ [], hnotes.bind_of_ok hbegin ⟨?_, fun _ => nofun⟩, ?_⟩
    · rw [List.append_nil]
      rfl
    · rw [List.append_nil, hone]

/-! ### Runs of calls -/

lemma planned_of_run (h : ((call.run e).run s).2.1.phase = .planned) :
    s.1.phase = .planned ∧ ¬call.Opens s.1.phase := by
  have hsafe := safe e call s
  rcases hrun : (call.run e).run s with ⟨fault | row, s'⟩ <;> rw [hrun] at h
  · have hrefused : call.RefusedIn s.1.phase := by
      by_contra haccepted
      rw [hsafe.failed haccepted fault s' hrun] at h
      cases h
    obtain ⟨cause, hrun'⟩ := hsafe.refused hrefused
    rw [hrun'] at hrun
    cases hrun
    refine ⟨h, ?_⟩
    rintro ⟨hplanned, params, rfl⟩
    exact hrefused hplanned
  · rw [hsafe.succeeded row s' hrun] at h
    cases call with
    | begin params explainOnly =>
      cases explainOnly with
      | true =>
        refine ⟨h, ?_⟩
        rintro ⟨-, params', hcall⟩
        cases hcall
      | false => cases h
    | iterate =>
      rw [phaseAfter] at h
      split at h <;> cases h
    | rescan params => cases h
    | finish => cases h

/-- The database of a scan has been opened once at most, and not as long as the scan is planned. -/
structure OpenedOnce (scan : ForeignScan τ) (record : List Event) : Prop where
  atMost : openings record ≤ 1
  planned : scan.phase = .planned → openings record = 0

lemma OpenedOnce.run (h : OpenedOnce s.1 record) (call : ScanCall σ) :
    ∃ events, Action.Notes beside (call.unnoted.run e.recorded) (call.run e) s record events
      ∧ OpenedOnce ((call.run e).run s).2.1 (record ++ events) := by
  by_cases hopens : call.Opens s.1.phase
  · obtain ⟨events, hnotes, hone⟩ := notes_run_of_opens (e := e) hopens record
    have hopenings : openings (record ++ events) = 1 := by
      rw [openings, List.countP_append]
      exact congrArg₂ (· + ·) (h.planned hopens.1) hone
    refine ⟨events, hnotes, Nat.le_of_eq hopenings, fun hplanned => ?_⟩
    exact absurd hopens (planned_of_run hplanned).2
  · obtain ⟨events, hnotes, hevents⟩ := records_run (e := e) hopens record
    have hopenings := openings_append_of_forall hevents record
    refine ⟨events, hnotes, hopenings ▸ h.atMost, fun hplanned => ?_⟩
    exact hopenings.trans (h.planned (planned_of_run hplanned).1)

lemma OpenedOnce.runAll (h : OpenedOnce s.1 record) (calls : List (ScanCall σ)) :
    ∃ record', runAll e.recorded (calls.map unnoted) (beside s record)
        = beside (runAll e calls s) record'
      ∧ OpenedOnce (runAll e calls s).1 record' := by
  induction calls generalizing s record with
  | nil => exact ⟨record, rfl, h⟩
  | cons call calls ih =>
    obtain ⟨events, hnotes, h'⟩ := h.run (e := e) call
    obtain ⟨record', hrun, hopened⟩ := ih h'
    refine ⟨record', ?_, hopened⟩
    rw [List.map_cons, ScanCall.runAll, List.foldl_cons, hnotes.run]
    exact hrun

/-- What a call on a scan asks the engine for. -/
structure Asks (e : Engine σ κ τ) (call : ScanCall σ) (s : ForeignScan τ × σ)
    (record events : List Event) : Prop where
  notes : Action.Notes beside (call.unnoted.run e.recorded) (call.run e) s record events
  /-- A call that changes nothing asks for nothing. -/
  idle : call.RefusedIn s.1.phase ∨ s.1.phase = .ended
    ∨ s.1.phase = .planned ∧ (∃ params, call = begin params true) → events = []
  /-- A request that fails makes the call fail and ends the scan. -/
  heeds : (∃ event ∈ events, event.succeeded = false) →
    (∃ fault, ((call.run e).run s).1 = .error fault) ∧ ((call.run e).run s).2.1.phase = .ended

lemma refusedIn_unnoted (call : ScanCall σ) (phase : ScanPhase) :
    call.unnoted.RefusedIn phase ↔ call.RefusedIn phase := by
  cases call <;> rfl

/-- A call that changes nothing asks for nothing. -/
lemma events_eq_nil_of_notes {events : List Event}
    (h : Action.Notes beside (call.unnoted.run e.recorded) (call.run e) s record events)
    (hidle : call.RefusedIn s.1.phase ∨ s.1.phase = .ended
      ∨ s.1.phase = .planned ∧ ∃ params, call = begin params true) : events = [] := by
  have hsafe := safe e.recorded call.unnoted (beside s record)
  have hunchanged : ((call.unnoted.run e.recorded).run (beside s record)).2 = beside s record := by
    obtain hrefused | hended | ⟨hplanned, params, rfl⟩ := hidle
    · obtain ⟨cause, hrun⟩ := hsafe.refused ((refusedIn_unnoted call _).2 hrefused)
      rw [hrun]
    · exact (hsafe.ended hended).1
    · rw [hsafe.explained _ rfl hplanned]
  rw [h.run] at hunchanged
  have hrecord : record ++ events = record := congrArg (fun s => s.2.2) hunchanged
  exact List.append_right_eq_self.1 hrecord

lemma asks_of_notes {events : List Event}
    (h : Action.Notes beside (call.unnoted.run e.recorded) (call.run e) s record events) :
    call.Asks e s record events where
  notes := h
  idle := events_eq_nil_of_notes h
  heeds hfails := by
    obtain ⟨event, hevent, hfailed⟩ := hfails
    rcases hrun : (call.run e).run s with ⟨fault | row, s'⟩
    · refine ⟨⟨fault, rfl⟩, (safe e call s).failed (fun hrefused => ?_) fault s' hrun⟩
      rw [events_eq_nil_of_notes h (.inl hrefused)] at hevent
      cases hevent
    · have hsucceeded := h.heeds (by rw [hrun]; rfl) event hevent
      rw [hfailed] at hsucceeded
      cases hsucceeded

end ScanCall

/-- A scan may be called on in any order, and whatever the engine responds: a call at the wrong time
is refused and changes nothing, and any other failure ends the scan, for good. Its database is
opened once at most, and not to explain it. -/
theorem ForeignScan.safe_and_opened_once {σ κ τ : Type} (e : Engine σ κ τ) {plan : ScanPlan}
    {table : HostTable} {source : TableSource} {scan : ForeignScan τ}
    (hnew : ForeignScan.new plan table source = .ok scan) (w : σ) (calls : List (ScanCall σ)) :
    let s := ScanCall.runAll e calls (scan, w)
    (s.1.boundParams.isSome = true ↔ s.1.phase = .began ∨ s.1.phase = .iterating)
      ∧ (s.1.phase = .ended → ∀ more, ScanCall.runAll e more s = s)
      ∧ (∀ call, ScanCall.Safe e call s)
      ∧ ∃ record, ScanCall.runAll e.recorded (calls.map ScanCall.unnoted) (scan, (w, []))
          = beside s record
        ∧ openings record ≤ 1
        ∧ ∀ call, ∃ events, ScanCall.Asks e call s record events := by
  have hplanned : scan.phase = .planned := by
    rw [ForeignScan.new] at hnew
    cases hshape : plan.shape table source.policy with
    | error fault =>
      rw [hshape] at hnew
      cases hnew
    | ok shape =>
      rw [hshape] at hnew
      cases hnew
      rfl
  have hfresh : ScanCall.OpenedOnce scan [] := ⟨Nat.zero_le 1, fun _ => rfl⟩
  obtain ⟨record, hrun, hopened⟩ :=
    ScanCall.OpenedOnce.runAll (e := e) (s := (scan, w)) hfresh calls
  refine ⟨isSome_boundParams_iff, fun hended more => ScanCall.runAll_of_ended more hended,
    fun call => ScanCall.safe e call _, record, hrun, hopened.atMost, fun call => ?_⟩
  obtain ⟨events, hnotes, -⟩ := hopened.run (e := e) call
  exact ⟨events, ScanCall.asks_of_notes hnotes⟩

/-- A table with the only column of the echo. -/
def echoTable : HostTable where
  oid := 16385
  name := "echo"
  columns := [⟨"id", 1, .int8, true⟩]

/-- An echo that is explained, begun twice, iterated past its rows, rescanned and ended twice. -/
def echoCalls : List (ScanCall Unit) :=
  [.begin none true, .begin (some Tape.echoed) false, .begin none false, .iterate, .iterate, .iterate,
    .rescan none, .iterate, .finish, .finish]

theorem ForeignScan.safe_and_opened_once_echo :
    ForeignScan.new Tape.echoScan.plan echoTable Tape.echoScan.source = .ok Tape.echoScan
      ∧ (ScanCall.runAll Tape.echo.engine echoCalls (Tape.echoScan, ())).1.phase = .ended
      ∧ ∃ record, ScanCall.runAll Tape.echo.engine.recorded (echoCalls.map ScanCall.unnoted)
          (Tape.echoScan, ((), []))
          = beside (ScanCall.runAll Tape.echo.engine echoCalls (Tape.echoScan, ())) record
        ∧ openings record ≤ 1 := by
  have hnew : ForeignScan.new Tape.echoScan.plan echoTable Tape.echoScan.source
      = .ok Tape.echoScan := rfl
  obtain ⟨-, -, -, record, hrun, hopenings, -⟩ :=
    ForeignScan.safe_and_opened_once Tape.echo.engine hnew () echoCalls
  exact ⟨hnew, rfl, record, hrun, hopenings⟩

end ForeignData
