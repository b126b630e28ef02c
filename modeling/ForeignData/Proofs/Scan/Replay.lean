import ForeignData.Proofs.Scan.Parameters
import ForeignData.Proofs.Scan.Steps
import ForeignData.Proofs.Scan.Tape

/-!
# A scan replays the rows of its statement

On an engine with fixed rows, a scan hands out what the rows of its statement become, one by one and
in their order, and is at its end from the first fault on. What it is going to hand out after some
iterations is a suffix of what it handed out from the beginning; this is the invariant that every
call keeps, whether it iterates, rewinds or takes other parameters.
-/

namespace ForeignData

/-! ### Replies -/

/-- What asking for a row responds the time after `k` times: the next row, the fault that breaks the
rows off, or nothing. There is nothing behind a fault. -/
def Answer.reply (answer : Answer) (make : ResultRow → Except Fault ScanRow) (k : Nat) :
    Except Fault (Option ScanRow) :=
  if (answer.rows.take k).all fun row => (make row).isOk then
    match answer.rows[k]?, answer.fault with
    | some row, _ => (make row).map some
    | none, some fault => if k = answer.rows.length then .error fault else .ok none
    | none, none => .ok none
  else .ok none

namespace Answer

variable {make : ResultRow → Except Fault ScanRow} {row : ResultRow} {rows : List ResultRow}
  {fault : Option Fault}

lemma reply_nil_succ (k : Nat) : reply ⟨[], fault⟩ make (k + 1) = .ok none := by
  cases fault <;> rfl

lemma reply_cons_zero : reply ⟨row :: rows, fault⟩ make 0 = (make row).map some := rfl

lemma reply_cons_succ_of_ok {made : ScanRow} (h : make row = .ok made) (k : Nat) :
    reply ⟨row :: rows, fault⟩ make (k + 1) = reply ⟨rows, fault⟩ make k := by
  have hok : (make row).isOk = true := by rw [h]; rfl
  simp only [reply, List.take_succ_cons, List.all_cons, hok, Bool.true_and,
    List.getElem?_cons_succ, List.length_cons, Nat.add_right_cancel_iff]

lemma reply_cons_succ_of_error {cause : Fault} (h : make row = .error cause) (k : Nat) :
    reply ⟨row :: rows, fault⟩ make (k + 1) = .ok none := by
  have hnot : (make row).isOk = false := by rw [h]; rfl
  simp only [reply, List.take_succ_cons, List.all_cons, hnot, Bool.false_and,
    Bool.false_eq_true, if_false]

end Answer

namespace ForeignScan

/-! ### Runs -/

/-- A pass over the rows of a scan: where its parameters come from, the world that they have been
evaluated in, and how often a row has been asked for. -/
structure Pass (σ : Type) where
  source : Option (Evaluator σ)
  origin : σ
  count : Nat

variable {σ κ τ : Type}

/-- What a scan may come to from its beginning on, through any calls, with the pass that it is in.
There is none after a beginning or a rescan that has failed. Between the calls the world may
change. -/
inductive Reached (e : Engine σ κ τ) (scan : ForeignScan τ) :
    Option (Pass σ) → ForeignScan τ × σ → Prop
  | begin {params : Option (Evaluator σ)} {w w' : σ} {t : τ} {s : ForeignScan τ × σ}
      (hplanned : scan.state = .planned) (hopened : (scan.opened e).run w = (.ok t, w'))
      (hbegin : (begin e params false).run (scan, w) = (.ok (), s)) :
      Reached e scan (some ⟨params, w', 0⟩) s
  | beginFailed {params : Option (Evaluator σ)} {w : σ} {fault : Fault} {s : ForeignScan τ × σ}
      (hplanned : scan.state = .planned)
      (hbegin : (begin e params false).run (scan, w) = (.error fault, s)) :
      Reached e scan none s
  | iterate {pass : Option (Pass σ)} {s : ForeignScan τ × σ} (h : Reached e scan pass s) :
      Reached e scan (pass.map fun p => { p with count := p.count + 1 }) ((iterate e).run s).2
  | rewind {pass : Option (Pass σ)} {s s' : ForeignScan τ × σ} (h : Reached e scan pass s)
      (hrescan : (rescan e none).run s = (.ok (), s')) :
      Reached e scan (pass.map fun p => { p with count := 0 }) s'
  | rescan {pass : Option (Pass σ)} {s s' : ForeignScan τ × σ} {evaluator : Evaluator σ}
      (h : Reached e scan pass s) (hrescan : (rescan e (some evaluator)).run s = (.ok (), s')) :
      Reached e scan (some ⟨some evaluator, s.2, 0⟩) s'
  | rescanFailed {pass : Option (Pass σ)} {s s' : ForeignScan τ × σ}
      {params : Option (Evaluator σ)} {fault : Fault} (h : Reached e scan pass s)
      (hrescan : (rescan e params).run s = (.error fault, s')) : Reached e scan none s'
  | elsewhere {pass : Option (Pass σ)} {scan' : ForeignScan τ} {w w' : σ}
      (h : Reached e scan pass (scan', w)) : Reached e scan pass (scan', w')

/-- What asking for a row `n` times responds. -/
def replies (e : Engine σ κ τ) : Nat → ForeignScan τ × σ → List (Except Fault (Option ScanRow))
  | 0, _ => []
  | n + 1, s => ((iterate e).run s).1 :: replies e n ((iterate e).run s).2

/-- A scan that has ended gives nothing any more. -/
lemma replies_of_ended {e : Engine σ κ τ} {s : ForeignScan τ × σ} (h : s.1.state = .ended)
    (n : Nat) : replies e n s = List.replicate n (.ok none) := by
  induction n with
  | zero => rfl
  | succ n ih => rw [replies, iterate_run_of_ended h, ih, List.replicate_succ]

end ForeignScan

namespace Tape

open ForeignScan

variable {σ : Type} (tape : Tape σ) (scan : ForeignScan Statement)

/-- The rows of the statement of a scan for given values of its placeholders. -/
def answerFor (bindings : Nat → BoundValue) : Answer :=
  tape.answer scan.source.database scan.plan.query bindings

/-- What a scan makes of a row of its statement: its values and, if keys are fetched, the value
behind them, which has to be an integer. -/
def makeRow (row : ResultRow) : Except Fault ScanRow := do
  let values ← scan.shape.hostRow row (tape.width scan.source.database scan.plan.query)
  if scan.shape.fetchRowid then
    match row.value scan.shape.retrieved.length with
    | .integer key => return ⟨values, some key⟩
    | value => throw (.misuse (.rowidNotInteger value))
  else
    return ⟨values, none⟩

lemma scanRow_eq_makeRow (row : ResultRow) :
    scan.shape.scanRow (tape.width scan.source.database scan.plan.query) row
      = tape.makeRow scan row := by
  rw [RowShape.scanRow, makeRow, RowShape.rowid]
  cases scan.shape.hostRow row (tape.width scan.source.database scan.plan.query) with
  | error fault => rfl
  | ok values =>
    cases scan.shape.fetchRowid with
    | false => rfl
    | true => cases row.value scan.shape.retrieved.length <;> rfl

/-- What a scan responds to a call for a row after `k` of them, for given values of the placeholders
of its statement. -/
def replyFor (bindings : Nat → BoundValue) (k : Nat) : Except Fault (Option ScanRow) :=
  (tape.answerFor scan bindings).reply (tape.makeRow scan) k

/-! ### The invariant -/

/-- A running scan after `k` calls for a row: what its statement is going to give is what is left of
its answer. -/
structure Follows (params : List Param) (bindings : Nat → BoundValue) (k : Nat)
    (running : RunningScan Statement) : Prop where
  params_eq : running.params = params
  path_eq : running.statement.path = scan.source.database
  query_eq : running.statement.query = scan.plan.query
  bindings_eq : running.statement.bindings = bindings
  steps_eq : running.statement.steps = min k ((tape.answerFor scan bindings).rows.length + 1)
  left : running.exhausted = false →
    k + (tape.remaining running.statement).rows.length = (tape.answerFor scan bindings).rows.length
      ∧ ∀ n, tape.replyFor scan bindings (k + n)
        = (tape.remaining running.statement).reply (tape.makeRow scan) n
  spent : running.exhausted = true → (tape.answerFor scan bindings).rows.length < k
    ∧ ∀ n, tape.replyFor scan bindings (k + n) = .ok none

/-- A scan after `k` calls for a row: it follows its statement, or it has ended with a fault. -/
def InPass (params : List Param) (bindings : Nat → BoundValue) (k : Nat)
    (state : ScanState Statement) : Prop :=
  (∃ running, state.running? = some running ∧ tape.Follows scan params bindings k running)
    ∨ state = .ended ∧ ∀ n, tape.replyFor scan bindings (k + n) = .ok none

variable {tape scan} {params : List Param} {bindings : Nat → BoundValue} {k : Nat}

/-- A statement that has just been bound or rewound is at the beginning of its answer. -/
lemma follows_of_rewound {running : RunningScan Statement} (hparams : running.params = params)
    (hpath : running.statement.path = scan.source.database)
    (hquery : running.statement.query = scan.plan.query)
    (hbindings : running.statement.bindings = bindings) (hrest : running.statement.rest = none)
    (hsteps : running.statement.steps = 0) (hexhausted : running.exhausted = false) :
    tape.Follows scan params bindings 0 running := by
  have hremaining : tape.remaining running.statement = tape.answerFor scan bindings := by
    rw [remaining, hrest, hpath, hquery, hbindings]
    rfl
  refine ⟨hparams, hpath, hquery, hbindings, ?_, fun _ => ⟨?_, fun n => ?_⟩, fun hnot => ?_⟩
  · rw [hsteps, Nat.zero_min]
  · rw [hremaining, Nat.zero_add]
  · rw [hremaining, Nat.zero_add, replyFor]
  · rw [hexhausted] at hnot
    cases hnot

/-! ### What a call keeps -/

section Advance

variable {running : RunningScan Statement} {row : ResultRow} {rows : List ResultRow}
  {fault : Option Fault}

/-- What is left of an answer is what the scan is going to respond. -/
lemma Follows.replyFor_succ (h : tape.Follows scan params bindings k running)
    (hexhausted : running.exhausted = false) (n : Nat) : tape.replyFor scan bindings (k + 1 + n)
      = (tape.remaining running.statement).reply (tape.makeRow scan) (n + 1) := by
  rw [← (h.left hexhausted).2, Nat.add_assoc, Nat.add_comm 1 n]

lemma Follows.stay (h : tape.Follows scan params bindings k running)
    (hexhausted : running.exhausted = true) :
    tape.Follows scan params bindings (k + 1) running := by
  obtain ⟨hpast, hnone⟩ := h.spent hexhausted
  have hsteps := h.steps_eq
  refine ⟨h.params_eq, h.path_eq, h.query_eq, h.bindings_eq, by omega, ?_, fun _ => ⟨by omega, ?_⟩⟩
  · intro hnot
    rw [hexhausted] at hnot
    cases hnot
  · intro n
    rw [Nat.add_assoc]
    exact hnone (1 + n)

/-- On a row that becomes a row of the scan, the rest of the answer is left. -/
lemma Follows.stand (h : tape.Follows scan params bindings k running)
    (hexhausted : running.exhausted = false)
    (hremaining : tape.remaining running.statement = ⟨row :: rows, fault⟩) {made : ScanRow}
    (hmade : tape.makeRow scan row = .ok made) :
    tape.Follows scan params bindings (k + 1)
      { running with statement := running.statement.stand row ⟨rows, fault⟩ } := by
  have hleft := (h.left hexhausted).1
  have hsteps := h.steps_eq
  rw [hremaining, List.length_cons] at hleft
  refine ⟨h.params_eq, h.path_eq, h.query_eq, h.bindings_eq, ?_, fun _ => ⟨?_, fun n => ?_⟩, ?_⟩
  · change running.statement.steps + 1 = _
    omega
  · change k + 1 + rows.length = _
    omega
  · rw [h.replyFor_succ hexhausted, hremaining, Answer.reply_cons_succ_of_ok hmade]
    rfl
  · intro hnot
    exact absurd hnot (by simp [hexhausted])

/-- Behind the last row nothing is left. -/
lemma Follows.pass (h : tape.Follows scan params bindings k running)
    (hexhausted : running.exhausted = false)
    (hremaining : tape.remaining running.statement = ⟨[], none⟩) :
    tape.Follows scan params bindings (k + 1)
      { running with statement := running.statement.pass, exhausted := true } := by
  have hleft := (h.left hexhausted).1
  have hsteps := h.steps_eq
  rw [hremaining, List.length_nil] at hleft
  refine ⟨h.params_eq, h.path_eq, h.query_eq, h.bindings_eq, ?_, ?_, fun _ => ⟨by omega, ?_⟩⟩
  · change running.statement.steps + 1 = _
    omega
  · intro hnot
    cases hnot
  · intro n
    rw [h.replyFor_succ hexhausted, hremaining, Answer.reply_nil_succ]

/-- One step of a running scan responds what comes next, and follows the statement or ends. -/
lemma advance_of_follows (h : tape.Follows scan params bindings k running) (w : σ) :
    (∃ r running',
        (advance tape.engine scan.shape running).run w = (.ok (r, .iterating running'), w)
        ∧ tape.replyFor scan bindings k = .ok r
        ∧ tape.Follows scan params bindings (k + 1) running')
      ∨ ∃ fault, (advance tape.engine scan.shape running).run w = (.error fault, w)
        ∧ tape.replyFor scan bindings k = .error fault
        ∧ ∀ n, tape.replyFor scan bindings (k + 1 + n) = .ok none := by
  cases hexhausted : running.exhausted with
  | true =>
    exact .inl ⟨none, running, advance_run_of_exhausted scan.shape hexhausted,
      (h.spent hexhausted).2 0, h.stay hexhausted⟩
  | false =>
    have hnow : tape.replyFor scan bindings k
        = (tape.remaining running.statement).reply (tape.makeRow scan) 0 :=
      (h.left hexhausted).2 0
    -- the statement gives a row that may or may not become one of the scan, its end, or its fault
    match hremaining : tape.remaining running.statement with
    | ⟨row :: rows, fault⟩ =>
      have hadvance := advance_run_of_row scan.shape hexhausted (step_row hremaining w)
      have hmake : scan.shape.scanRow
          (tape.engine.width (running.statement.stand row ⟨rows, fault⟩))
          (tape.engine.row (running.statement.stand row ⟨rows, fault⟩))
            = tape.makeRow scan row := by
        rw [← scanRow_eq_makeRow, ← h.path_eq, ← h.query_eq]
        rfl
      rw [hmake] at hadvance
      rw [hremaining, Answer.reply_cons_zero] at hnow
      cases hmade : tape.makeRow scan row with
      | ok made =>
        rw [hmade] at hadvance hnow
        exact .inl ⟨some made, _, hadvance, hnow, h.stand hexhausted hremaining hmade⟩
      | error cause =>
        rw [hmade] at hadvance hnow
        refine .inr ⟨cause, hadvance, hnow, fun n => ?_⟩
        rw [h.replyFor_succ hexhausted, hremaining, Answer.reply_cons_succ_of_error hmade]
    | ⟨[], none⟩ =>
      have hadvance := advance_run_of_done scan.shape hexhausted (step_done hremaining w)
      rw [hremaining] at hnow
      exact .inl ⟨none, _, hadvance, hnow, h.pass hexhausted hremaining⟩
    | ⟨[], some fault⟩ =>
      have hadvance := advance_run_of_fault scan.shape hexhausted (step_fault hremaining w)
      rw [hremaining] at hnow
      refine .inr ⟨fault, hadvance, hnow, fun n => ?_⟩
      rw [h.replyFor_succ hexhausted, hremaining, Answer.reply_nil_succ]

end Advance

/-- A call for a row responds what comes next and stays in the pass. -/
lemma iterate_of_inPass {scan' : ForeignScan Statement} (hshape : scan'.shape = scan.shape)
    (h : tape.InPass scan params bindings k scan'.state) (w : σ) :
    ∃ state, (iterate tape.engine).run (scan', w)
        = (tape.replyFor scan bindings k, ({ scan' with state }, w))
      ∧ tape.InPass scan params bindings (k + 1) state := by
  obtain ⟨running, hrunning, hfollows⟩ | ⟨hended, hnone⟩ := h
  · have hadvance := advance_of_follows hfollows w
    rw [← hshape] at hadvance
    obtain ⟨r, running', hadvance, hreply, hfollows'⟩ | ⟨fault, hadvance, hreply, hnone⟩ := hadvance
    · refine ⟨.iterating running', ?_, .inl ⟨running', rfl, hfollows'⟩⟩
      rw [iterate_run_of_running hrunning, moving_run_of_ok hadvance, hreply]
    · refine ⟨.ended, ?_, .inr ⟨rfl, hnone⟩⟩
      rw [iterate_run_of_running hrunning, moving_run_of_error hadvance, hreply]
  · refine ⟨.ended, ?_, .inr ⟨rfl, fun n => ?_⟩⟩
    · rw [iterate_run_of_ended hended, ← hended]
      exact Prod.ext (hnone 0).symm rfl
    · rw [Nat.add_assoc]
      exact hnone (1 + n)

/-- Rewinding a running scan leads to the beginning of the same answer. -/
lemma rewind_of_follows {scan' : ForeignScan Statement} {running : RunningScan Statement}
    (hrunning : scan'.state.running? = some running)
    (h : tape.Follows scan params bindings k running) (w : σ) :
    ∃ running', (rescan tape.engine none).run (scan', w)
        = (.ok (), ({ scan' with state := .began running' }, w))
      ∧ tape.Follows scan params bindings 0 running' := by
  refine ⟨{ running with statement := running.statement.rewind, exhausted := false }, ?_, ?_⟩
  · rw [rescan_run_of_running hrunning]
    exact moving_run_of_ok (restart_none_run rfl)
  · exact follows_of_rewound h.params_eq h.path_eq h.query_eq h.bindings_eq rfl rfl rfl

/-- Binding the parameters of a plan on a rewound statement leads to the beginning of the answer for
these parameters. -/
lemma follows_of_bindParams {source : Option (Evaluator σ)} {w₁ w₂ w₃ : σ}
    (hevaluate : (evaluate scan.plan source).run w₁ = (.ok params, w₂)) {t t' : Statement}
    (hpath : t.path = scan.source.database) (hquery : t.query = scan.plan.query)
    (hrest : t.rest = none) (hsteps : t.steps = 0) (hbindings : t.bindings = fun _ => .null)
    (hbind : (bindParams tape.engine.bind params).run (t, w₂) = (.ok (), (t', w₃))) :
    Binds t'.bindings params
      ∧ tape.Follows scan params t'.bindings 0
        { statement := t', params, exhausted := false } := by
  obtain ⟨-, hframe, hbinds⟩ := tape.binds_of_bindParams (index_evaluate hevaluate) hbindings hbind
  refine ⟨hbinds, follows_of_rewound rfl ?_ ?_ rfl ?_ ?_ rfl⟩
  all_goals rw [hframe]
  · exact hpath
  · exact hquery
  · exact hrest
  · exact hsteps

lemma opened_run_eq_ok {t : Statement} {w w' : σ}
    (h : (scan.opened tape.engine).run w = (.ok t, w')) :
    t = .fresh scan.source.database scan.plan.query := by
  obtain ⟨connection, w₁, hconnect, h⟩ := Action.run_bind_eq_ok h
  obtain ⟨_, w₂, -, h⟩ := Action.run_bind_eq_ok h
  obtain ⟨_, w₃, -, hconnect⟩ := Action.run_bind_eq_ok hconnect
  cases hconnect
  cases h
  rfl

/-! ### What every run keeps -/

variable (tape scan) in
/-- What a scan has come to: it is in the pass that its latest parameters give, or has ended. -/
def Kept (pass : Option (Pass σ)) (s : ForeignScan Statement × σ) : Prop :=
  s.1 = { scan with state := s.1.state } ∧ match pass with
  | none => s.1.state = .ended
  | some p => ∃ params bindings w, (evaluate scan.plan p.source).run p.origin = (.ok params, w)
    ∧ Binds bindings params ∧ tape.InPass scan params bindings p.count s.1.state

lemma withState_eq {scan' : ForeignScan Statement} (h : scan' = { scan with state := scan'.state })
    (state : ScanState Statement) : { scan' with state } = { scan with state } := by
  rw [h]

variable {s s' : ForeignScan Statement × σ} {w w' : σ}

lemma kept_begin {source : Option (Evaluator σ)} {t : Statement} (hplanned : scan.state = .planned)
    (hopened : (scan.opened tape.engine).run w = (.ok t, w'))
    (h : (begin tape.engine source false).run (scan, w) = (.ok (), s)) :
    tape.Kept scan (some ⟨source, w', 0⟩) s := by
  rw [begin_run_of_planned hplanned] at h
  obtain ⟨state, w₁, hstart, rfl⟩ := moving_run_eq_ok h
  obtain ⟨t₁, w₂, params, w₃, t', hopened', hevaluate, hbind, rfl⟩ := start_run_eq_ok hstart
  rw [hopened] at hopened'
  cases hopened'
  obtain rfl := opened_run_eq_ok hopened
  obtain ⟨hbinds, hfollows⟩ := follows_of_bindParams hevaluate rfl rfl rfl rfl rfl hbind
  exact ⟨rfl, params, t'.bindings, w₃, hevaluate, hbinds, .inl ⟨_, rfl, hfollows⟩⟩

lemma kept_beginFailed {source : Option (Evaluator σ)} {fault : Fault}
    (hplanned : scan.state = .planned)
    (h : (begin tape.engine source false).run (scan, w) = (.error fault, s)) :
    tape.Kept scan none s := by
  rw [begin_run_of_planned hplanned] at h
  obtain ⟨w', rfl⟩ := moving_run_eq_error h
  exact ⟨rfl, rfl⟩

lemma Kept.iterate {pass : Option (Pass σ)} (h : tape.Kept scan pass s) :
    tape.Kept scan (pass.map fun p => { p with count := p.count + 1 })
      ((iterate tape.engine).run s).2 := by
  obtain ⟨scan', w⟩ := s
  obtain ⟨hscan, hpass⟩ := h
  cases pass with
  | none =>
    rw [iterate_run_of_ended hpass]
    exact ⟨hscan, hpass⟩
  | some p =>
    obtain ⟨params, bindings, w₁, hevaluate, hbinds, hin⟩ := hpass
    have hshape : scan'.shape = scan.shape := (congrArg ForeignScan.shape hscan :)
    obtain ⟨state, hiterate, hin'⟩ := iterate_of_inPass hshape hin w
    rw [hiterate]
    exact ⟨withState_eq hscan _, params, bindings, w₁, hevaluate, hbinds, hin'⟩

lemma running_of_rescan {scan' : ForeignScan Statement} {source : Option (Evaluator σ)}
    (hin : tape.InPass scan params bindings k scan'.state)
    (h : (rescan tape.engine source).run (scan', w) = (.ok (), s')) :
    ∃ running, scan'.state.running? = some running
      ∧ tape.Follows scan params bindings k running := by
  obtain hrunning | ⟨hended, -⟩ := hin
  · exact hrunning
  · rw [rescan_run_of_ended hended] at h
    cases h

lemma Kept.rewind {pass : Option (Pass σ)} (h : tape.Kept scan pass s)
    (hrescan : (ForeignScan.rescan tape.engine none).run s = (.ok (), s')) :
    tape.Kept scan (pass.map fun p => { p with count := 0 }) s' := by
  obtain ⟨scan', w⟩ := s
  obtain ⟨hscan, hpass⟩ := h
  cases pass with
  | none =>
    rw [rescan_run_of_ended hpass] at hrescan
    cases hrescan
  | some p =>
    obtain ⟨params, bindings, w₁, hevaluate, hbinds, hin⟩ := hpass
    obtain ⟨running, hrunning, hfollows⟩ := running_of_rescan hin hrescan
    obtain ⟨running', hrewound, hfollows'⟩ := rewind_of_follows hrunning hfollows w
    rw [hrewound] at hrescan
    cases hrescan
    exact ⟨withState_eq hscan _, params, bindings, w₁, hevaluate, hbinds,
      .inl ⟨running', rfl, hfollows'⟩⟩

lemma Kept.rescan {pass : Option (Pass σ)} {evaluator : Evaluator σ} (h : tape.Kept scan pass s)
    (hrescan : (ForeignScan.rescan tape.engine (some evaluator)).run s = (.ok (), s')) :
    tape.Kept scan (some ⟨some evaluator, s.2, 0⟩) s' := by
  obtain ⟨scan', w⟩ := s
  obtain ⟨hscan, hpass⟩ := h
  cases pass with
  | none =>
    rw [rescan_run_of_ended hpass] at hrescan
    cases hrescan
  | some p =>
    -- nothing is kept of the old parameters but the statement that they were bound on
    obtain ⟨params, bindings, w₁, -, -, hin⟩ := hpass
    obtain ⟨running, hrunning, hfollows⟩ := running_of_rescan hin hrescan
    rw [rescan_run_of_running hrunning] at hrescan
    obtain ⟨state, w₂, hrestart, rfl⟩ := moving_run_eq_ok hrescan
    obtain ⟨t, w₃, ps, w₄, t₁, w₅, t', hreset, hevaluate, hclear, hbind, rfl⟩ :=
      restart_some_run_eq_ok hrestart
    cases hreset
    cases hclear
    have hplan : scan'.plan = scan.plan := (congrArg ForeignScan.plan hscan :)
    rw [hplan] at hevaluate
    obtain ⟨hbinds, hfollows'⟩ := follows_of_bindParams hevaluate
      (t := { running.statement.rewind with bindings := fun _ => .null })
      hfollows.path_eq hfollows.query_eq rfl rfl rfl hbind
    exact ⟨withState_eq hscan _, ps, t'.bindings, w₄, hevaluate, hbinds, .inl ⟨_, rfl, hfollows'⟩⟩

lemma Kept.rescanFailed {pass : Option (Pass σ)} {source : Option (Evaluator σ)} {fault : Fault}
    (h : tape.Kept scan pass s)
    (hrescan : (ForeignScan.rescan tape.engine source).run s = (.error fault, s')) :
    tape.Kept scan none s' := by
  obtain ⟨scan', w⟩ := s
  obtain ⟨hscan, hpass⟩ := h
  obtain ⟨running, hrunning⟩ | hended :
      (∃ running, scan'.state.running? = some running) ∨ scan'.state = .ended := by
    cases pass with
    | none => exact .inr hpass
    | some p =>
      obtain ⟨params, bindings, w₁, -, -, ⟨running, hrunning, -⟩ | ⟨hended, -⟩⟩ := hpass
      · exact .inl ⟨running, hrunning⟩
      · exact .inr hended
  · rw [rescan_run_of_running hrunning] at hrescan
    obtain ⟨w', rfl⟩ := moving_run_eq_error hrescan
    exact ⟨withState_eq hscan _, rfl⟩
  · rw [rescan_run_of_ended hended] at hrescan
    cases hrescan
    exact ⟨hscan, hended⟩

/-- Whatever calls are made on a scan from its beginning on, it is in the pass of the latest
parameters that have been taken, or has ended. -/
lemma kept_of_reached {pass : Option (Pass σ)} (h : Reached tape.engine scan pass s) :
    tape.Kept scan pass s := by
  induction h with
  | begin hplanned hopened hbegin => exact kept_begin hplanned hopened hbegin
  | beginFailed hplanned hbegin => exact kept_beginFailed hplanned hbegin
  | iterate _ ih => exact ih.iterate
  | rewind _ hrescan ih => exact ih.rewind hrescan
  | rescan _ hrescan ih => exact ih.rescan hrescan
  | rescanFailed _ hrescan ih => exact ih.rescanFailed hrescan
  | elsewhere _ ih => exact ih

/-- Asking again and again responds what comes next, again and again. -/
lemma replies_of_inPass {scan' : ForeignScan Statement} (hshape : scan'.shape = scan.shape)
    (h : tape.InPass scan params bindings k scan'.state) (w : σ) (n : Nat) :
    replies tape.engine n (scan', w) = (List.range' k n).map (tape.replyFor scan bindings) := by
  induction n generalizing scan' k with
  | zero => rfl
  | succ n ih =>
    obtain ⟨state, hiterate, hin⟩ := iterate_of_inPass hshape h w
    rw [replies, hiterate, List.range'_succ, List.map_cons]
    have hrest : replies tape.engine n ({ scan' with state }, w)
        = (List.range' (k + 1) n).map (tape.replyFor scan bindings) := ih hshape hin
    rw [hrest]

/-- A scan hands out the rows of its statement, for the parameters that it has taken last, in their
order and none twice, up to the first fault. It steps its statement once for each call, and not at
all behind the last row. Rewinding it at any time hands out the same rows again. -/
theorem replies_of_reached (tape : Tape σ) {scan : ForeignScan Statement} {pass : Option (Pass σ)}
    {s : ForeignScan Statement × σ} (h : Reached tape.engine scan pass s) :
    (pass = none → s.1.state = .ended
        ∧ ∀ n, replies tape.engine n s = List.replicate n (.ok none))
      ∧ ∀ p, pass = some p → ∃ params bindings w,
        (evaluate scan.plan p.source).run p.origin = (.ok params, w)
          ∧ params.map Param.index = List.range' 1 scan.plan.paramCount.toNat
          ∧ Binds bindings params
          ∧ (∀ running, s.1.state.running? = some running →
            s.1.boundParams = some params ∧ running.statement.bindings = bindings
              ∧ running.statement.steps
                = min p.count ((tape.answerFor scan bindings).rows.length + 1)
              ∧ ∃ s', (rescan tape.engine none).run s = (.ok (), s')
                ∧ ∀ n, replies tape.engine n s'
                  = (List.range n).map (tape.replyFor scan bindings))
          ∧ ∀ n, replies tape.engine n s
            = (List.range' p.count n).map (tape.replyFor scan bindings) := by
  obtain ⟨hscan, hpass⟩ := kept_of_reached h
  constructor
  · rintro rfl
    exact ⟨hpass, replies_of_ended hpass⟩
  · rintro p rfl
    obtain ⟨params, bindings, w, hevaluate, hbinds, hin⟩ := hpass
    have hshape : s.1.shape = scan.shape := (congrArg ForeignScan.shape hscan :)
    refine ⟨params, bindings, w, hevaluate, index_evaluate hevaluate, hbinds, ?_,
      replies_of_inPass hshape hin s.2⟩
    intro running hrunning
    obtain ⟨running', hrunning', hfollows⟩ | ⟨hended, -⟩ := hin
    · rw [hrunning] at hrunning'
      cases hrunning'
      obtain ⟨running', hrewound, hfollows'⟩ := rewind_of_follows hrunning hfollows s.2
      refine ⟨?_, hfollows.bindings_eq, hfollows.steps_eq, _, hrewound, fun n => ?_⟩
      · rw [boundParams, hrunning, Option.map_some, hfollows.params_eq]
      · have hshape' : ({ s.1 with state := .began running' } : ForeignScan Statement).shape
            = scan.shape := hshape
        rw [List.range_eq_range']
        exact replies_of_inPass hshape' (.inl ⟨running', rfl, hfollows'⟩) s.2 n
    · rw [hended] at hrunning
      cases hrunning

/-- A tape that gives its only value back, and another row behind it. -/
def echo : Tape Unit where
  connect _ _ := pure ()
  prepare _ _ := pure ()
  placeholders _ _ := 1
  width _ _ := 2
  answer _ _ bindings :=
    match bindings 1 with
    | .int64 v => ⟨[[.integer v, .integer 4], [.integer 0, .integer 9]], none⟩
    | _ => ⟨[], none⟩

/-- A scan of one column and the key, with one parameter. -/
def echoScan : ForeignScan Statement where
  plan := { query := "SELECT \"id\", rowid FROM \"echo\" WHERE (\"id\" >= ?1)", retrieved := [1],
            paramCount := 1, fetchRowid := true }
  source := { database := "echo.db", table := "echo", policy := .error }
  shape := ⟨[⟨"id", 1, .int8, true⟩], [⟨0, by decide⟩], .error, true⟩
  state := .planned

def echoed : Evaluator Unit :=
  .ofList [(.int8, some (.int8 7))]

/-- The scan after its beginning, one row and a rewinding. -/
def echoRewound : ForeignScan Statement × Unit :=
  let s := ((begin echo.engine (some echoed) false).run (echoScan, ())).2
  ((rescan echo.engine none).run ((iterate echo.engine).run s).2).2

theorem replies_of_reached_echo :
    Reached echo.engine echoScan (some ⟨some echoed, (), 0⟩) echoRewound
      ∧ replies echo.engine 3 echoRewound
        = [.ok (some ⟨[some (.int8 7)], some 4⟩), .ok (some ⟨[some (.int8 0)], some 9⟩), .ok none]
      ∧ ∃ bindings, Binds bindings [⟨1, .int8, some (.int8 7)⟩]
        ∧ ∀ n, replies echo.engine n echoRewound
          = (List.range' 0 n).map (echo.replyFor echoScan bindings) := by
  have h : Reached echo.engine echoScan (some ⟨some echoed, (), 0⟩) echoRewound :=
    .rewind (.iterate (.begin rfl rfl rfl)) rfl
  obtain ⟨params, bindings, w, hevaluate, -, hbinds, -, hreplies⟩ :=
    (replies_of_reached echo h).2 _ rfl
  cases hevaluate
  exact ⟨h, rfl, bindings, hbinds, hreplies⟩

end Tape

end ForeignData
