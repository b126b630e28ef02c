import ForeignData.Proofs.Change.Agreement

/-!
# The lifecycle of a change

A change is called on in any order. A call that comes at the wrong time, that is not what has been
planned, or whose row is too short, is refused and changes nothing; any other failure ends the
change. Whatever rows have been before, the statement is run with the values of the present one.
-/

namespace ForeignData

open Sqlite

/-- A call that runs the statement of a change for a row. -/
inductive RowCall where
  | insert (row : HostRow)
  | update (rowid : Int64) (row : HostRow)
  | delete (rowid : Int64) (row : HostRow)

namespace RowCall

variable {σ κ τ : Type}

def row : RowCall → HostRow
  | insert row | update _ row | delete _ row => row

def rowid? : RowCall → Option Int64
  | insert _ => none
  | update rowid _ | delete rowid _ => some rowid

def run (e : Engine σ κ τ) : RowCall → Action (ForeignChange τ × σ) (Option HostRow)
  | insert row => ForeignChange.insert e row
  | update rowid row => ForeignChange.update e rowid row
  | delete rowid row => ForeignChange.delete e rowid row

def Fits : RowCall → Mutation → Prop
  | insert _, .insert _ | update .., .update _ | delete .., .delete => True
  | _, _ => False

/-- Whether the row has no value for some target. -/
def Short (call : RowCall) (table : HostTable) (m : Mutation) : Prop :=
  ∃ n ∈ m.targets, ∃ i, table.position? n = some i ∧ call.row.length ≤ i.val

/-- What a call gives: for each target the value that its row has there, numbered as the targets
are, and behind them the key. -/
inductive Gives (call : RowCall) (m : Mutation) (table : HostTable) : Param → Prop
  | target {k : Nat} {n : AttrNumber} {column : HostColumn} {value : HostValue}
      (hn : m.targets[k]? = some n) (hcolumn : table.column? n = some column)
      (hvalue : table.value? call.row n = some value) :
      Gives call m table ⟨k + 1, column.type, value⟩
  | key {rowid : Int64} (hrowid : call.rowid? = some rowid) :
      Gives call m table ⟨m.targets.length + 1, .int8, some (.int8 rowid)⟩

/-- Parameters are what a call gives for the placeholders of a statement, one for each in order. -/
structure IsFor (call : RowCall) (plan : ChangePlan) (table : HostTable) (params : List Param) :
    Prop where
  placeholders : params.map (fun p => some p.index) = plan.placeholders
  index : (params.map Param.index).Nodup
  gives : ∀ p ∈ params, call.Gives plan.mutation table p

/-- Each placeholder of a statement holds what a call gives for it. -/
def IsHeld (call : RowCall) (plan : ChangePlan) (table : HostTable) (held : HeldValues) : Prop :=
  ∀ placeholder ∈ plan.placeholders, ∃ p v, placeholder = some p.index
    ∧ call.Gives plan.mutation table p ∧ p.call = .ok ⟨p.index, v⟩ ∧ held p.index = some v

end RowCall

inductive ChangeCall where
  | begin (explainOnly : Bool)
  | execute (call : RowCall)
  | finish

namespace ChangeCall

variable {σ κ τ : Type}

/-- Make a call. Only one for a row has something to give. -/
def run (e : Engine σ κ τ) : ChangeCall → Action (ForeignChange τ × σ) (Option HostRow)
  | begin explainOnly => do
    ForeignChange.begin e explainOnly
    return none
  | execute call => call.run e
  | finish => do
    modify fun (change, w) => (change.finish, w)
    return none

/-- Make calls one after the other, whatever each comes to. -/
def runAll (e : Engine σ κ τ) (calls : List ChangeCall) (s : ForeignChange τ × σ) :
    ForeignChange τ × σ :=
  calls.foldl (fun s call => ((call.run e).run s).2) s

/-- Whether a change refuses a call. -/
def RefusedBy (table : HostTable) (change : ForeignChange τ) : ChangeCall → Prop
  | begin _ => change.state ≠ .planned
  | execute call => ¬call.Fits change.plan.mutation ∨ call.Short table change.plan.mutation
      ∨ change.isActive = false
  | finish => False

/-- What a call is sure to make of a change, and of the world, whatever the engine does. -/
structure Safe (e : Engine σ κ τ) (table : HostTable) (call : ChangeCall)
    (s : ForeignChange τ × σ) : Prop where
  /-- A refusal is a misuse and changes nothing. -/
  refused : call.RefusedBy table s.1 → ∃ cause, (call.run e).run s = (.error (.misuse cause), s)
  /-- Any other failure ends the change. -/
  failed : ¬call.RefusedBy table s.1 → ∀ fault s', (call.run e).run s = (.error fault, s') →
    s'.1.isEnded = true
  /-- A run that succeeds has bound what the call gives for each placeholder, has stepped to the end
  and has rewound. It gives the row back if the engine has changed one, and the change is ready for
  the next row. -/
  executed : ∀ rowCall, call = execute rowCall → ∀ result s',
    (call.run e).run s = (.ok result, s') → s'.1.isActive = true
      ∧ ∃ t params bound rows t₁ w₁ t', s.1.statement? = some t
        ∧ rowCall.IsFor s.1.plan table params
        ∧ BindsAll e.bind (t, s.2) params bound ∧ e.StepsToEnd bound rows (t₁, w₁)
        ∧ e.reset.run (t₁, w₁) = (.ok (), (t', s'.2)) ∧ s'.1.statement? = some t'
        ∧ result = if e.changes t₁ > 0 then some rowCall.row else none
  /-- A change that has ended stays so. -/
  ended : s.1.isEnded = true → ((call.run e).run s).2 = s
  /-- A change can be ended in each state. -/
  finished : call = finish → (call.run e).run s = (.ok none, (s.1.finish, s.2))
    ∧ s.1.finish.isEnded = true

/-- What a call on a change asks the engine for. -/
structure Asks (e : Engine σ κ τ) (table : HostTable) (call : ChangeCall)
    (s : ForeignChange τ × σ) (record events : List Event) : Prop where
  notes : Action.Notes beside (call.run e.recorded) (call.run e) s record events
  /-- A refused call asks for nothing. -/
  idle : call.RefusedBy table s.1 → events = []
  /-- A request that fails makes the call fail and ends the change. -/
  heeds : (∃ event ∈ events, event.succeeded = false) →
    (∃ fault, ((call.run e).run s).1 = .error fault) ∧ ((call.run e).run s).2.1.isEnded = true
  /-- Each step is taken for the row of the call, with its values. -/
  held : ∀ event ∈ events, ∀ held, event.request = .step held →
    ∃ rowCall, call = execute rowCall ∧ rowCall.IsHeld s.1.plan table held

end ChangeCall

/-! ### Rows -/

namespace RowCall

open ForeignChange

variable {σ κ τ : Type} {e : Engine σ κ τ} {table : HostTable} {source : TableSource}
  {plan : ChangePlan} {planned change : ForeignChange τ} {call : RowCall} {w : σ}

lemma exists_run_eq {m : Mutation} (h : call.Fits m) :
    ∃ rowid, (m.needsRowid = true → call.rowid? = some rowid)
      ∧ ∀ {σ κ τ : Type} (e : Engine σ κ τ), call.run e = m.operation e rowid call.row := by
  cases call with
  | insert row =>
    cases m with
    | insert targets => exact ⟨0, nofun, fun e => rfl⟩
    | update targets | delete => cases h
  | update rowid row =>
    cases m with
    | update targets => exact ⟨rowid, fun _ => rfl, fun e => rfl⟩
    | insert targets | delete => cases h
  | delete rowid row =>
    cases m with
    | delete => exact ⟨rowid, fun _ => rfl, fun e => rfl⟩
    | insert targets | update targets => cases h

lemma run_of_not_fits {m : Mutation} (hmutation : change.plan.mutation = m) (h : ¬call.Fits m) :
    (call.run e).run (change, w) = (.error (.misuse (.mutationMismatch m)), (change, w)) := by
  cases call with
  | insert row =>
    change (ForeignChange.insert e row).run (change, w) = _
    rw [ForeignChange.insert, Action.run_get_bind]
    cases m with
    | insert targets => exact absurd trivial h
    | update targets | delete =>
      simp only [hmutation]
      rfl
  | update rowid row =>
    change (ForeignChange.update e rowid row).run (change, w) = _
    rw [ForeignChange.update, Action.run_get_bind]
    cases m with
    | update targets => exact absurd trivial h
    | insert targets | delete =>
      simp only [hmutation]
      rfl
  | delete rowid row =>
    change (ForeignChange.delete e rowid row).run (change, w) = _
    rw [ForeignChange.delete, Action.run_get_bind]
    cases m with
    | delete => exact absurd trivial h
    | insert targets | update targets =>
      simp only [hmutation]
      rfl

lemma gives_of_mem_params {m : Mutation} {columns : List HostColumn} {values : List HostValue}
    {rowid : Int64} (hcolumns : m.targets.map table.column? = columns.map some)
    (hvalues : m.targets.map (table.value? call.row) = values.map some)
    (hrowid : m.needsRowid = true → call.rowid? = some rowid) {p : Param}
    (hp : p ∈ m.params (columns.zip values) rowid) : call.Gives m table p := by
  have hcolumnsLength : columns.length = m.targets.length :=
    (length_eq_of_map_eq_map hcolumns).symm
  have hvaluesLength : values.length = m.targets.length := (length_eq_of_map_eq_map hvalues).symm
  have hlength : (columns.zip values).length = m.targets.length := by
    rw [List.length_zip, hcolumnsLength, hvaluesLength, min_self]
  rw [Mutation.params, List.mem_append] at hp
  rcases hp with hp | hp
  · obtain ⟨k, hk, rfl⟩ := List.mem_mapIdx.1 hp
    rw [hlength] at hk
    have hcolumn : some (table.column? m.targets[k]) = some (some columns[k]) := by
      have := congrArg (·[k]?) hcolumns
      simpa [hk, hcolumnsLength] using this
    have hvalue : some (table.value? call.row m.targets[k]) = some (some values[k]) := by
      have := congrArg (·[k]?) hvalues
      simpa [hk, hvaluesLength] using this
    rw [List.getElem_zip]
    exact .target (List.getElem?_eq_getElem hk) (Option.some.inj hcolumn) (Option.some.inj hvalue)
  · split at hp
    · rename_i hneeds
      obtain rfl := List.mem_singleton.1 hp
      rw [hlength]
      exact .key (hrowid hneeds)
    · cases hp

/-- A call that fits, for a row that is long enough, runs the statement with what it gives for the
placeholders. -/
lemma exists_params {columns : List HostColumn} (hserves : plan.Serves table columns)
    (hnew : ForeignChange.new plan table source = .ok planned) (hfits : call.Fits plan.mutation)
    (hlong : ¬call.Short table plan.mutation) :
    ∃ params : List Param, call.IsFor plan table params
      ∧ ∀ {σ κ : Type} (e : Engine σ κ τ) (state : ChangeState τ) (w : σ),
        (call.run e).run ({ planned with state }, w)
          = (executeRow e params call.row).run ({ planned with state }, w) := by
  obtain ⟨rowid, hrowid, hoperation⟩ := exists_run_eq hfits
  obtain ⟨planned', hnew', hrow⟩ := hserves.runs (τ := τ) source
  rw [hnew] at hnew'
  obtain rfl := Except.ok.inj hnew'
  have hplaces : ∀ n ∈ plan.mutation.targets, ∀ i, table.position? n = some i →
      i.val < call.row.length := by
    intro n hn i hposition
    by_contra hshort
    exact hlong ⟨n, hn, i, hposition, Nat.le_of_not_lt hshort⟩
  obtain ⟨values, hvalues, hindex, hrun⟩ := hrow call.row hplaces
  refine ⟨_, ⟨?_, ?_, fun p => gives_of_mem_params hserves.found hvalues hrowid⟩, ?_⟩
  · have hmap : (plan.mutation.params (columns.zip values) rowid).map (fun p => some p.index)
        = ((plan.mutation.params (columns.zip values) rowid).map Param.index).map some := by
      rw [List.map_map]
      rfl
    rw [hmap, hindex, hserves.placeholders]
  · rw [hindex]
    exact List.nodup_range'
  · intro σ κ e state w
    rw [hoperation]
    exact hrun e rowid state w

/-- A row that is too short is refused, for the first target that it has no value for. -/
lemma exists_run_of_short (hnew : ForeignChange.new plan table source = .ok planned)
    (hfits : call.Fits plan.mutation) (hshort : call.Short table plan.mutation) :
    ∃ place, ∀ {σ κ : Type} (e : Engine σ κ τ) (state : ChangeState τ) (w : σ),
      (call.run e).run ({ planned with state }, w)
        = (.error (.misuse (.missingValue place)), ({ planned with state }, w)) := by
  obtain ⟨targets, htargets, rfl⟩ := new_eq_ok hnew
  obtain ⟨n, hn, i, hposition, hlength⟩ := hshort
  have hnot : ¬∀ n ∈ plan.mutation.targets, ∀ i, table.position? n = some i →
      i.val < call.row.length := fun hlong =>
    Nat.not_lt_of_le hlength (hlong n hn i hposition)
  obtain ⟨fault, hparams⟩ := targetParams_of_short htargets hnot 1
  obtain ⟨place, rfl⟩ := targetParams_eq_error hparams
  have hdelete : plan.mutation ≠ .delete := by
    intro hdelete
    rw [hdelete] at hn
    cases hn
  obtain ⟨rowid, -, hoperation⟩ := exists_run_eq hfits
  refine ⟨place, fun e state w => ?_⟩
  rw [hoperation]
  exact Mutation.operation_run_of_error e ⟨plan, source, targets, state⟩ rfl hparams hdelete rowid w

lemma run_of_refused {columns : List HostColumn} (hserves : plan.Serves table columns)
    (hnew : ForeignChange.new plan table source = .ok planned) {state : ChangeState τ}
    (h : ¬call.Fits plan.mutation ∨ call.Short table plan.mutation
      ∨ isActive { planned with state } = false) :
    ∃ cause, ∀ {σ κ : Type} (e : Engine σ κ τ) (w : σ),
      (call.run e).run ({ planned with state }, w)
        = (.error (.misuse cause), ({ planned with state }, w)) := by
  by_cases hfits : call.Fits plan.mutation
  · by_cases hshort : call.Short table plan.mutation
    · obtain ⟨place, hrun⟩ := exists_run_of_short hnew hfits hshort
      exact ⟨_, fun e w => hrun e state w⟩
    · obtain ⟨params, -, hrun⟩ := exists_params hserves hnew hfits hshort
      have hinactive := (h.resolve_left (not_not.2 hfits)).resolve_left hshort
      refine ⟨.changeNotRunning, fun e w => ?_⟩
      rw [hrun, executeRow_run_of_not_began]
      rintro t rfl
      cases hinactive
  · obtain ⟨targets, htargets, rfl⟩ := new_eq_ok hnew
    exact ⟨_, fun e w => run_of_not_fits rfl hfits⟩

lemma IsFor.isHeld {params : List Param} (h : call.IsFor plan table params) {held : HeldValues}
    (hhold : held.Hold params) : call.IsHeld plan table held := by
  intro placeholder hplaceholder
  rw [← h.placeholders] at hplaceholder
  obtain ⟨p, hp, rfl⟩ := List.mem_map.1 hplaceholder
  obtain ⟨v, hcall, hheld⟩ := hhold p hp
  exact ⟨p, v, rfl, h.gives p hp, hcall, hheld⟩

end RowCall

/-! ### Calls -/

namespace ChangeCall

open ForeignChange

variable {σ κ τ : Type} {e : Engine σ κ τ} {table : HostTable} {source : TableSource}
  {plan : ChangePlan} {columns : List HostColumn}
  {planned change : ForeignChange τ} {call : ChangeCall} {state : ChangeState τ} {w : σ}
  {record : List Event}

lemma isEnded_iff : change.isEnded = true ↔ change.state = .ended := by
  unfold isEnded
  cases change.state <;> simp

lemma not_isActive_of_isEnded (h : change.isEnded = true) : change.isActive = false := by
  rw [isActive, statement?, isEnded_iff.1 h]
  rfl

lemma exists_run_eq (call : ChangeCall) (change : ForeignChange τ) (w : σ) :
    ∃ state w', ((call.run e).run (change, w)).2 = ({ change with state }, w') := by
  cases call with
  | begin explainOnly =>
    have hmoved : ∃ state w', ((ForeignChange.begin e explainOnly).run (change, w)).2
        = ({ change with state }, w') := by
      by_cases hplanned : change.state = .planned
      · cases explainOnly with
        | true =>
          rw [begin_run_of_explainOnly hplanned]
          exact ⟨change.state, w, rfl⟩
        | false =>
          rw [begin_run_of_planned hplanned, moving_run]
          split
          · exact ⟨_, _, rfl⟩
          · exact ⟨_, _, rfl⟩
      · rw [begin_run_of_not_planned hplanned]
        exact ⟨change.state, w, rfl⟩
    rw [run, Action.run_bind]
    rcases hbegin : (ForeignChange.begin e explainOnly).run (change, w) with ⟨fault | _, s⟩
      <;> rw [hbegin] at hmoved <;> exact hmoved
  | execute call =>
    obtain ⟨m, rowid, row, hrun⟩ : ∃ m rowid row, call.run e
        = (Mutation.operation m e rowid row : Action (ForeignChange τ × σ) _) := by
      cases call with
      | insert row => exact ⟨.insert [], 0, row, rfl⟩
      | update rowid row => exact ⟨.update [], rowid, row, rfl⟩
      | delete rowid row => exact ⟨.delete, rowid, row, rfl⟩
    rw [run, hrun]
    obtain ⟨params, hrun⟩ | ⟨fault, hrun⟩ := operation_run_cases e m rowid row change w
    · have hholds : Holds (fun _ => True) change change := ⟨rfl, fun _ _ => trivial⟩
      have hkeeps : RunsKeep e fun _ : τ => True := fun _ _ _ _ _ _ _ _ => trivial
      have hsame := (hholds.executeRow hkeeps params row w).same
      rw [hrun]
      exact ⟨_, _, Prod.ext hsame rfl⟩
    · rw [hrun]
      exact ⟨change.state, w, rfl⟩
  | finish => exact ⟨.ended, w, rfl⟩

section

variable (hserves : plan.Serves table columns)
  (hnew : ForeignChange.new plan table source = .ok planned)

include hserves hnew

lemma run_of_refused (h : call.RefusedBy table { planned with state }) :
    ∃ cause, ∀ {σ κ : Type} (e : Engine σ κ τ) (w : σ),
      (call.run e).run ({ planned with state }, w)
        = (.error (.misuse cause), ({ planned with state }, w)) := by
  cases call with
  | begin explainOnly =>
    refine ⟨.changeAlreadyBegan, fun e w => ?_⟩
    rw [run, Action.run_bind_of_error _ (begin_run_of_not_planned h explainOnly)]
  | execute call =>
    obtain ⟨targets, -, rfl⟩ := new_eq_ok hnew
    exact call.run_of_refused hserves hnew h
  | finish => cases h

lemma exists_params {call : RowCall} (h : ¬(execute call).RefusedBy table { planned with state }) :
    isActive { planned with state } = true
      ∧ ∃ params : List Param, call.IsFor plan table params
        ∧ ∀ {σ κ : Type} (e : Engine σ κ τ) (w : σ),
          (call.run e).run ({ planned with state }, w)
            = (executeRow e params call.row).run ({ planned with state }, w) := by
  obtain ⟨targets, -, rfl⟩ := new_eq_ok hnew
  rw [RefusedBy, not_or, not_or, Bool.not_eq_false] at h
  obtain ⟨hfits, hlong, hactive⟩ := h
  obtain ⟨params, hparams, hrun⟩ := call.exists_params hserves hnew (not_not.1 hfits) hlong
  exact ⟨hactive, params, hparams, fun e w => hrun e state w⟩

lemma isEnded_of_run_eq_error (h : ¬call.RefusedBy table { planned with state }) {fault : Fault}
    {s : ForeignChange τ × σ}
    (hrun : (call.run e).run ({ planned with state }, w) = (.error fault, s)) :
    s.1.isEnded = true := by
  cases call with
  | begin explainOnly =>
    have hplanned : state = .planned := not_not.1 h
    obtain hbegin | ⟨_, _, -, hreturn⟩ := Action.run_bind_eq_error hrun
    · cases explainOnly with
      | true =>
        rw [begin_run_of_explainOnly hplanned] at hbegin
        cases hbegin
      | false =>
        rw [begin_run_of_planned hplanned, moving_run] at hbegin
        split at hbegin
        · cases hbegin
        · cases hbegin
          rfl
    · cases hreturn
  | execute call =>
    obtain ⟨hactive, params, -, hexecute⟩ := exists_params hserves hnew h
    have hended := executeRow_run_eq_error hactive ((hexecute e w).symm.trans hrun)
    rw [hended]
    rfl
  | finish => cases hrun

lemma executed_of_run_eq_ok {call : RowCall} {result : Option HostRow} {s : ForeignChange τ × σ}
    (hrun : (call.run e).run ({ planned with state }, w) = (.ok result, s)) :
    s.1.isActive = true
      ∧ ∃ t params bound rows t₁ w₁ t', statement? { planned with state } = some t
        ∧ call.IsFor plan table params
        ∧ BindsAll e.bind (t, w) params bound ∧ e.StepsToEnd bound rows (t₁, w₁)
        ∧ e.reset.run (t₁, w₁) = (.ok (), (t', s.2)) ∧ s.1.statement? = some t'
        ∧ result = if e.changes t₁ > 0 then some call.row else none := by
  by_cases hrefused : (execute call).RefusedBy table { planned with state }
  · obtain ⟨cause, hrun'⟩ := run_of_refused hserves hnew hrefused
    cases hrun.symm.trans (hrun' e w)
  · obtain ⟨-, params, hparams, hexecute⟩ := exists_params hserves hnew hrefused
    obtain ⟨t, t', count, hstate, honce, hs, hresult⟩ :=
      executeRow_run_eq_ok ((hexecute e w).symm.trans hrun)
    obtain ⟨bound, rows, t₁, w₁, hbind, hrows, hreset, rfl⟩ := runOnce_run_eq_ok honce
    have hstatement : statement? { planned with state } = some t := by rw [statement?, hstate]
    refine ⟨by rw [hs]; rfl, t, params, bound, rows, t₁, w₁, t', hstatement, hparams, hbind, hrows,
      hreset, ?_, hresult⟩
    rw [hs]
    rfl

lemma run_of_isEnded (h : isEnded { planned with state } = true) :
    ((call.run e).run ({ planned with state }, w)).2 = ({ planned with state }, w) := by
  cases call with
  | begin explainOnly =>
    have hrefused : RefusedBy table { planned with state } (begin explainOnly) := by
      rw [RefusedBy, isEnded_iff.1 h]
      exact nofun
    obtain ⟨cause, hrun⟩ := run_of_refused hserves hnew hrefused
    rw [hrun]
  | execute call =>
    have hrefused : RefusedBy table { planned with state } (execute call) :=
      .inr (.inr (not_isActive_of_isEnded h))
    obtain ⟨cause, hrun⟩ := run_of_refused hserves hnew hrefused
    rw [hrun]
  | finish =>
    have hstate : state = .ended := isEnded_iff.1 h
    rw [hstate]
    rfl

lemma safe (e : Engine σ κ τ) (call : ChangeCall) (state : ChangeState τ) (w : σ) :
    call.Safe e table ({ planned with state }, w) where
  refused h := by
    obtain ⟨cause, hrun⟩ := run_of_refused hserves hnew h
    exact ⟨cause, hrun e w⟩
  failed h _ _ := isEnded_of_run_eq_error hserves hnew h
  executed rowCall hcall result s' hrun := by
    subst hcall
    obtain ⟨targets, -, rfl⟩ := new_eq_ok hnew
    exact executed_of_run_eq_ok hserves hnew hrun
  ended := run_of_isEnded hserves hnew
  finished hcall := by
    subst hcall
    exact ⟨rfl, rfl⟩

lemma records_run (call : ChangeCall) (state : ChangeState τ) (w : σ) (record : List Event) :
    Action.Records beside
      (Request.StepsWith fun held =>
        ∃ rowCall, call = execute rowCall ∧ rowCall.IsHeld plan table held)
      (call.run e.recorded) (call.run e) ({ planned with state }, w) record := by
  cases call with
  | begin explainOnly =>
    refine Action.Records.bind ?_ fun _ _ _ _ _ => Action.records_pure none
    refine (records_begin explainOnly).mono fun request hnone held hstep => ?_
    exact absurd (hnone held hstep) id
  | execute call =>
    by_cases hrefused : (execute call).RefusedBy table { planned with state }
    · obtain ⟨cause, hrun⟩ := run_of_refused hserves hnew hrefused
      exact Action.records_of_unchanged (hrun e.recorded (w, record)) (hrun e w)
    · obtain ⟨-, params, hparams, hrun⟩ := exists_params hserves hnew hrefused
      have hrecords := records_executeRow (e := e) hparams.index { planned with state } call.row w record
      refine Action.Records.mono (hrecords.congr (hrun e.recorded (w, record)) (hrun e w)) ?_
      intro request hheld held hstep
      exact ⟨call, rfl, hparams.isHeld (hheld held hstep)⟩
  | finish => exact Action.records_of_run_eq rfl

lemma events_eq_nil_of_notes {events : List Event}
    (h : Action.Notes beside (call.run e.recorded) (call.run e) ({ planned with state }, w) record
      events)
    (hrefused : call.RefusedBy table { planned with state }) : events = [] := by
  obtain ⟨cause, hrun⟩ := run_of_refused hserves hnew hrefused
  have hnotes := h.run
  rw [hrun e.recorded (w, record), hrun e w] at hnotes
  have hrecord : record = record ++ events := congrArg (fun result => result.2.2.2) hnotes
  exact List.append_right_eq_self.1 hrecord.symm

/-- A request that fails makes the call fail and ends the change. -/
lemma isEnded_of_notes {events : List Event}
    (h : Action.Notes beside (call.run e.recorded) (call.run e) ({ planned with state }, w) record
      events) {event : Event} (hevent : event ∈ events) (hfailed : event.succeeded = false) :
    (∃ fault, ((call.run e).run ({ planned with state }, w)).1 = .error fault)
      ∧ ((call.run e).run ({ planned with state }, w)).2.1.isEnded = true := by
  rcases hrun : (call.run e).run ({ planned with state }, w) with ⟨fault | result, s⟩
  · refine ⟨⟨fault, rfl⟩, isEnded_of_run_eq_error hserves hnew (fun hrefused => ?_) hrun⟩
    rw [events_eq_nil_of_notes hserves hnew h hrefused] at hevent
    cases hevent
  · have hsucceeded := h.heeds (by rw [hrun]; rfl) event hevent
    rw [hfailed] at hsucceeded
    cases hsucceeded

lemma exists_asks (e : Engine σ κ τ) (call : ChangeCall) (state : ChangeState τ) (w : σ)
    (record : List Event) :
    ∃ events, call.Asks e table ({ planned with state }, w) record events := by
  obtain ⟨events, hnotes, hheld⟩ := records_run hserves hnew (e := e) call state w record
  refine ⟨events, hnotes, events_eq_nil_of_notes hserves hnew hnotes, ?_, ?_⟩
  · rintro ⟨event, hevent, hfailed⟩
    exact isEnded_of_notes hserves hnew hnotes hevent hfailed
  · obtain ⟨targets, -, rfl⟩ := new_eq_ok hnew
    exact hheld

/-- What holds of each call holds along all calls: only the state changes. -/
lemma exists_runAll_eq (e : Engine σ κ τ) (calls : List ChangeCall) (state : ChangeState τ) (w : σ)
    (record : List Event) :
    ∃ state' w' record',
      runAll e calls ({ planned with state }, w) = ({ planned with state := state' }, w')
      ∧ runAll e.recorded calls ({ planned with state }, (w, record))
        = ({ planned with state := state' }, (w', record')) := by
  induction calls generalizing state w record with
  | nil => exact ⟨state, w, record, rfl, rfl⟩
  | cons call calls ih =>
    obtain ⟨events, hasks⟩ := exists_asks hserves hnew e call state w record
    obtain ⟨state₁, w₁, hcall⟩ := exists_run_eq (e := e) call { planned with state } w
    obtain ⟨state', w', record', hrun, hrun'⟩ := ih state₁ w₁ (record ++ events)
    refine ⟨state', w', record', ?_, ?_⟩
    · rw [runAll, List.foldl_cons, hcall]
      exact hrun
    · have hnotes := hasks.notes.run
      rw [hcall] at hnotes
      change (call.run e.recorded).run ({ planned with state }, (w, record)) = _ at hnotes
      rw [runAll, List.foldl_cons, hnotes]
      exact hrun'

lemma runAll_of_isEnded (calls : List ChangeCall) (h : isEnded { planned with state } = true) :
    runAll e calls ({ planned with state }, w) = ({ planned with state }, w) := by
  induction calls with
  | nil => rfl
  | cons call calls ih =>
    rw [runAll, List.foldl_cons, run_of_isEnded hserves hnew h]
    exact ih

end

end ChangeCall

/-- A change may be called on in any order, and whatever the engine responds: a call that does not
fit is refused and changes nothing, and any other failure ends the change, for good. Each step of
its statement is taken with the values of the row it is for, and a run that succeeds gives this row
back if something has been changed. -/
theorem ForeignChange.safe_and_isolated {σ κ τ : Type} (e : Engine σ κ τ) {m : Mutation}
    {table : HostTable} {source : TableSource} {plan : ChangePlan}
    (hplan : m.plan table source.table = .ok plan) :
    ∃ planned : ForeignChange τ, ForeignChange.new plan table source = .ok planned
      ∧ ∀ (w : σ) (calls : List ChangeCall),
        let s := ChangeCall.runAll e calls (planned, w)
        (s.1.isEnded = true → ∀ more, ChangeCall.runAll e more s = s)
          ∧ (∀ call, ChangeCall.Safe e table call s)
          ∧ ∃ record, ChangeCall.runAll e.recorded calls (planned, (w, [])) = beside s record
            ∧ ∀ call, ∃ events, ChangeCall.Asks e table call s record events := by
  obtain ⟨columns, hserves⟩ := Mutation.exists_serves hplan
  obtain ⟨planned, hnew, -⟩ := hserves.runs (τ := τ) source
  refine ⟨planned, hnew, fun w calls => ?_⟩
  obtain ⟨state, w', record, hrun, hrun'⟩ :=
    ChangeCall.exists_runAll_eq hserves hnew e calls planned.state w []
  change ChangeCall.runAll e calls (planned, w) = _ at hrun
  simp only [hrun]
  exact ⟨fun hended more => ChangeCall.runAll_of_isEnded hserves hnew more hended,
    fun call => ChangeCall.safe hserves hnew e call state w', record, hrun',
    fun call => ChangeCall.exists_asks hserves hnew e call state w' record⟩

/-- An engine that takes everything, and whose changes touch one row each. -/
def agreeable : Engine Unit Unit Unit where
  connect _ _ := pure ()
  prepare _ _ := pure ()
  bind _ := pure ()
  clearBindings := pure ()
  step := pure .done
  reset := pure ()
  width _ := 0
  row _ := []
  changes _ := 1
  estimate _ := .error (.noEstimate "")
  rowsLeft _ := 0
  besides _ w := w

def markedSource : TableSource where
  database := "goods.db"
  table := "old \"goods\""
  policy := .error

def markedRow : HostRow :=
  [some (.int8 7), some (.text "tea"), none]

/-- Marked goods are changed, and a row that is too short is refused behind that. -/
theorem ForeignChange.safe_and_isolated_markedGoods :
    ∃ plan, (Mutation.update [3, 2]).plan markedGoods markedSource.table = .ok plan
      ∧ ∃ planned : ForeignChange Unit,
        ForeignChange.new plan markedGoods markedSource = .ok planned
          ∧ ((RowCall.update 7 markedRow).run agreeable).run
              (ChangeCall.runAll agreeable [.begin false] (planned, ()))
            = (.ok (some markedRow), ChangeCall.runAll agreeable [.begin false] (planned, ()))
          ∧ ∃ record, ChangeCall.runAll agreeable.recorded
              [.begin false, .execute (.update 7 markedRow), .execute (.update 8 [])]
              (planned, ((), []))
            = beside (ChangeCall.runAll agreeable [.begin false] (planned, ())) record := by
  have hplan : (Mutation.update [3, 2]).plan markedGoods markedSource.table = .ok _ := rfl
  obtain ⟨planned, hnew, hcalls⟩ := ForeignChange.safe_and_isolated agreeable hplan
  refine ⟨_, hplan, planned, hnew, ?_⟩
  obtain rfl : planned = _ := (Except.ok.inj hnew).symm
  obtain ⟨-, -, record, hrun, -⟩ :=
    hcalls () [.begin false, .execute (.update 7 markedRow), .execute (.update 8 [])]
  exact ⟨rfl, record, hrun⟩

end ForeignData
