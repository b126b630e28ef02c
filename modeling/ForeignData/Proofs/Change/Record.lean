import ForeignData.Proofs.Change.Steps
import ForeignData.Proofs.Engine.Record
import ForeignData.Proofs.Stored.ParameterOrder

/-!
# What a change asks for

On a recorded engine a change does what it does on the engine itself, and all that it asks for is in
the record. Each run of its statement binds all parameters before it steps. Nothing takes a value
away from a placeholder, so that at each step the placeholders of the parameters hold their values,
whatever they have held before.
-/

namespace ForeignData

/-- The placeholders of parameters hold their values. -/
def HeldValues.Hold (held : HeldValues) (params : List Param) : Prop :=
  ∀ p ∈ params, ∃ v, p.call = .ok ⟨p.index, v⟩ ∧ held p.index = some v

/-- Whether the values are right if a step is asked for. -/
def Request.StepsWith (good : HeldValues → Prop) (request : Request) : Prop :=
  ∀ held, request = step held → good held

/-! ### Binding -/

def bindEvent (asked : Except Fault Unit × BindCall) : Event :=
  ⟨.bind asked.2, asked.1.isOk⟩

section Binding

variable {σ κ τ : Type} {e : Engine σ κ τ} {record : List Event} {params : List Param}

lemma heldValues_append_bind (record : List Event) (call : BindCall) :
    heldValues (record ++ [bindEvent (.ok (), call)])
      = Function.update (heldValues record) call.index (some call.value) :=
  heldValues_append record _

/-- Bindings leave the other placeholders as they are. -/
lemma heldValues_append_of_not_mem {calls : List BindCall} {i : Nat}
    (hi : i ∉ calls.map BindCall.index) (record : List Event) :
    heldValues (record ++ (calls.map (Except.ok (), ·)).map bindEvent) i
      = heldValues record i := by
  induction calls generalizing record with
  | nil => rw [List.map_nil, List.map_nil, List.append_nil]
  | cons call calls ih =>
    rw [List.map_cons, List.mem_cons, not_or] at hi
    rw [List.map_cons, List.map_cons, List.append_cons, ih hi.2, heldValues_append_bind,
      Function.update_of_ne hi.1]

lemma index_of_map_call {calls : List BindCall} (h : params.map Param.call = calls.map .ok) :
    calls.map BindCall.index = params.map Param.index := by
  induction params generalizing calls with
  | nil =>
    cases calls with
    | nil => rfl
    | cons => cases h
  | cons p params ih =>
    cases calls with
    | nil => cases h
    | cons call calls =>
      obtain ⟨hcall, hcalls⟩ := List.cons.inj h
      rw [List.map_cons, List.map_cons, ih hcalls, Param.index_of_call hcall]

/-- What is bound stays, as what is bound later is bound to other placeholders. -/
lemma hold_append_of_map_call {calls : List BindCall}
    (h : params.map Param.call = calls.map .ok) (hindex : (params.map Param.index).Nodup)
    (record : List Event) :
    (heldValues (record ++ (calls.map (Except.ok (), ·)).map bindEvent)).Hold params := by
  induction params generalizing calls record with
  | nil => exact List.forall_mem_nil _
  | cons p params ih =>
    cases calls with
    | nil => cases h
    | cons call calls =>
      obtain ⟨hcall, hcalls⟩ := List.cons.inj h
      obtain ⟨hfirst, hrest⟩ := List.nodup_cons.1 hindex
      have hcallIndex := Param.index_of_call hcall
      rw [List.map_cons, List.map_cons, List.append_cons]
      refine List.forall_mem_cons.2 ⟨⟨call.value, ?_, ?_⟩, ih hcalls hrest _⟩
      · rw [hcall, ← hcallIndex]
      · rw [heldValues_append_of_not_mem (by rw [index_of_map_call hcalls]; exact hfirst),
          heldValues_append_bind, ← hcallIndex, Function.update_self]

/-- The bindings of parameters are asked for in their order, up to the first that is not bound. -/
lemma exists_notes_bindParams (params : List Param) (s : τ × σ) (record : List Event) :
    ∃ asked, BindsInOrder params ((bindParams e.bind params).run s).1 asked
      ∧ Action.Notes beside (bindParams e.recorded.bind params) (bindParams e.bind params) s record
        (asked.map bindEvent) := by
  obtain ⟨asked, horder, hrun⟩ := @exists_bindsInOrder_of_noting _ _ _ beside bindEvent e.bind
    e.recorded.bind (fun _ _ _ => rfl) params s record
  refine ⟨asked, horder, hrun, fun hok => ?_⟩
  generalize ((bindParams e.bind params).run s).1 = result at horder hok
  cases horder with
  | all hcalls =>
    rw [List.forall_mem_map, List.forall_mem_map]
    exact fun _ _ => rfl
  | refused | failed => cases hok

/-! ### Stepping -/

lemma heldValues_append_of_steps {events : List Event}
    (h : ∀ event ∈ events, ∃ held, event.request = .step held) (record : List Event) :
    heldValues (record ++ events) = heldValues record := by
  rw [heldValues_append]
  generalize heldValues record = held
  induction events generalizing held with
  | nil => rfl
  | cons event events ih =>
    obtain ⟨⟨held', hrequest⟩, hevents⟩ := List.forall_mem_cons.1 h
    have hsame : held.after event = held := by
      rw [HeldValues.after, hrequest]
    rw [List.foldl_cons, hsame, ih hevents]

lemma records_takeRows (n : Nat) (s : τ × σ) (record : List Event) {held : HeldValues}
    (h : heldValues record = held) :
    Action.Records beside (· = .step held) (e.recorded.takeRows n) (e.takeRows n) s record := by
  induction n generalizing s record with
  | zero => exact Action.records_throw _
  | succ n ih =>
    refine Action.Records.bind (e.records_step (by rw [h])) fun result s' events _ hevents => ?_
    have hsame := heldValues_append_of_steps (fun event hevent => ⟨held, hevents event hevent⟩)
      record
    cases result with
    | done => exact Action.records_pure []
    | row =>
      refine Action.records_get_bind ?_
      exact (ih s' _ (hsame.trans h)).bind fun rows _ _ _ _ => Action.records_pure _

lemma records_allRows (s : τ × σ) (record : List Event) :
    Action.Records beside (· = .step (heldValues record)) e.recorded.allRows e.allRows s
      record := by
  have hrows := records_takeRows (e := e) (e.rowsLeft s + 1) s record rfl
  exact Action.records_get_bind hrows

end Binding

/-! ### Calls -/

/-- An action binds parameters in their order before anything else. Once they are bound it takes
steps, with the values that are held by then, and rewinds; if one of them is not bound the action
asks for nothing more and fails for that. -/
structure Action.BindsFirst {S S' α : Type} (pair : S → List Event → S') (x' : Action S' α)
    (x : Action S α) (s : S) (record : List Event) (params : List Param)
    (result : Except Fault Unit) (asked : List (Except Fault Unit × BindCall))
    (rest : List Event) : Prop where
  inOrder : BindsInOrder params result asked
  notes : Notes pair x' x s record (asked.map bindEvent ++ rest)
  goesOn : ∀ event ∈ rest, event.request = .reset
    ∨ event.request = .step (heldValues (record ++ asked.map bindEvent))
  fails : ∀ fault, result = .error fault → rest = [] ∧ (x.run s).1 = .error fault

namespace Action.BindsFirst

variable {S S' α β : Type} {pair : S → List Event → S'} {x' : Action S' α} {x : Action S α} {s : S}
  {record : List Event} {params : List Param} {result : Except Fault Unit}
  {asked : List (Except Fault Unit × BindCall)} {rest : List Event}

/-- The placeholders of the parameters hold their values at each step. -/
lemma records (h : BindsFirst pair x' x s record params result asked rest)
    (hindex : (params.map Param.index).Nodup) :
    Records pair (Request.StepsWith (·.Hold params)) x' x s record := by
  refine ⟨_, h.notes, List.forall_mem_append.2 ⟨?_, fun event hevent => ?_⟩⟩
  · rw [List.forall_mem_map]
    rintro call - held ⟨⟩
  · rintro held hstep
    rcases h.goesOn event hevent with hreset | hheld
    · cases hreset.symm.trans hstep
    · obtain rfl := Request.step.inj (hheld.symm.trans hstep)
      obtain ⟨horder, -, -, hfails⟩ := h
      cases horder with
      | all hcalls => exact hold_append_of_map_call hcalls hindex record
      | refused | failed =>
        obtain ⟨rfl, -⟩ := hfails _ rfl
        cases hevent

lemma congr {y' : Action S' α} {y : Action S α}
    (h : BindsFirst pair y' y s record params result asked rest)
    (hrun' : x'.run (pair s record) = y'.run (pair s record)) (hrun : x.run s = y.run s) :
    BindsFirst pair x' x s record params result asked rest where
  inOrder := h.inOrder
  notes := h.notes.congr hrun' hrun
  goesOn := h.goesOn
  fails fault hfault := by
    rw [hrun]
    exact h.fails fault hfault

/-- What is done with a result asks for nothing more. -/
lemma bind_pure (h : BindsFirst pair x' x s record params result asked rest) (f : α → β) :
    BindsFirst pair (x' >>= fun a => pure (f a)) (x >>= fun a => pure (f a)) s record params result
      asked rest where
  inOrder := h.inOrder
  notes := h.notes.bind_pure f
  goesOn := h.goesOn
  fails fault hfault := by
    obtain ⟨hrest, hrun⟩ := h.fails fault hfault
    rw [run_bind_pure, hrun]
    exact ⟨hrest, rfl⟩

end Action.BindsFirst

namespace ForeignChange

variable {σ κ τ : Type} {e : Engine σ κ τ} {change : ForeignChange τ} {w : σ} {record : List Event}
  {R : Request → Prop} {params : List Param}

lemma exists_bindsFirst_runOnce (params : List Param) (s : τ × σ) (record : List Event) :
    ∃ result asked rest, Action.BindsFirst beside (runOnce e.recorded params) (runOnce e params) s
      record params result asked rest := by
  obtain ⟨asked, horder, hnotes⟩ := exists_notes_bindParams (e := e) params s record
  rcases hrun : (bindParams e.bind params).run s with ⟨fault | _, s'⟩ <;> rw [hrun] at horder
  · refine ⟨_, asked, [], horder, ?_, List.forall_mem_nil _, ?_⟩
    · rw [List.append_nil]
      exact hnotes.bind_of_error hrun
    · rintro _ ⟨⟩
      rw [runOnce, Action.run_bind_of_error _ hrun]
      exact ⟨rfl, rfl⟩
  · have hrest : Action.Records beside (fun request => request = .reset
          ∨ request = .step (heldValues (record ++ asked.map bindEvent)))
        (do
          let _ ← e.recorded.allRows
          let changed := e.recorded.changes (← get).1
          e.recorded.reset
          return changed)
        (do
          let _ ← e.allRows
          let changed := e.changes (← get).1
          e.reset
          return changed) s' (record ++ asked.map bindEvent) := by
      refine Action.Records.bind ?_ fun rows s₁ _ _ _ => Action.records_get_bind ?_
      · exact (records_allRows s' _).mono fun request => .inr
      · exact (e.records_reset (.inl rfl)).bind fun _ _ _ _ _ => Action.records_pure _
    obtain ⟨rest, hnotes', hrest⟩ := hrest
    exact ⟨_, asked, rest, horder, hnotes.bind_of_ok hrun hnotes', hrest, nofun⟩

lemma notes_moving {S S' α : Type} {pair : S → List Event → S'} {action : Action S (α × τ)}
    {action' : Action S' (α × τ)} {s : S} {events : List Event}
    (h : Action.Notes pair action' action s record events) (change : ForeignChange τ) :
    Action.Notes (fun s record => (s.1, pair s.2 record)) (moving action') (moving action)
      (change, s) record events := by
  obtain ⟨hrun', hheeds⟩ := h
  rcases hrun : action.run s with ⟨fault | ⟨a, t⟩, s'⟩ <;> rw [hrun] at hrun' hheeds
  · constructor
    · rw [moving_run, moving_run, hrun', hrun]
    · rw [moving_run, hrun]
      exact nofun
  · constructor
    · rw [moving_run, moving_run, hrun', hrun]
    · exact fun _ => hheeds rfl

lemma exists_bindsFirst_executeRow {t : τ} (hstate : change.state = .began t)
    (params : List Param) (row : HostRow) (w : σ) (record : List Event) :
    ∃ result asked rest, Action.BindsFirst beside (executeRow e.recorded params row)
      (executeRow e params row) (change, w) record params result asked rest := by
  obtain ⟨result, asked, rest, horder, hnotes, hrest, hfails⟩ :=
    exists_bindsFirst_runOnce (e := e) params (t, w) record
  have hexecute {σ κ : Type} (e : Engine σ κ τ) (w : σ) : (execute e params).run (change, w)
      = (moving (Action.holding t (runOnce e params))).run (change, w) := by
    rw [execute, Action.run_get_bind]
    simp only [hstate]
  have hmoving : Action.Notes beside (execute e.recorded params) (execute e params) (change, w)
      record (asked.map bindEvent ++ rest) :=
    (notes_moving hnotes.holding change).congr (hexecute e.recorded (w, record)) (hexecute e w)
  have hbinds : Action.BindsFirst beside (execute e.recorded params) (execute e params) (change, w)
      record params result asked rest := by
    refine ⟨horder, hmoving, hrest, fun fault hfault => ?_⟩
    obtain ⟨hnone, hrun⟩ := hfails fault hfault
    refine ⟨hnone, ?_⟩
    rw [hexecute e w, moving_run, Action.run_holding]
    rcases hfailed : (runOnce e params).run (t, w) with ⟨_ | _, _⟩ <;> rw [hfailed] at hrun <;>
      cases hrun
    rfl
  exact ⟨result, asked, rest, hbinds.bind_pure fun changed => if changed > 0 then some row else none⟩

lemma records_executeRow (hindex : (params.map Param.index).Nodup) (change : ForeignChange τ)
    (row : HostRow) (w : σ) (record : List Event) :
    Action.Records beside (Request.StepsWith (·.Hold params)) (executeRow e.recorded params row)
      (executeRow e params row) (change, w) record := by
  cases hstate : change.state with
  | began t =>
    obtain ⟨_, _, _, hbinds⟩ := exists_bindsFirst_executeRow (e := e) hstate params row w record
    exact hbinds.records hindex
  | planned | ended =>
    have hnot : ∀ t, change.state ≠ .began t := by
      rintro t hbegan
      cases hstate.symm.trans hbegan
    exact Action.records_of_unchanged (executeRow_run_of_not_began hnot row)
      (executeRow_run_of_not_began hnot row)

lemma records_begin (explainOnly : Bool) :
    Action.Records beside (Request.StepsWith fun _ => False) (begin e.recorded explainOnly)
      (begin e explainOnly) (change, w) record := by
  refine Action.records_get_bind ?_
  cases hstate : change.state with
  | planned =>
    simp only [hstate]
    cases explainOnly with
    | true => exact Action.records_pure ()
    | false =>
      have hopens : Action.Records Prod.mk (Request.StepsWith fun _ => False)
          (do
            let connection ← e.recorded.connect .readWrite change.source.database
            return ((), ← e.recorded.prepare connection change.plan.query))
          (do
            let connection ← e.connect .readWrite change.source.database
            return ((), ← e.prepare connection change.plan.query)) w record := by
        refine Action.Records.bind (e.records_connect (by rintro held ⟨⟩))
          fun connection w' _ _ _ => ?_
        exact (e.records_prepare (by rintro held ⟨⟩)).bind fun t _ _ _ _ => Action.records_pure _
      obtain ⟨events, hnotes, hevents⟩ := hopens
      exact ⟨events, notes_moving hnotes change, hevents⟩
  | began t | ended =>
    simp only [hstate]
    exact Action.records_throw _

end ForeignChange

end ForeignData
