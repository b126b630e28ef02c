import ForeignData.Proofs.Action
import Mathlib.Logic.Function.Basic

/-!
# Recorded engines

An engine that does what another one does, and keeps a record of all that it is asked for, with how
it went. The record tells which values the placeholders of a statement hold when it is stepped: to
bind one puts a value in the place of the last, to clear them leaves none, as on a statement that
has just been prepared, and to step or to rewind changes none.
-/

namespace ForeignData

/-- The values that the placeholders of a statement hold, by index. -/
abbrev HeldValues := Nat → Option BoundValue

/-- What an engine is asked for. -/
inductive Request where
  | connect (mode : OpenMode) (path : String)
  | prepare (query : String)
  | bind (call : BindCall)
  | clearBindings
  /-- A step, with the values that the placeholders hold when it is taken. -/
  | step (held : HeldValues)
  | reset

/-- A request with its outcome. -/
structure Event where
  request : Request
  succeeded : Bool

/-- Whether a database is to be opened. -/
def Request.isConnect : Request → Bool
  | connect .. => true
  | _ => false

/-- How often a database has been opened, or tried to be opened. -/
def openings (record : List Event) : Nat :=
  record.countP fun event => event.request.isConnect

lemma openings_append_of_forall {events : List Event}
    (h : ∀ event ∈ events, event.request.isConnect = false) (record : List Event) :
    openings (record ++ events) = openings record := by
  have hnone : openings events = 0 := by
    rw [openings, List.countP_eq_zero]
    intro event hevent
    rw [h event hevent]
    exact Bool.false_ne_true
  rw [openings, List.countP_append]
  exact congrArg _ hnone

def HeldValues.after (held : HeldValues) (event : Event) : HeldValues :=
  match event.request, event.succeeded with
  | .prepare _, true | .clearBindings, true => fun _ => none
  | .bind call, true => Function.update held call.index (some call.value)
  | _, _ => held

/-- The values that the placeholders hold at the end of a record. -/
def heldValues (record : List Event) : HeldValues :=
  record.foldl HeldValues.after fun _ => none

lemma heldValues_append (record events : List Event) :
    heldValues (record ++ events) = events.foldl HeldValues.after (heldValues record) :=
  List.foldl_append

/-- A world with a record, beside something that is not recorded. -/
abbrev beside {σ τ : Type} (s : τ × σ) (record : List Event) : τ × (σ × List Event) :=
  (s.1, (s.2, record))

/-! ### Recording -/

namespace Action

variable {σ τ α : Type}

/-- Note a request with the outcome of an action. -/
def noting (request : Request) (action : Action σ α) : Action (σ × List Event) α :=
  fun (w, record) =>
    let (result, w) := action.run w
    (result, (w, record ++ [⟨request, result.isOk⟩]))

/-- Note a request with the outcome of an action on a statement. -/
def notingOn (request : List Event → Request) (action : Action (τ × σ) α) :
    Action (τ × (σ × List Event)) α :=
  fun (t, (w, record)) =>
    let (result, s) := action.run (t, w)
    (result, beside s (record ++ [⟨request record, result.isOk⟩]))

def unnoted (action : Action σ α) : Action (σ × List Event) α :=
  fun (w, record) =>
    let (result, w) := action.run w
    (result, (w, record))

end Action

/-- The same evaluator in a world with a record. -/
def Evaluator.unnoted {σ : Type} (evaluator : Evaluator σ) : Evaluator (σ × List Event) where
  types := evaluator.types
  evaluate i := (evaluator.evaluate i).unnoted

/-- The same engine in a world with a record of all that it is asked for. -/
def Engine.recorded {σ κ τ : Type} (e : Engine σ κ τ) : Engine (σ × List Event) κ τ where
  connect mode path := (e.connect mode path).noting (.connect mode path)
  prepare connection query := (e.prepare connection query).noting (.prepare query)
  bind call := (e.bind call).notingOn fun _ => .bind call
  clearBindings := e.clearBindings.notingOn fun _ => .clearBindings
  step := e.step.notingOn fun record => .step (heldValues record)
  reset := e.reset.notingOn fun _ => .reset
  width := e.width
  row := e.row
  changes := e.changes
  estimate := e.estimate
  rowsLeft s := e.rowsLeft (s.1, s.2.1)
  besides others w := (e.besides others w.1, w.2)

/-! ### What an action asks for -/

namespace Action

variable {S S' σ τ α β : Type} {pair : S → List Event → S'} {R : Request → Prop}
  {x y : Action S α} {x' y' : Action S' α} {s : S} {record events : List Event}

/-- An action does what another one does, beside a record to which some events are added. It
succeeds only if each of them has. -/
structure Notes (pair : S → List Event → S') (x' : Action S' α) (x : Action S α) (s : S)
    (record events : List Event) : Prop where
  run : x'.run (pair s record) = ((x.run s).1, pair (x.run s).2 (record ++ events))
  heeds : (x.run s).1.isOk = true → ∀ event ∈ events, event.succeeded = true

/-- An action does what another one does, beside a record, and asks for nothing that is not
wanted. -/
def Records (pair : S → List Event → S') (R : Request → Prop) (x' : Action S' α) (x : Action S α)
    (s : S) (record : List Event) : Prop :=
  ∃ events, Notes pair x' x s record events ∧ ∀ event ∈ events, R event.request

/-! #### One action -/

lemma Notes.congr (h : Notes pair y' y s record events)
    (hrun' : x'.run (pair s record) = y'.run (pair s record)) (hrun : x.run s = y.run s) :
    Notes pair x' x s record events :=
  ⟨by rw [hrun', hrun, h.run], by rw [hrun]; exact h.heeds⟩

lemma Records.congr (h : Records pair R y' y s record)
    (hrun' : x'.run (pair s record) = y'.run (pair s record)) (hrun : x.run s = y.run s) :
    Records pair R x' x s record := by
  obtain ⟨events, hnotes, hevents⟩ := h
  exact ⟨events, hnotes.congr hrun' hrun, hevents⟩

lemma Records.mono {R' : Request → Prop} (h : Records pair R x' x s record)
    (hR : ∀ request, R request → R' request) : Records pair R' x' x s record := by
  obtain ⟨events, hnotes, hevents⟩ := h
  exact ⟨events, hnotes, fun event hevent => hR _ (hevents event hevent)⟩

/-- An action that leaves the record alone asks for nothing. -/
lemma notes_of_run_eq (h : x'.run (pair s record) = ((x.run s).1, pair (x.run s).2 record)) :
    Notes pair x' x s record [] :=
  ⟨by rw [h, List.append_nil], fun _ => List.forall_mem_nil _⟩

lemma records_of_run_eq (h : x'.run (pair s record) = ((x.run s).1, pair (x.run s).2 record)) :
    Records pair R x' x s record :=
  ⟨[], notes_of_run_eq h, List.forall_mem_nil _⟩

/-- Two actions that respond the same and change nothing. -/
lemma records_of_unchanged {result : Except Fault α} (h' : x'.run (pair s record)
    = (result, pair s record)) (h : x.run s = (result, s)) : Records pair R x' x s record :=
  records_of_run_eq (by rw [h, h'])

lemma records_pure (a : α) : Records pair R (pure a) (pure a) s record :=
  records_of_run_eq rfl

lemma records_throw (fault : Fault) :
    Records pair R (throw fault : Action S' α) (throw fault) s record :=
  records_of_run_eq rfl

lemma records_ofExcept (result : Except Fault α) :
    Records pair R (ofExcept result) (ofExcept result) s record :=
  records_of_run_eq rfl

/-- An action that is noted asks for one thing. -/
lemma notes_noting (x : Action σ α) (request : Request) (w : σ) (record : List Event) :
    Notes Prod.mk (x.noting request) x w record [⟨request, (x.run w).1.isOk⟩] :=
  ⟨rfl, fun hok => List.forall_mem_singleton.2 hok⟩

lemma notes_notingOn (x : Action (τ × σ) α) (request : List Event → Request) (s : τ × σ)
    (record : List Event) : Notes beside (x.notingOn request) x s record
      [⟨request record, (x.run s).1.isOk⟩] :=
  ⟨rfl, fun hok => List.forall_mem_singleton.2 hok⟩

/-! #### One action after the other -/

lemma Notes.bind_of_error {f : α → Action S β} {f' : α → Action S' β}
    (h : Notes pair x' x s record events) {fault : Fault} {s' : S}
    (hrun : x.run s = (.error fault, s')) : Notes pair (x' >>= f') (x >>= f) s record events := by
  have hrun' := h.run
  rw [hrun] at hrun'
  constructor
  · rw [run_bind_of_error _ hrun', run_bind_of_error _ hrun]
  · rw [run_bind_of_error _ hrun]
    exact nofun

lemma Notes.bind_of_ok {f : α → Action S β} {f' : α → Action S' β}
    (h : Notes pair x' x s record events) {a : α} {s' : S} (hrun : x.run s = (.ok a, s'))
    {events' : List Event} (hf : Notes pair (f' a) (f a) s' (record ++ events) events') :
    Notes pair (x' >>= f') (x >>= f) s record (events ++ events') := by
  have hrun' := h.run
  have hheeds := h.heeds
  rw [hrun] at hrun' hheeds
  constructor
  · rw [run_bind_of_ok _ hrun', run_bind_of_ok _ hrun, hf.run, List.append_assoc]
  · rw [run_bind_of_ok _ hrun]
    exact fun hok => List.forall_mem_append.2 ⟨hheeds rfl, hf.heeds hok⟩

/-- What is done with a result asks for nothing more. -/
lemma Notes.bind_pure (h : Notes pair x' x s record events) (f : α → β) :
    Notes pair (x' >>= fun a => pure (f a)) (x >>= fun a => pure (f a)) s record events := by
  rcases hrun : x.run s with ⟨fault | a, s'⟩
  · exact h.bind_of_error hrun
  · have hpure : Notes pair (pure (f a) : Action S' β) (pure (f a)) s' (record ++ events) [] :=
      notes_of_run_eq rfl
    rw [← List.append_nil events]
    exact h.bind_of_ok hrun hpure

/-- What two actions ask for one after the other, the second only if the first has succeeded. -/
lemma Records.bind {f : α → Action S β} {f' : α → Action S' β} (hx : Records pair R x' x s record)
    (hf : ∀ a s' events, x.run s = (.ok a, s') → (∀ event ∈ events, R event.request) →
      Records pair R (f' a) (f a) s' (record ++ events)) :
    Records pair R (x' >>= f') (x >>= f) s record := by
  obtain ⟨events, hnotes, hevents⟩ := hx
  rcases hrun : x.run s with ⟨fault | a, s'⟩
  · exact ⟨events, hnotes.bind_of_error hrun, hevents⟩
  · obtain ⟨events', hnotes', hevents'⟩ := hf a s' events hrun hevents
    exact ⟨events ++ events', hnotes.bind_of_ok hrun hnotes',
      List.forall_mem_append.2 ⟨hevents, hevents'⟩⟩

/-- What goes by the state goes by it beside a record. -/
lemma records_get_bind {f : S → Action S β} {f' : S' → Action S' β}
    (h : Records pair R (f' (pair s record)) (f s) s record) :
    Records pair R (get >>= f') (get >>= f) s record :=
  h.congr (run_get_bind f' (pair s record)) (run_get_bind f s)

/-- What is asked for a held statement is asked for. -/
lemma Notes.holding {x : Action (τ × σ) α} {x' : Action (τ × (σ × List Event)) α} {t : τ} {w : σ}
    (h : Notes beside x' x (t, w) record events) :
    Notes Prod.mk (Action.holding t x') (Action.holding t x) w record events := by
  obtain ⟨hrun', hheeds⟩ := h
  change x'.run (t, (w, record)) = _ at hrun'
  rcases hrun : x.run (t, w) with ⟨fault | a, t', w'⟩ <;> rw [hrun] at hrun' hheeds
  · constructor
    · rw [run_holding, run_holding, hrun', hrun]
    · rw [run_holding, hrun]
      exact nofun
  · constructor
    · rw [run_holding, run_holding, hrun', hrun]
    · exact fun _ => hheeds rfl

lemma Records.holding {x : Action (τ × σ) α} {x' : Action (τ × (σ × List Event)) α} {t : τ} {w : σ}
    (h : Records beside R x' x (t, w) record) :
    Records Prod.mk R (Action.holding t x') (Action.holding t x) w record := by
  obtain ⟨events, hnotes, hevents⟩ := h
  exact ⟨events, hnotes.holding, hevents⟩

end Action

/-! ### What a recorded engine is asked for -/

namespace Engine

variable {σ κ τ : Type} (e : Engine σ κ τ) {R : Request → Prop} {record : List Event}

lemma records_connect {mode : OpenMode} {path : String} {w : σ} (h : R (.connect mode path)) :
    Action.Records Prod.mk R (e.recorded.connect mode path) (e.connect mode path) w record :=
  ⟨_, Action.notes_noting _ _ _ _, List.forall_mem_singleton.2 h⟩

lemma records_prepare {connection : κ} {query : String} {w : σ} (h : R (.prepare query)) :
    Action.Records Prod.mk R (e.recorded.prepare connection query) (e.prepare connection query) w
      record :=
  ⟨_, Action.notes_noting _ _ _ _, List.forall_mem_singleton.2 h⟩

lemma records_bind {call : BindCall} {s : τ × σ} (h : R (.bind call)) :
    Action.Records beside R (e.recorded.bind call) (e.bind call) s record :=
  ⟨_, Action.notes_notingOn _ (fun _ => .bind call) _ _, List.forall_mem_singleton.2 h⟩

lemma records_clearBindings {s : τ × σ} (h : R .clearBindings) :
    Action.Records beside R e.recorded.clearBindings e.clearBindings s record :=
  ⟨_, Action.notes_notingOn _ (fun _ => .clearBindings) _ _, List.forall_mem_singleton.2 h⟩

lemma records_step {s : τ × σ} (h : R (.step (heldValues record))) :
    Action.Records beside R e.recorded.step e.step s record :=
  ⟨_, Action.notes_notingOn _ (fun record => .step (heldValues record)) _ _,
    List.forall_mem_singleton.2 h⟩

lemma records_reset {s : τ × σ} (h : R .reset) :
    Action.Records beside R e.recorded.reset e.reset s record :=
  ⟨_, Action.notes_notingOn _ (fun _ => .reset) _ _, List.forall_mem_singleton.2 h⟩

lemma records_bindParams (h : ∀ call, R (.bind call)) (params : List Param) (s : τ × σ) :
    Action.Records beside R (bindParams e.recorded.bind params) (bindParams e.bind params) s
      record := by
  induction params generalizing s record with
  | nil => exact Action.records_pure ()
  | cons p params ih =>
    refine Action.Records.bind ?_ fun _ s' _ _ _ => ih s'
    exact (Action.records_ofExcept p.call).bind fun call _ _ _ _ => e.records_bind (h call)

end Engine

end ForeignData
