import ForeignData.Proofs.Stored.Parameter

/-!
# Parameters in their order

A parameter is bound by one call exactly if it is null or a value of its declared type and this type
has a form of its own. Parameters are bound in their order up to the first that cannot be bound, and
values are evaluated in the order of their places up to the first that cannot be evaluated. Nothing
is asked for behind it.
-/

namespace ForeignData

variable {σ : Type}

/-! ### One parameter -/

/-- A value that can be bound: null, or a value of its declared type where that has a form of its
own. -/
def Param.IsBindable (p : Param) : Prop :=
  p.value = none ∨ p.type.isNative = true ∧ p.value.isOfType p.type = true

instance : DecidablePred Param.IsBindable :=
  fun _ => inferInstanceAs (Decidable (_ ∨ _))

/-- Why a parameter is not bound. -/
def Param.refusal (p : Param) : Fault :=
  if p.type.isNative then .parameterMismatch p.index p.type p.value.form
  else .unsupportedParameter p.type

lemma boundValue?_ne_none_iff (ty : HostType) (s : Scalar) :
    boundValue? ty s ≠ none ↔ ty.isNative = true ∧ s.isOfType ty = true := by
  cases s <;> cases ty <;> simp [boundValue?, Scalar.isOfType, HostType.isNative, HostType.isText]

lemma boundValue?_ne_null (ty : HostType) (s : Scalar) : boundValue? ty s ≠ some .null := by
  unfold boundValue?
  split <;> simp

lemma Param.call_of_isBindable {p : Param} (h : p.IsBindable) :
    ∃ v, (v = .null ↔ p.value = none) ∧ p.call = .ok ⟨p.index, v⟩ := by
  obtain ⟨index, ty, value⟩ := p
  cases value with
  | none => exact ⟨.null, by simp, rfl⟩
  | some s =>
    have hform : boundValue? ty s ≠ none :=
      (boundValue?_ne_none_iff ty s).2 (h.resolve_left (Option.some_ne_none s))
    obtain ⟨v, hv⟩ := Option.ne_none_iff_exists'.1 hform
    refine ⟨v, ?_, by rw [call_eq]; simp only [hv]⟩
    constructor
    · rintro rfl
      exact absurd hv (boundValue?_ne_null ty s)
    · nofun

lemma Param.call_of_not_isBindable {p : Param} (h : ¬p.IsBindable) :
    p.call = .error p.refusal := by
  obtain ⟨index, ty, value⟩ := p
  cases value with
  | none => exact absurd (.inl rfl) h
  | some s =>
    have hform : boundValue? ty s = none :=
      Classical.not_not.1 fun hne => h (.inr ((boundValue?_ne_none_iff ty s).1 hne))
    rw [call_eq]
    simp only [hform, refusal, HostValue.form]

/-! ### What is asked for -/

/-- A target with a list of its calls and their results. -/
def tracedTarget (target : BindCall → Action σ Unit) (call : BindCall) :
    Action (σ × List (Except Fault Unit × BindCall)) Unit :=
  (target call).traced call

/-- An evaluator with a list of the places that it has evaluated and of what they gave. -/
def Evaluator.traced (evaluator : Evaluator σ) :
    Evaluator (σ × List (Except Fault HostValue × Nat)) where
  types := evaluator.types
  evaluate i := (evaluator.evaluate i).traced i

/-! ### Binding -/

/-- The calls for parameters in their order with their results: all of them have succeeded, or those
in front of the first parameter that is not bound, as there is no call for it or its call, the last
one, has failed. -/
inductive BindsInOrder :
    List Param → Except Fault Unit → List (Except Fault Unit × BindCall) → Prop
  | all {params : List Param} {calls : List BindCall}
    (hcalls : params.map Param.call = calls.map .ok) :
    BindsInOrder params (.ok ()) (calls.map (.ok (), ·))
  | refused {done rest : List Param} {p : Param} {calls : List BindCall} {fault : Fault}
    (hcalls : done.map Param.call = calls.map .ok) (hp : p.call = .error fault) :
    BindsInOrder (done ++ p :: rest) (.error fault) (calls.map (.ok (), ·))
  | failed {done rest : List Param} {p : Param} {calls : List BindCall} {call : BindCall}
    {fault : Fault} (hcalls : done.map Param.call = calls.map .ok) (hp : p.call = .ok call) :
    BindsInOrder (done ++ p :: rest) (.error fault)
      (calls.map (.ok (), ·) ++ [(.error fault, call)])

lemma BindsInOrder.cons {params : List Param} {result : Except Fault Unit}
    {trace : List (Except Fault Unit × BindCall)} (h : BindsInOrder params result trace)
    {p : Param} {call : BindCall} (hp : p.call = .ok call) :
    BindsInOrder (p :: params) result ((.ok (), call) :: trace) := by
  have hmap {done : List Param} {calls : List BindCall}
      (hcalls : done.map Param.call = calls.map .ok) :
      (p :: done).map Param.call = (call :: calls).map .ok := by
    rw [List.map_cons, List.map_cons, hp, hcalls]
  cases h with
  | all hcalls => exact .all (hmap hcalls)
  | refused hcalls hq => exact .refused (hmap hcalls) hq
  | failed hcalls hq => exact .failed (hmap hcalls) hq

/-- On a target that does what another one does, and notes each call with its result, parameters are
bound as on that one. -/
lemma exists_bindsInOrder_of_noting {S S' β : Type} {pair : S → List β → S'}
    {note : Except Fault Unit × BindCall → β} {target : BindCall → Action S Unit}
    {target' : BindCall → Action S' Unit}
    (hnoting : ∀ call s trace, (target' call).run (pair s trace)
      = (((target call).run s).1,
        pair ((target call).run s).2 (trace ++ [note (((target call).run s).1, call)])))
    (params : List Param) (s : S) (trace : List β) :
    ∃ asked, BindsInOrder params ((bindParams target params).run s).1 asked
      ∧ (bindParams target' params).run (pair s trace)
        = (((bindParams target params).run s).1,
          pair ((bindParams target params).run s).2 (trace ++ asked.map note)) := by
  induction params generalizing s trace with
  | nil => exact ⟨[], @BindsInOrder.all [] [] rfl, by rw [List.map_nil, List.append_nil]; rfl⟩
  | cons p params ih =>
    cases hcall : p.call with
    | error fault =>
      have hrun := bindParam_run_of_error target hcall s
      have hnoted := bindParam_run_of_error target' hcall (pair s trace)
      rw [bindParams, bindParams, Action.run_bind_of_error _ hrun,
        Action.run_bind_of_error _ hnoted]
      exact ⟨[], @BindsInOrder.refused [] params p [] fault rfl hcall,
        by rw [List.map_nil, List.append_nil]⟩
    | ok call =>
      have hrun := bindParam_run_of_ok target hcall s
      have hnoted := bindParam_run_of_ok target' hcall (pair s trace)
      rw [hnoting] at hnoted
      rcases htarget : (target call).run s with ⟨fault | _, s'⟩ <;> rw [htarget] at hrun hnoted
      · rw [bindParams, bindParams, Action.run_bind_of_error _ hrun,
          Action.run_bind_of_error _ hnoted]
        exact ⟨_, @BindsInOrder.failed [] params p [] call fault rfl hcall, rfl⟩
      · obtain ⟨asked, horder, hrest⟩ := ih s' (trace ++ [note (.ok (), call)])
        rw [bindParams, bindParams, Action.run_bind_of_ok _ hrun, Action.run_bind_of_ok _ hnoted,
          hrest, ← List.append_cons]
        exact ⟨_, horder.cons hcall, rfl⟩

lemma exists_bindsInOrder (target : BindCall → Action σ Unit) (params : List Param) (s : σ)
    (trace : List (Except Fault Unit × BindCall)) :
    ∃ asked, BindsInOrder params ((bindParams target params).run s).1 asked
      ∧ (bindParams (tracedTarget target) params).run (s, trace)
        = (((bindParams target params).run s).1,
          (((bindParams target params).run s).2, trace ++ asked)) := by
  obtain ⟨asked, horder, hrun⟩ := @exists_bindsInOrder_of_noting _ _ _ Prod.mk id target
    (tracedTarget target) (fun _ _ _ => rfl) params s trace
  rw [List.map_id] at hrun
  exact ⟨asked, horder, hrun⟩

/-! ### Evaluation -/

/-- What the places of parameters give when they are evaluated in their order: a value for each
parameter, or values for some and then a failure. The parameters count on from an index. -/
inductive EvaluatesInOrder (first : Nat) (types : List HostType) :
    Except Fault (List Param) → List (Except Fault HostValue) → Prop
  | all {params : List Param} (hindex : params.map Param.index = List.range' first types.length)
    (htypes : params.map Param.type = types) :
    EvaluatesInOrder first types (.ok params) (params.map (.ok ·.value))
  | failed {values : List HostValue} {fault : Fault} (hlength : values.length < types.length) :
    EvaluatesInOrder first types (.error fault) (values.map .ok ++ [.error fault])

lemma EvaluatesInOrder.cons {first : Nat} {types : List HostType}
    {result : Except Fault (List Param)} {results : List (Except Fault HostValue)}
    (h : EvaluatesInOrder (first + 1) types result results) (ty : HostType) (value : HostValue) :
    EvaluatesInOrder first (ty :: types) (result.map (⟨first, ty, value⟩ :: ·))
      (.ok value :: results) := by
  cases h with
  | @all params hindex htypes =>
    refine @EvaluatesInOrder.all _ _ (⟨first, ty, value⟩ :: params) ?_ ?_
    · rw [List.map_cons, hindex, List.length_cons, List.range'_succ]
    · rw [List.map_cons, htypes]
  | @failed values fault hlength =>
    exact @EvaluatesInOrder.failed _ _ (value :: values) fault (Nat.succ_lt_succ hlength)

/-- A traced evaluator gives the parameters that the evaluator itself gives. -/
lemma exists_evaluatesInOrder (evaluator : Evaluator σ) (i : Nat) (types : List HostType) (s : σ)
    (trace : List (Except Fault HostValue × Nat)) :
    ∃ results, EvaluatesInOrder (i + 1) types
        ((Evaluator.paramsFrom evaluator.evaluate i types).run s).1 results
      ∧ (Evaluator.paramsFrom evaluator.traced.evaluate i types).run (s, trace)
        = (((Evaluator.paramsFrom evaluator.evaluate i types).run s).1,
          (((Evaluator.paramsFrom evaluator.evaluate i types).run s).2,
            trace ++ results.zipIdx i)) := by
  induction types generalizing i s trace with
  | nil =>
    refine ⟨[], @EvaluatesInOrder.all _ _ [] rfl rfl, ?_⟩
    rw [List.zipIdx_nil, List.append_nil]
    rfl
  | cons ty types ih =>
    have htraced : (evaluator.traced.evaluate i).run (s, trace)
        = (((evaluator.evaluate i).run s).1,
          (((evaluator.evaluate i).run s).2, trace ++ [(((evaluator.evaluate i).run s).1, i)])) :=
      rfl
    rcases hrun : (evaluator.evaluate i).run s with ⟨fault | value, s'⟩ <;> rw [hrun] at htraced
    · rw [Evaluator.paramsFrom, Evaluator.paramsFrom, Action.run_bind_of_error _ hrun,
        Action.run_bind_of_error _ htraced]
      exact ⟨_, @EvaluatesInOrder.failed _ _ [] fault (Nat.succ_pos _), rfl⟩
    · obtain ⟨results, horder, hrest⟩ := ih (i + 1) s' (trace ++ [(.ok value, i)])
      rw [Evaluator.paramsFrom, Evaluator.paramsFrom, Action.run_bind_of_ok _ hrun,
        Action.run_bind_of_ok _ htraced, Action.run_bind_pure, Action.run_bind_pure, hrest,
        ← List.append_cons]
      exact ⟨_, horder.cons ty value, rfl⟩

/-! ### All parameters -/

/-- A parameter is bound by exactly one call, at its own index, if it is null or a value of its
declared type where that type has a form of its own; null is bound as null. Any other parameter is
refused without a call: for its type if that has no form of its own, and else for its value.
Parameters are bound in their order by their calls, up to the first that is not bound, and are
evaluated in the order of their places, up to the first failure. -/
theorem parameters_typed_and_in_order :
    (∀ p : Param, p.IsBindable → ∃ v, (v = .null ↔ p.value = none)
        ∧ p.call = .ok ⟨p.index, v⟩
        ∧ ∀ target : BindCall → Action σ Unit, bindParam target p = target ⟨p.index, v⟩)
      ∧ (∀ p : Param, ¬p.IsBindable → p.call = .error p.refusal
        ∧ ∀ target : BindCall → Action σ Unit, bindParam target p = throw p.refusal)
      ∧ (∀ (target : BindCall → Action σ Unit) (params : List Param) (s : σ) trace,
        ∃ asked, BindsInOrder params ((bindParams target params).run s).1 asked
          ∧ (bindParams (tracedTarget target) params).run (s, trace)
            = (((bindParams target params).run s).1,
              (((bindParams target params).run s).2, trace ++ asked)))
      ∧ ∀ (evaluator : Evaluator σ) (s : σ) trace,
        ∃ results, EvaluatesInOrder 1 evaluator.types (evaluator.params.run s).1 results
          ∧ evaluator.traced.params.run (s, trace)
            = ((evaluator.params.run s).1,
              ((evaluator.params.run s).2, trace ++ results.zipIdx)) := by
  refine ⟨fun p hp => ?_, fun p hp => ?_, exists_bindsInOrder,
    fun evaluator => exists_evaluatesInOrder evaluator 0 evaluator.types⟩
  · obtain ⟨v, hnull, hcall⟩ := Param.call_of_isBindable hp
    refine ⟨v, hnull, hcall, fun target => ?_⟩
    rw [bindParam, hcall]
    rfl
  · have hcall := Param.call_of_not_isBindable hp
    refine ⟨hcall, fun target => ?_⟩
    rw [bindParam, hcall]
    rfl

/-- A parameter of a type without a form of its own. -/
def documentParam (value : HostValue) : Param :=
  ⟨2, .other HostType.systemSchema "jsonb", value⟩

/-- There may be no document, but a document that is there is refused. -/
theorem parameters_typed_and_in_order_document :
    (documentParam none).IsBindable
      ∧ (∃ v, (v = .null ↔ (documentParam none).value = none)
        ∧ (documentParam none).call = .ok ⟨2, v⟩
        ∧ ∀ target : BindCall → Action (List BindCall) Unit,
          bindParam target (documentParam none) = target ⟨2, v⟩)
      ∧ ¬(documentParam (some (.other "{}"))).IsBindable
      ∧ (documentParam (some (.other "{}"))).call
        = .error (.unsupportedParameter (.other HostType.systemSchema "jsonb")) := by
  have hnull : (documentParam none).IsBindable := .inl rfl
  have hdocument : ¬(documentParam (some (.other "{}"))).IsBindable := by decide
  exact ⟨hnull, parameters_typed_and_in_order.1 _ hnull, hdocument,
    (parameters_typed_and_in_order (σ := List BindCall)).2.1 _ hdocument |>.1⟩

end ForeignData
