import ForeignData.Command.Outcome
import ForeignData.Proofs.Action

/-!
# Writing

Texts are written in their order, up to the first write that fails. A request for an import has made
all its statements before it writes the first of them, so that a request that fails before has
written nothing.
-/

namespace ForeignData

namespace Action

variable {σ ω α : Type}

lemma run_onFirst (action : Action σ α) (s : σ) (w : ω) :
    (action.onFirst).run (s, w) = ((action.run s).1, ((action.run s).2, w)) := rfl

lemma run_onSecond (action : Action ω α) (s : σ) (w : ω) :
    (action.onSecond).run (s, w) = ((action.run w).1, (s, (action.run w).2)) := rfl

end Action

namespace Command

/-- A writer with a list of the texts that it has been asked to write, each with what came of it. -/
def tracedWriter {ω : Type} (write : String → Action ω Unit) (text : String) :
    Action (ω × List (Except Fault Unit × String)) Unit :=
  (write text).traced text

/-- Texts are written in their order: all of them, or those in front of one that fails, and that one
as the last. -/
inductive WritesInOrder : List String → Ending → List (Except Fault Unit × String) → Prop
  | all (texts : List String) : WritesInOrder texts .done (texts.map (.ok (), ·))
  | failed (written : List String) (text : String) (rest : List String) (fault : Fault) :
    WritesInOrder (written ++ text :: rest) (.failed fault)
      (written.map (.ok (), ·) ++ [(.error fault, text)])

lemma WritesInOrder.cons {texts : List String} {ending : Ending}
    {asked : List (Except Fault Unit × String)} (h : WritesInOrder texts ending asked)
    (text : String) : WritesInOrder (text :: texts) ending ((.ok (), text) :: asked) := by
  cases h with
  | all => exact .all (text :: texts)
  | failed written text' rest fault => exact .failed (text :: written) text' rest fault

lemma exists_writesInOrder {ω α : Type} (write : String → Action ω Unit) (text : α → String)
    (values : List α) (w : ω) :
    ∃ asked,
      WritesInOrder (values.map text) (.ofResult ((writeEach write text values).run w).1) asked
      ∧ ∀ trace, (writeEach (tracedWriter write) text values).run (w, trace)
        = (((writeEach write text values).run w).1,
          (((writeEach write text values).run w).2, trace ++ asked)) := by
  induction values generalizing w with
  | nil => exact ⟨[], .all [], fun trace => by rw [List.append_nil]; rfl⟩
  | cons a values ih =>
    have htraced (trace : List (Except Fault Unit × String)) :
        (tracedWriter write (text a)).run (w, trace)
          = (((write (text a)).run w).1,
            (((write (text a)).run w).2, trace ++ [(((write (text a)).run w).1, text a)])) := rfl
    rcases hrun : (write (text a)).run w with ⟨fault | _, w'⟩ <;> rw [hrun] at htraced
    · rw [writeEach, Action.run_bind_of_error _ hrun]
      refine ⟨_, .failed [] (text a) (values.map text) fault, fun trace => ?_⟩
      rw [writeEach, Action.run_bind_of_error _ (htraced trace)]
      rfl
    · obtain ⟨asked, horder, hrest⟩ := ih w'
      rw [writeEach, Action.run_bind_of_ok _ hrun]
      refine ⟨_, horder.cons (text a), fun trace => ?_⟩
      rw [writeEach, Action.run_bind_of_ok _ (htraced trace), hrest, ← List.append_cons]

/-! ### Command lines -/

section CommandLines

variable {σ κ τ ω : Type} (e : Engine σ κ τ) (files : σ → String → FileStatus)
  (words : List String) (s : σ) (write : String → Action ω Unit) (out : ω)

/-- A command line asks its writer for texts in their order, up to the first write that fails, and
ends for that. -/
def Writes (texts : List String) : Prop :=
  ∃ ending asked s' out', WritesInOrder texts ending asked
    ∧ runWords e files write words (s, out) = (ending, s', out')
    ∧ ∀ trace, runWords e files (tracedWriter write) words (s, (out, trace))
        = (ending, s', (out', trace ++ asked))

/-- A command line fails and has asked its writer for nothing. -/
def FailsUnwritten (fault : Fault) : Prop :=
  ∃ s', runWords e files write words (s, out) = (.failed fault, s', out)
    ∧ ∀ trace, runWords e files (tracedWriter write) words (s, (out, trace))
        = (.failed fault, s', (out, trace))

variable {e files words s}

lemma runWords_of_read {invocation : Invocation} (hread : Invocation.read words = .ok invocation)
    (s : σ × ω) :
    runWords e files write words s = (.ofResult ((invocation.request.run e files write).run s).1,
      ((invocation.request.run e files write).run s).2) := by
  rw [runWords, hread]

end CommandLines

/-! ### Imports -/

section Imports

variable {σ κ τ : Type} (e : Engine σ κ τ) (files : σ → String → FileStatus)
  (database remoteSchema localSchema server : String) (list : ImportList) (options : OptionList)

/-- The statements that a request for an import makes. -/
def importStatements : Action σ (List String) := do
  checkDatabase files database
  let options ← Action.ofExcept (ImportOptions.ofList options)
  importSchema e database { remoteSchema, localSchema, server, list, options }

/-- A request for an import writes its statements when all of them are made, or writes nothing. -/
lemma run_importRequest {ω : Type} (write : String → Action ω Unit) (s : σ) (w : ω) :
    ((Request.importSchema database remoteSchema localSchema server list options).run e files
        write).run (s, w)
      = match (importStatements e files database remoteSchema localSchema server list
          options).run s with
        | (.ok statements, s) => (writeEach write closed statements).onSecond.run (s, w)
        | (.error fault, s) => (.error fault, (s, w)) := by
  rw [Request.run, importStatements]
  simp only [Action.run_bind, Action.run_onFirst, Action.run_ofExcept]
  rcases (checkDatabase files database).run s with ⟨fault | _, s₁⟩
  · rfl
  rcases ImportOptions.ofList options with fault | importOptions
  · rfl
  dsimp only
  rw [Action.run_onFirst]
  rcases (importSchema e database
    ⟨remoteSchema, localSchema, server, list, importOptions⟩).run s₁ with ⟨fault | _, s₂⟩ <;> rfl

variable {e files database remoteSchema localSchema server list options} {words : List String}
  {level : LogLevel} {format : LogFormat} {s : σ}
  (hread : Invocation.read words = .ok ⟨level, format,
    .importSchema database remoteSchema localSchema server list options⟩)

include hread

/-- All statements that have been made are written. -/
lemma writes_of_importStatements {statements : List String}
    (h : ((importStatements e files database remoteSchema localSchema server list options).run
      s).1 = .ok statements) {ω : Type} (write : String → Action ω Unit) (out : ω) :
    Writes e files words s write out (statements.map closed) := by
  rcases hmade : (importStatements e files database remoteSchema localSchema server list
    options).run s with ⟨fault | made, s'⟩ <;> rw [hmade] at h <;> cases h
  have hrun {ω : Type} (write : String → Action ω Unit) (out : ω) :
      ((Request.importSchema database remoteSchema localSchema server list options).run e files
        write).run (s, out)
        = (((writeEach write closed statements).run out).1,
          (s', ((writeEach write closed statements).run out).2)) := by
    rw [run_importRequest, hmade]
    exact Action.run_onSecond _ s' out
  obtain ⟨asked, horder, htraced⟩ := exists_writesInOrder write closed statements out
  refine ⟨_, asked, s', ((writeEach write closed statements).run out).2, horder, ?_,
    fun trace => ?_⟩
  · rw [runWords_of_read _ hread, hrun]
  · rw [runWords_of_read _ hread, hrun, htraced]

/-- Nothing is written if a statement is not made. -/
lemma failsUnwritten_of_importStatements {fault : Fault}
    (h : ((importStatements e files database remoteSchema localSchema server list options).run
      s).1 = .error fault) {ω : Type} (write : String → Action ω Unit) (out : ω) :
    FailsUnwritten e files words s write out fault := by
  rcases hmade : (importStatements e files database remoteSchema localSchema server list
    options).run s with ⟨fault | made, s'⟩ <;> rw [hmade] at h <;> cases h
  have hrun {ω : Type} (write : String → Action ω Unit) (out : ω) :
      ((Request.importSchema database remoteSchema localSchema server list options).run e files
        write).run (s, out) = (.error fault, (s', out)) := by
    rw [run_importRequest, hmade]
  refine ⟨s', ?_, fun trace => ?_⟩
  · rw [runWords_of_read _ hread, hrun]
    rfl
  · rw [runWords_of_read _ hread, hrun]
    rfl

end Imports

end Command

end ForeignData
