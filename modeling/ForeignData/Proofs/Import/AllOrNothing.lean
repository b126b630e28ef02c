import ForeignData.Proofs.Command.Writing
import ForeignData.Proofs.Import.Script
import ForeignData.Proofs.Import.Statement
import ForeignData.Proofs.Import.Steps

/-!
# Imports that may fail anywhere

An import is all or nothing. Whatever comes of the listing of the tables and of the columns of each
table, the calls for the next statement give the statements up to the first failure and then that,
and nothing behind it. As a whole an import gives the statements of all tables, or the first failure
and no statement.
-/

namespace ForeignData

/-! ### Outcomes in a row -/

section Outcomes

variable {α : Type}

/-- How many calls it takes to get at the first failure, or behind the last outcome. -/
def callsToEnd (outcomes : List (Except Fault α)) : Nat :=
  (outcomes.takeWhile Except.isOk).length + 1

def given : Option (Except Fault α) → Except Fault (Option α)
  | none => .ok none
  | some outcome => outcome.map some

lemma callsToEnd_ok (a : α) (outcomes : List (Except Fault α)) :
    callsToEnd (.ok a :: outcomes) = callsToEnd outcomes + 1 := rfl

lemma mapM_id_ok (a : α) (outcomes : List (Except Fault α)) :
    (.ok a :: outcomes).mapM id = (outcomes.mapM id).map (a :: ·) := by
  rw [List.mapM_cons]
  cases outcomes.mapM id <;> rfl

lemma mapM_id_error (fault : Fault) (outcomes : List (Except Fault α)) :
    (.error fault :: outcomes).mapM id = .error fault := by
  rw [List.mapM_cons]
  rfl

lemma mapM_id_map_ok (as : List α) : (as.map (Except.ok (ε := Fault))).mapM id = .ok as := by
  induction as with
  | nil => rfl
  | cons a as ih =>
    rw [List.map_cons, mapM_id_ok, ih]
    rfl

/-- Outcomes come to all that they give if none of them is a failure. -/
lemma mapM_id_eq_ok_iff {outcomes : List (Except Fault α)} {as : List α} :
    outcomes.mapM id = .ok as ↔ outcomes = as.map .ok := by
  constructor
  · intro h
    induction outcomes generalizing as with
    | nil =>
      cases h
      rfl
    | cons outcome outcomes ih =>
      cases outcome with
      | error fault => cases (mapM_id_error fault outcomes).symm.trans h
      | ok a =>
        rw [mapM_id_ok] at h
        cases hrest : outcomes.mapM id <;> rw [hrest] at h <;> cases h
        rw [ih hrest, List.map_cons]
  · rintro rfl
    exact mapM_id_map_ok as

/-- Outcomes come to the first failure if there is one. -/
lemma mapM_id_eq_error_iff {outcomes : List (Except Fault α)} {fault : Fault} :
    outcomes.mapM id = .error fault
      ↔ ∃ (as : List α) (rest : List (Except Fault α)),
        outcomes = as.map .ok ++ .error fault :: rest := by
  constructor
  · intro h
    induction outcomes with
    | nil => cases h
    | cons outcome outcomes ih =>
      cases outcome with
      | error fault' =>
        rw [mapM_id_error] at h
        cases h
        exact ⟨[], outcomes, rfl⟩
      | ok a =>
        rw [mapM_id_ok] at h
        cases hrest : outcomes.mapM id <;> rw [hrest] at h <;> cases h
        obtain ⟨as, rest, rfl⟩ := ih hrest
        exact ⟨a :: as, rest, rfl⟩
  · rintro ⟨as, rest, rfl⟩
    induction as with
    | nil => exact mapM_id_error fault rest
    | cons a as ih =>
      rw [List.map_cons, List.cons_append, mapM_id_ok, ih]
      rfl

end Outcomes

/-! ### Calls for the next statement -/

namespace SchemaImport

variable {σ κ τ : Type} (e : Engine σ κ τ)

/-- What is left of an import after a number of calls for the next statement, whatever each of them
has come to. -/
def afterCalls : Nat → SchemaImport κ τ × σ → SchemaImport κ τ × σ
  | 0, s => s
  | n + 1, s => afterCalls n ((next e).run s).2

/-- What a call for the next statement comes to after a number of them. -/
def call (n : Nat) (s : SchemaImport κ τ × σ) : Except Fault (Option String) :=
  ((next e).run (afterCalls e n s)).1

lemma call_succ (n : Nat) (s : SchemaImport κ τ × σ) :
    call e (n + 1) s = call e n ((next e).run s).2 := rfl

lemma afterCalls_add (m n : Nat) (s : SchemaImport κ τ × σ) :
    afterCalls e (m + n) s = afterCalls e n (afterCalls e m s) := by
  induction m generalizing s with
  | zero => rw [Nat.zero_add, afterCalls]
  | succ m ih => rw [Nat.succ_add, afterCalls, ih, afterCalls]

lemma afterCalls_of_ended {s : SchemaImport κ τ × σ} (h : s.1.tables = none) (n : Nat) :
    afterCalls e n s = s := by
  induction n with
  | zero => rfl
  | succ n ih => rw [afterCalls, run_next_of_ended h, ih]

lemma call_of_ended {s : SchemaImport κ τ × σ} (h : s.1.tables = none) (n : Nat) :
    call e n s = .ok none := by
  rw [call, afterCalls_of_ended e h, run_next_of_ended h]

end SchemaImport

namespace Script

open SchemaImport

variable (script : Script)

/-! ### What is to come of an import -/

def listedName (row : ResultRow) : String :=
  (row.value 0).asText.getD ""

/-- No row of the listing lacks a name. -/
def IsNamed : Prop :=
  ∀ listing, script.listing = .ok listing → ∀ row ∈ listing.rows, row.value 0 ≠ .null

/-- The text that defines a table with a number of them before it, or why there is none. -/
def definition (request : ImportRequest) (n : Nat) (table : String) : Except Fault String := do
  let answer ← script.columns n (columnsQuery table)
  let rows ← answer.all
  return request.definitionText table (rows.map RemoteColumn.ofRow)

/-- What comes of each table of a listing, with a number of tables before them, and then of the
listing if that fails. -/
def outcomes (request : ImportRequest) (n : Nat) (listing : Answer) :
    List (Except Fault String) :=
  (listing.rows.zipIdx n).map (fun (row, i) => script.definition request i (listedName row))
    ++ listing.fault.toList.map .error

/-- The listing of an import, or why it does not begin. -/
def begins (request : ImportRequest) : Except Fault Answer :=
  if request.remoteSchema ∈ remoteSchemas then do
    script.opening
    script.listing
  else
    .error (.noSuchSchema request.remoteSchema)

/-- Nothing fails, and the tables give some statements. -/
def Completes (request : ImportRequest) (statements : List String) : Prop :=
  ∃ listing, script.begins request = .ok listing
    ∧ script.outcomes request 0 listing = statements.map .ok

/-- A fault is the first failure: the import does not begin for it, or the tables before it give
statements. -/
def FailsFirst (request : ImportRequest) (fault : Fault) : Prop :=
  script.begins request = .error fault
    ∨ ∃ (listing : Answer) (statements : List String) (rest : List (Except Fault String)),
      script.begins request = .ok listing
        ∧ script.outcomes request 0 listing = statements.map .ok ++ .error fault :: rest

/-- A command line for an import has statements to write: its database and its options are in order,
and nothing fails. -/
def Prepares (files : String → FileStatus) (database remoteSchema localSchema server : String)
    (list : ImportList) (options : OptionList) (statements : List String) : Prop :=
  checkOptions files .server [("database", database)] = .ok ()
    ∧ ∃ importOptions, ImportOptions.ofList options = .ok importOptions
      ∧ script.Completes ⟨remoteSchema, localSchema, server, list, importOptions⟩ statements

/-- A fault is the first failure of a command line for an import: of its database, of its options,
or of the import itself. -/
def StopsAt (files : String → FileStatus) (database remoteSchema localSchema server : String)
    (list : ImportList) (options : OptionList) (fault : Fault) : Prop :=
  checkOptions files .server [("database", database)] = .error fault
    ∨ checkOptions files .server [("database", database)] = .ok ()
      ∧ (ImportOptions.ofList options = .error fault
        ∨ ∃ importOptions, ImportOptions.ofList options = .ok importOptions
          ∧ script.FailsFirst ⟨remoteSchema, localSchema, server, list, importOptions⟩ fault)

/-- An import goes by the outcomes that are to come. -/
structure GoesBy (outcomes : List (Except Fault String))
    (s : SchemaImport Unit Statement × Progress) : Prop where
  /-- The calls give the outcomes in their order up to the first failure, and then nothing. -/
  calls : ∀ n, call script.engine n s = given (outcomes.take (callsToEnd outcomes))[n]?
  /-- Behind a call that has failed or found the end nothing is given, and nothing is done. -/
  ended : ∀ n, (∀ statement, call script.engine n s ≠ .ok (some statement)) →
    ∀ m > n, call script.engine m s = .ok none
      ∧ afterCalls script.engine m s = afterCalls script.engine (n + 1) s
  /-- Each call takes one step of the listing, up to the one that fails or finds the end. -/
  listed : ∀ n, (afterCalls script.engine n s).2.listed
    = s.2.listed + min n (callsToEnd outcomes)

/-! ### Calls -/

/-- The calls for the next statement give some outcomes up to the first failure, each with one step
of the listing. The call that fails or finds the end lets go of the listing. -/
inductive Gives : List (Except Fault String) → SchemaImport Unit Statement × Progress → Prop
  | made {statement : String} {outcomes : List (Except Fault String)}
    {s s' : SchemaImport Unit Statement × Progress}
    (hnext : (next script.engine).run s = (.ok (some statement), s'))
    (hlisted : s'.2.listed = s.2.listed + 1) (hrest : Gives outcomes s') :
    Gives (.ok statement :: outcomes) s
  | stopped {outcomes : List (Except Fault String)}
    {s s' : SchemaImport Unit Statement × Progress}
    (hnext : (next script.engine).run s = (given outcomes.head?, s'))
    (hlast : callsToEnd outcomes = 1) (hlisted : s'.2.listed = s.2.listed + 1)
    (hended : s'.1.tables = none) : Gives outcomes s

section Calls

variable {script} {request : ImportRequest} {outcomes : List (Except Fault String)}
  {s : SchemaImport Unit Statement × Progress}

lemma asText_value_of_ne_null {row : ResultRow} (h : row.value 0 ≠ .null) :
    (row.value 0).asText = some (listedName row) := by
  rw [listedName]
  cases hvalue : row.value 0 with
  | null => exact absurd hvalue h
  | integer | real | text | blob => rfl

lemma run_tableStatement {w : Progress} {n : Nat} (hprepared : w.prepared = n + 1)
    (table : String) : (tableStatement script.engine () request table).run w
      = (script.definition request n table, w.prepare) := by
  have hne : w.prepared ≠ 0 := by
    rw [hprepared]
    exact Nat.succ_ne_zero n
  rw [tableStatement, Action.run_bind_pure, run_query hne, hprepared]
  simp only [ImportRequest.statement_eq]
  change (((script.columns n (columnsQuery table)).bind Answer.all).map _, _) = _
  rw [definition]
  cases script.columns n (columnsQuery table) with
  | error fault => rfl
  | ok answer => obtain ⟨rows, _ | fault⟩ := answer <;> rfl

/-- The calls give what comes of each table of the listing. -/
lemma gives_outcomes {t : Statement} {w : Progress} {n : Nat} (hplace : t.place = 0)
    (hprepared : w.prepared = n + 1) {rows : List ResultRow} {fault : Option Fault}
    (hrest : t.rest = ⟨rows, fault⟩) (hnamed : ∀ row ∈ rows, row.value 0 ≠ .null) :
    script.Gives (script.outcomes request n ⟨rows, fault⟩) (⟨(), some t, request⟩, w) := by
  have hlisted : (w.step t.place).listed = w.listed + 1 := w.listed_step hplace
  -- on the rows of the listing; for each of them one more statement has been asked for
  induction rows generalizing t w n with
  | nil =>
    cases fault with
    | none => exact .stopped (run_next_of_done (run_step_done hrest)) rfl hlisted rfl
    | some fault => exact .stopped (run_next_of_fault (run_step_fault hrest)) rfl hlisted rfl
  | cons row rows ih =>
    obtain ⟨hrow, hrows⟩ := List.forall_mem_cons.1 hnamed
    have hprepared' : (w.step t.place).prepared = n + 1 := by
      rw [Progress.prepared_step, hprepared]
    have hstep : script.engine.step.run (t, w)
        = (.ok .row, ({ t with rest := ⟨rows, fault⟩, row }, w.step t.place)) := run_step_row hrest
    have hstatement : (tableStatement script.engine () request (listedName row)).run
        (w.step t.place) = (script.definition request n (listedName row),
          (w.step t.place).prepare) := run_tableStatement hprepared' (listedName row)
    have hnext := run_next_of_row hstep (asText_value_of_ne_null hrow) hstatement
    change script.Gives (script.definition request n (listedName row)
      :: script.outcomes request (n + 1) ⟨rows, fault⟩) _
    cases hdefinition : script.definition request n (listedName row) with
    | error fault =>
      rw [hdefinition] at hnext
      exact .stopped hnext rfl hlisted rfl
    | ok statement =>
      rw [hdefinition] at hnext
      have hmore : (w.step t.place).prepare.prepared = n + 1 + 1 := congrArg (· + 1) hprepared'
      exact .made hnext hlisted (ih hplace hmore rfl hrows (Progress.listed_step _ hplace))

namespace Gives

lemma call_eq (h : script.Gives outcomes s) (n : Nat) :
    call script.engine n s = given (outcomes.take (callsToEnd outcomes))[n]? := by
  induction h generalizing n with
  | made hnext hlisted hrest ih =>
    cases n with
    | zero =>
      rw [call, afterCalls, hnext]
      rfl
    | succ n =>
      rw [call_succ, hnext, ih]
      rfl
  | @stopped outcomes s s' hnext hlast hlisted hended =>
    rw [hlast]
    cases n with
    | zero =>
      rw [call, afterCalls, hnext]
      cases outcomes <;> rfl
    | succ n =>
      rw [call_succ, hnext, call_of_ended _ hended]
      cases outcomes <;> rfl

lemma listed_afterCalls (h : script.Gives outcomes s) (n : Nat) :
    (afterCalls script.engine n s).2.listed = s.2.listed + min n (callsToEnd outcomes) := by
  induction h generalizing n with
  | made hnext hlisted hrest ih =>
    cases n with
    | zero => rfl
    | succ n =>
      rw [afterCalls, hnext, ih, hlisted, callsToEnd_ok]
      omega
  | stopped hnext hlast hlisted hended =>
    cases n with
    | zero => rfl
    | succ n =>
      rw [afterCalls, hnext, afterCalls_of_ended _ hended, hlisted, hlast]
      omega

/-- A call that does not give a statement lets go of the listing. -/
lemma tables_afterCalls (h : script.Gives outcomes s) {n : Nat}
    (hcall : ∀ statement, call script.engine n s ≠ .ok (some statement)) :
    (afterCalls script.engine (n + 1) s).1.tables = none := by
  induction h generalizing n with
  | @made statement outcomes s s' hnext hlisted hrest ih =>
    cases n with
    | zero =>
      refine absurd ?_ (hcall statement)
      rw [call, afterCalls, hnext]
    | succ n =>
      rw [afterCalls, hnext]
      rw [call_succ, hnext] at hcall
      exact ih hcall
  | stopped hnext hlast hlisted hended =>
    rw [afterCalls, hnext, afterCalls_of_ended _ hended]
    exact hended

lemma goesBy (h : script.Gives outcomes s) : script.GoesBy outcomes s where
  calls := h.call_eq
  ended n hcall m hm := by
    have htables := h.tables_afterCalls hcall
    obtain ⟨k, rfl⟩ := Nat.exists_eq_add_of_lt hm
    have hstay : afterCalls script.engine (n + k + 1) s = afterCalls script.engine (n + 1) s := by
      rw [Nat.add_right_comm, afterCalls_add, afterCalls_of_ended _ htables]
    refine ⟨?_, hstay⟩
    rw [call, hstay]
    exact call_of_ended _ htables 0
  listed := h.listed_afterCalls

/-- Statements are taken up to the end, or up to the first failure, and then there are none. -/
lemma run_takeStatements (h : script.Gives outcomes s) {fuel : Nat}
    (hfuel : callsToEnd outcomes ≤ fuel) :
    ((takeStatements script.engine fuel).run s).1 = outcomes.mapM id := by
  induction h generalizing fuel with
  | @made statement outcomes s s' hnext hlisted hrest ih =>
    obtain _ | fuel := fuel
    · exact absurd hfuel (Nat.not_succ_le_zero _)
    rw [takeStatements, Action.run_bind_of_ok _ hnext, mapM_id_ok]
    change ((takeStatements script.engine fuel >>= fun rest =>
      pure (statement :: rest)).run s').1 = _
    rw [Action.run_bind_pure, ih (Nat.succ_le_succ_iff.1 hfuel)]
  | @stopped outcomes s s' hnext hlast hlisted hended =>
    obtain _ | fuel := fuel
    · exact absurd hfuel (Nat.not_succ_le_zero _)
    rw [takeStatements]
    cases outcomes with
    | nil =>
      rw [Action.run_bind_of_ok _ hnext]
      rfl
    | cons outcome outcomes =>
      cases outcome with
      | error fault =>
        rw [Action.run_bind_of_error _ hnext, mapM_id_error]
      | ok statement => cases hlast

end Gives

end Calls

/-! ### Whole imports -/

section Imports

variable {script} {request : ImportRequest} {path : String} {listing : Answer}

lemma callsToEnd_outcomes_le (n : Nat) (rows : List ResultRow) (fault : Option Fault) :
    callsToEnd (script.outcomes request n ⟨rows, fault⟩) ≤ rows.length + 1 := by
  induction rows generalizing n with
  | nil => cases fault <;> exact Nat.le_refl 1
  | cons row rows ih =>
    change callsToEnd (script.definition request n (listedName row)
      :: script.outcomes request (n + 1) ⟨rows, fault⟩) ≤ _
    cases script.definition request n (listedName row) with
    | error fault => exact Nat.succ_le_succ (Nat.zero_le _)
    | ok statement => exact Nat.succ_le_succ (ih (n + 1))

lemma exists_run_new (script : Script) (request : ImportRequest) (path : String) :
    ∃ w, (SchemaImport.new script.engine path request).run .start
      = ((script.begins request).map fun listing => ⟨(), some (.fresh 0 listing), request⟩, w)
    ∧ ((script.begins request).isOk = true → w = ⟨1, 0⟩) := by
  obtain ⟨opening, listing, columns⟩ := script
  rw [begins, SchemaImport.new]
  by_cases hschema : request.remoteSchema ∈ remoteSchemas
  · rw [if_pos hschema, if_neg fun h => h hschema]
    cases opening with
    | error fault => exact ⟨_, rfl, nofun⟩
    | ok _ => cases listing with
      | error fault => exact ⟨_, rfl, nofun⟩
      | ok listing => exact ⟨_, rfl, fun _ => rfl⟩
  · rw [if_neg hschema, if_pos hschema]
    exact ⟨_, rfl, nofun⟩

lemma listing_of_begins (h : script.begins request = .ok listing) :
    script.listing = .ok listing := by
  rw [begins] at h
  split at h
  · cases hopening : script.opening <;> rw [hopening] at h
    · cases h
    · exact h
  · cases h

lemma gives_of_begins (hnamed : script.IsNamed) (h : script.begins request = .ok listing) :
    script.Gives (script.outcomes request 0 listing)
      (⟨(), some (.fresh 0 listing), request⟩, ⟨1, 0⟩) :=
  gives_outcomes rfl rfl rfl (hnamed listing (listing_of_begins h))

/-- The text that defines a table is read as such. -/
lemma isDefinition_of_definition {n : Nat} {table text : String}
    (h : script.definition request n table = .ok text) :
    ∃ rows, (script.columns n (columnsQuery table)).bind Answer.all = .ok rows
      ∧ request.IsDefinition table (rows.map RemoteColumn.ofRow) text := by
  rw [definition] at h
  cases hanswer : script.columns n (columnsQuery table) with
  | error fault =>
    rw [hanswer] at h
    cases h
  | ok answer =>
    rw [hanswer] at h
    change (answer.all >>= fun rows =>
      pure (request.definitionText table (rows.map RemoteColumn.ofRow))) = _ at h
    cases hrows : answer.all with
    | error fault =>
      rw [hrows] at h
      cases h
    | ok rows =>
      rw [hrows] at h
      cases h
      refine ⟨rows, hrows, ?_⟩
      rw [← request.statement_eq]
      exact request.isDefinition_statement table _

/-- An import comes to what comes of its tables one after the other. -/
lemma run_importSchema (hnamed : script.IsNamed) :
    ((importSchema script.engine path request).run .start).1
      = (script.begins request).bind fun listing =>
        (script.outcomes request 0 listing).mapM id := by
  obtain ⟨w, hnew, hw⟩ := script.exists_run_new request path
  cases hbegins : script.begins request with
  | error fault =>
    rw [hbegins] at hnew
    rw [importSchema, Action.run_bind_of_error _ hnew]
    rfl
  | ok listing =>
    rw [hbegins] at hnew hw
    obtain rfl := hw rfl
    have hcollect : ((SchemaImport.collect script.engine).run
        (⟨(), some (.fresh 0 listing), request⟩, ⟨1, 0⟩)).1
          = (script.outcomes request 0 listing).mapM id := by
      rw [SchemaImport.collect, Action.run_get_bind]
      exact (gives_of_begins hnamed hbegins).run_takeStatements
        (callsToEnd_outcomes_le 0 listing.rows listing.fault)
    rw [importSchema, Action.run_bind_of_ok _ hnew, Action.run_bind, Action.run_holding]
    rcases hrun : (SchemaImport.collect script.engine).run
      (⟨(), some (.fresh 0 listing), request⟩, ⟨1, 0⟩) with ⟨_ | statements, s⟩ <;>
      rw [hrun] at hcollect <;> exact hcollect

lemma run_importSchema_eq_ok_iff (hnamed : script.IsNamed) {statements : List String} :
    ((importSchema script.engine path request).run .start).1 = .ok statements
      ↔ script.Completes request statements := by
  rw [run_importSchema hnamed, Completes]
  cases script.begins request with
  | error fault => exact ⟨nofun, nofun⟩
  | ok listing =>
    change (script.outcomes request 0 listing).mapM id = .ok statements ↔ _
    rw [mapM_id_eq_ok_iff]
    constructor
    · exact fun h => ⟨listing, rfl, h⟩
    · rintro ⟨_, ⟨⟩, h⟩
      exact h

lemma run_importSchema_eq_error_iff (hnamed : script.IsNamed) {fault : Fault} :
    ((importSchema script.engine path request).run .start).1 = .error fault
      ↔ script.FailsFirst request fault := by
  rw [run_importSchema hnamed, FailsFirst]
  cases script.begins request with
  | error fault' =>
    constructor
    · rintro ⟨⟩
      exact .inl rfl
    · rintro (h | ⟨_, _, _, ⟨⟩, _⟩)
      cases h
      rfl
  | ok listing =>
    change (script.outcomes request 0 listing).mapM id = .error fault ↔ _
    rw [mapM_id_eq_error_iff]
    constructor
    · rintro ⟨statements, rest, h⟩
      exact .inr ⟨listing, statements, rest, rfl, h⟩
    · rintro (h | ⟨_, statements, rest, ⟨⟩, h⟩)
      · cases h
      · exact ⟨statements, rest, h⟩

end Imports

/-! ### The command line -/

section CommandLine

open Command

variable {script} {files : Progress → String → FileStatus}
  {database remoteSchema localSchema server : String} {list : ImportList} {options : OptionList}

lemma run_importStatements_eq_ok_iff (hnamed : script.IsNamed) {statements : List String} :
    ((importStatements script.engine files database remoteSchema localSchema server list
      options).run .start).1 = .ok statements
        ↔ script.Prepares (files .start) database remoteSchema localSchema server list options
          statements := by
  have hcheck : (checkDatabase files database).run .start
      = (checkOptions (files .start) .server [("database", database)], .start) := rfl
  rw [importStatements, Prepares]
  rcases hchecked : checkOptions (files .start) .server [("database", database)] with fault | _ <;>
    rw [hchecked] at hcheck
  · rw [Action.run_bind_of_error _ hcheck]
    constructor
    · rintro ⟨⟩
    · rintro ⟨⟨⟩, -⟩
  rw [Action.run_bind_of_ok _ hcheck]
  rcases ImportOptions.ofList options with fault | importOptions
  · constructor
    · rintro ⟨⟩
    · rintro ⟨-, _, ⟨⟩, -⟩
  refine (run_importSchema_eq_ok_iff hnamed).trans ⟨fun h => ⟨rfl, importOptions, rfl, h⟩, ?_⟩
  rintro ⟨-, _, ⟨⟩, h⟩
  exact h

lemma run_importStatements_eq_error_iff (hnamed : script.IsNamed) {fault : Fault} :
    ((importStatements script.engine files database remoteSchema localSchema server list
      options).run .start).1 = .error fault
        ↔ script.StopsAt (files .start) database remoteSchema localSchema server list options
          fault := by
  have hcheck : (checkDatabase files database).run .start
      = (checkOptions (files .start) .server [("database", database)], .start) := rfl
  rw [importStatements, StopsAt]
  rcases hchecked : checkOptions (files .start) .server [("database", database)] with fault' | _ <;>
    rw [hchecked] at hcheck
  · rw [Action.run_bind_of_error _ hcheck]
    constructor
    · rintro ⟨⟩
      exact .inl rfl
    · rintro (h | ⟨h, -⟩) <;> cases h
      rfl
  rw [Action.run_bind_of_ok _ hcheck]
  rcases ImportOptions.ofList options with fault' | importOptions
  · constructor
    · rintro ⟨⟩
      exact .inr ⟨rfl, .inl rfl⟩
    · rintro (h | ⟨-, h | ⟨_, h, -⟩⟩) <;> cases h
      rfl
  · refine (run_importSchema_eq_error_iff hnamed).trans
      ⟨fun h => .inr ⟨rfl, .inr ⟨importOptions, rfl, h⟩⟩, ?_⟩
    rintro (h | ⟨-, h | ⟨_, h, hfails⟩⟩) <;> cases h
    exact hfails

end CommandLine

end Script

/-- An import is all or nothing, whatever comes of its statements. Each statement defines its table,
by the columns that are listed for it. The calls for the next statement give one for each table of
the listing up to the first failure, which they give as well; behind it, or behind the end, they
give nothing and leave the listing alone. As a whole an import gives the statements of all tables
exactly if nothing fails, and else the first failure. A command line for it asks its writer for the
statements of all tables, in their order and up to the first write that fails; if one of them is not
made it asks for nothing and fails for that. -/
theorem import_all_or_nothing (script : Script) (hnamed : script.IsNamed)
    (request : ImportRequest) (path : String) :
    (∀ n table text, script.definition request n table = .ok text →
        ∃ rows, (script.columns n (columnsQuery table)).bind Answer.all = .ok rows
          ∧ request.IsDefinition table (rows.map RemoteColumn.ofRow) text)
      ∧ (∀ fault, script.begins request = .error fault →
        ((SchemaImport.new script.engine path request).run .start).1 = .error fault)
      ∧ (∀ listing, script.begins request = .ok listing →
        ∃ run w, (SchemaImport.new script.engine path request).run .start = (.ok run, w)
          ∧ w.listed = 0 ∧ script.GoesBy (script.outcomes request 0 listing) (run, w))
      ∧ (∀ statements, ((importSchema script.engine path request).run .start).1 = .ok statements
        ↔ script.Completes request statements)
      ∧ (∀ fault, ((importSchema script.engine path request).run .start).1 = .error fault
        ↔ script.FailsFirst request fault)
      ∧ ∀ files words level format database remoteSchema localSchema server list options,
        Command.Invocation.read words = .ok ⟨level, format,
          .importSchema database remoteSchema localSchema server list options⟩ →
        (∀ statements, script.Prepares (files .start) database remoteSchema localSchema server list
            options statements → ∀ {ω : Type} (write : String → Action ω Unit) (out : ω),
          Command.Writes script.engine files words .start write out
            (statements.map (· ++ ";\n\n")))
        ∧ (∀ fault, script.StopsAt (files .start) database remoteSchema localSchema server list
            options fault → ∀ {ω : Type} (write : String → Action ω Unit) (out : ω),
          Command.FailsUnwritten script.engine files words .start write out fault)
        ∧ ((∃ statements, script.Prepares (files .start) database remoteSchema localSchema server
            list options statements)
          ∨ ∃ fault, script.StopsAt (files .start) database remoteSchema localSchema server list
            options fault) := by
  obtain ⟨w, hnew, hw⟩ := script.exists_run_new request path
  refine ⟨fun n table text => Script.isDefinition_of_definition, fun fault hbegins => ?_,
    fun listing hbegins => ?_, fun statements => ?_, fun fault => ?_, ?_⟩
  · rw [hnew, hbegins]
    rfl
  · rw [hbegins] at hnew hw
    obtain rfl := hw rfl
    exact ⟨_, _, hnew, rfl, (Script.gives_of_begins hnamed hbegins).goesBy⟩
  · exact Script.run_importSchema_eq_ok_iff hnamed
  · exact Script.run_importSchema_eq_error_iff hnamed
  · intro files words level format database remoteSchema localSchema server list options hread
    refine ⟨fun statements hprepares => ?_, fun fault hstops => ?_, ?_⟩
    · have hmade := (Script.run_importStatements_eq_ok_iff hnamed).2 hprepares
      intro ω write out
      exact Command.writes_of_importStatements hread hmade write out
    · have hmade := (Script.run_importStatements_eq_error_iff hnamed).2 hstops
      intro ω write out
      exact Command.failsUnwritten_of_importStatements hread hmade write out
    · cases hmade : ((Command.importStatements script.engine files database remoteSchema localSchema
          server list options).run .start).1 with
      | ok statements =>
        exact .inl ⟨statements, (Script.run_importStatements_eq_ok_iff hnamed).1 hmade⟩
      | error fault =>
        exact .inr ⟨fault, (Script.run_importStatements_eq_error_iff hnamed).1 hmade⟩

/-- The columns of a first table can be listed, those of a second one cannot. -/
def brokenScript : Script where
  opening := .ok ()
  listing := .ok ⟨[[.text "goods"], [.text "orders"]], none⟩
  columns n _ :=
    if n = 0 then .ok ⟨[[.integer 0, .text "id", .text "INTEGER", .integer 1, .null]], none⟩
    else .error (.prepareFailed "disk I/O error")

/-- Nothing is written of the first table if the second one fails. -/
theorem import_all_or_nothing_broken :
    brokenScript.IsNamed
      ∧ brokenScript.FailsFirst ⟨"main", "public", "shop", .all, .standard⟩
        (.prepareFailed "disk I/O error")
      ∧ ((importSchema brokenScript.engine "shop.db"
        ⟨"main", "public", "shop", .all, .standard⟩).run .start).1
          = .error (.prepareFailed "disk I/O error")
      ∧ Command.Invocation.read ["import-schema", "-d", "shop.db", "-s", "shop"]
        = .ok ⟨.warn, .pretty, .importSchema "shop.db" "main" "public" "shop" .all []⟩
      ∧ Command.FailsUnwritten brokenScript.engine (fun _ _ => .file)
        ["import-schema", "-d", "shop.db", "-s", "shop"] .start Command.buffer ""
        (.prepareFailed "disk I/O error") := by
  have hnamed : brokenScript.IsNamed := by
    rintro _ ⟨⟩
    decide
  have hread : Command.Invocation.read ["import-schema", "-d", "shop.db", "-s", "shop"]
      = .ok ⟨.warn, .pretty, .importSchema "shop.db" "main" "public" "shop" .all []⟩ := by
    with_unfolding_all rfl
  have hfails : brokenScript.FailsFirst ⟨"main", "public", "shop", .all, .standard⟩
      (.prepareFailed "disk I/O error") := .inr ⟨_, [_], [], rfl, rfl⟩
  obtain ⟨-, -, -, -, herror, hwords⟩ := import_all_or_nothing brokenScript hnamed
    ⟨"main", "public", "shop", .all, .standard⟩ "shop.db"
  obtain ⟨-, hunwritten, -⟩ := hwords (fun _ _ => .file) _ _ _ _ _ _ _ _ _ hread
  refine ⟨hnamed, hfails, (herror _).2 hfails, hread, hunwritten _ ?_ Command.buffer ""⟩
  exact .inr ⟨rfl, .inr ⟨.standard, rfl, hfails⟩⟩

end ForeignData
