import ForeignData.Proofs.Change.Record

/-!
# Changes and their statements

Each placeholder of the statement of a mutation is bound to the value of the column beside it, and
the last one to the key of the row. They are bound one after the other in front of the first step,
as the record of an engine shows.
-/

namespace ForeignData

open Sqlite

/-- The statement of a plan and what is bound to its placeholders agree about some columns. -/
structure ChangePlan.Agrees (plan : ChangePlan) (table : HostTable) (remoteName : String)
    (columns : List HostColumn) : Prop where
  /-- The columns are those of the numbers. -/
  found : plan.mutation.targets.map table.column? = columns.map some
  /-- The statement names the remote table, and each column beside its placeholder. -/
  lexes : IsNulFree remoteName → (∀ c ∈ columns, IsNulFree c.name) →
    tokens plan.query.toList = plan.mutation.lexemes remoteName (columns.map HostColumn.name)
  numbered : IsNulFree remoteName → (∀ c ∈ columns, IsNulFree c.name) →
    plan.placeholders = (List.range' 1 (plan.mutation.placeholderCount columns.length)).map some
  /-- SQLite reads it as one change, unless there are more columns than it takes. -/
  reads : IsNulFree remoteName → (∀ c ∈ columns, IsNulFree c.name) →
    columns.length ≤ plan.mutation.maxTargets →
    parse plan.query = .ok (some ⟨plan.mutation.remote remoteName (columns.map HostColumn.name),
      plan.mutation.placeholderCount columns.length⟩)
  /-- With a null character in a name it is not prepared. -/
  refused : ¬(IsNulFree remoteName ∧ ∀ c ∈ columns, IsNulFree c.name) →
    ∀ (c : Connection) (store : Store), (engine.prepare c plan.query).run store
      = (.error (.prepareFailed "query contains a nul byte"), store)
  /-- An operation on a change that runs binds the values of the columns for its row, in order, and
  the key of the row. -/
  binds {τ : Type} (source : TableSource) : ∃ change : ForeignChange τ,
    ForeignChange.new plan table source = .ok change
      ∧ ∀ row : HostRow,
        (∀ n ∈ plan.mutation.targets, ∀ i, table.position? n = some i → i.val < row.length) →
        ∃ values, plan.mutation.targets.map (table.value? row) = values.map some
          ∧ ∀ {σ κ : Type} (e : Engine σ κ τ) (rowid : Int64) (t : τ) (w : σ) (record : List Event),
            (plan.mutation.params (columns.zip values) rowid).map Param.index
                = List.range' 1 (plan.mutation.placeholderCount columns.length)
              ∧ ∃ result asked rest, Action.BindsFirst beside
                (plan.mutation.operation e.recorded rowid row)
                (plan.mutation.operation e rowid row) ({ change with state := .began t }, w) record
                (plan.mutation.params (columns.zip values) rowid) result asked rest

namespace Mutation

variable {m : Mutation} {table : HostTable} {remoteName : String} {plan : ChangePlan}

/-- The statement of a plan asks for what is bound for a row. -/
lemma exists_agrees (h : m.plan table remoteName = .ok plan) :
    ∃ columns, plan.Agrees table remoteName columns := by
  obtain ⟨rfl, columns, hcolumns, hstatement⟩ := plan_eq_ok h
  have hserves := serves_of_statement hcolumns hstatement
  have hlength : (columns.map HostColumn.name).length = plan.mutation.targets.length := by
    rw [List.length_map, length_eq_of_map_eq_map hserves.found]
  refine ⟨columns, hserves.found, fun _ _ => tokens_statement hstatement,
    fun _ _ => hserves.placeholders, fun _ _ hmax => ?_, fun hnul c store => ?_, fun source => ?_⟩
  · rw [← List.length_map HostColumn.name] at hmax ⊢
    exact parse_statement hstatement hmax
  · refine prepare_run_of_not_isNulFree (fun hquery => hnul ?_) c store
    obtain ⟨hname, hnames⟩ := (isNulFree_statement_iff hstatement hlength).1 hquery
    exact ⟨hname, List.forall_mem_map.1 hnames⟩
  · obtain ⟨change, hnew, hrows⟩ := hserves.runs source
    refine ⟨change, hnew, fun row hrow => ?_⟩
    obtain ⟨values, hvalues, hindex, hrun⟩ := hrows row hrow
    refine ⟨values, hvalues, fun e rowid t w record => ⟨hindex rowid, ?_⟩⟩
    have hbegan : ({ change with state := .began t } : ForeignChange _).state = .began t := rfl
    obtain ⟨result, asked, rest, hbinds⟩ := ForeignChange.exists_bindsFirst_executeRow (e := e)
      hbegan (plan.mutation.params (columns.zip values) rowid) row w record
    exact ⟨result, asked, rest,
      hbinds.congr (hrun e.recorded rowid (.began t) (w, record)) (hrun e rowid (.began t) w)⟩

/-- A statement is made unless an update has nothing to give values to. -/
lemma exists_statement_iff (remoteName : String) {names : List String}
    (h : names.length = m.targets.length) :
    (∃ query, m.statement remoteName names = .ok query) ↔ m ≠ .update [] := by
  cases m with
  | insert ts =>
    constructor
    · simp
    · intro _
      cases names <;> exact ⟨_, rfl⟩
  | update ts =>
    cases names with
    | nil =>
      obtain rfl : ts = [] := List.eq_nil_of_length_eq_zero h.symm
      simp [statement]
    | cons s names =>
      constructor
      · rintro - heq
        obtain rfl := Mutation.update.inj heq
        cases h
      · intro _
        exact ⟨_, rfl⟩
  | delete =>
    constructor
    · simp
    · intro _
      exact ⟨_, rfl⟩

/-- A mutation is planned unless it has an unknown target, or is an update without any. -/
lemma exists_plan_iff (m : Mutation) (table : HostTable) (remoteName : String) :
    (∃ plan, m.plan table remoteName = .ok plan)
      ↔ (∀ n ∈ m.targets, table.column? n ≠ none) ∧ m ≠ .update [] := by
  rw [← HostTable.exists_columnsOf_iff]
  constructor
  · rintro ⟨plan, h⟩
    obtain ⟨-, columns, hcolumns, hstatement⟩ := plan_eq_ok h
    refine ⟨⟨columns, hcolumns⟩, ?_⟩
    have hlength := length_eq_of_map_eq_map (HostTable.columnsOf_eq_ok_iff.1 hcolumns)
    refine (exists_statement_iff remoteName ?_).1 ⟨plan.query, hstatement⟩
    rw [List.length_map, List.length_map, hlength]
  · rintro ⟨⟨columns, hcolumns⟩, hne⟩
    have hnames : (columns.map fun c => quoteRemoteName c.name).length = m.targets.length := by
      rw [List.length_map, length_eq_of_map_eq_map (HostTable.columnsOf_eq_ok_iff.1 hcolumns)]
    obtain ⟨query, hquery⟩ := (exists_statement_iff remoteName hnames).2 hne
    refine ⟨⟨m, query⟩, ?_⟩
    rw [Mutation.plan, hcolumns]
    change (m.statement remoteName _ >>= _) = _
    rw [hquery]
    rfl

end Mutation

/-- Whatever the names and the targets, what is bound for a row is what the statement asks for. A
mutation is refused if and only if a target is unknown or an update has none. -/
theorem ChangePlan.agrees_of_plan (m : Mutation) (table : HostTable) (remoteName : String) :
    ((∃ fault, m.plan table remoteName = .error fault)
        ↔ (∃ n ∈ m.targets, table.column? n = none) ∨ m = .update [])
      ∧ ∀ plan, m.plan table remoteName = .ok plan →
        plan.mutation = m ∧ ∃ columns, plan.Agrees table remoteName columns := by
  constructor
  · have hok := Mutation.exists_plan_iff m table remoteName
    have herror : (∃ fault, m.plan table remoteName = .error fault)
        ↔ ¬∃ plan, m.plan table remoteName = .ok plan := by
      cases m.plan table remoteName with
      | error fault => simp
      | ok plan => simp
    rw [herror, hok, not_and_or]
    push Not
    rfl
  · intro plan h
    exact ⟨(Mutation.plan_eq_ok h).1, Mutation.exists_agrees h⟩

/-- Goods whose columns have quotes in their names. -/
def markedGoods : HostTable where
  oid := 16384
  name := "goods"
  columns := [⟨"id", 1, .int8, true⟩, ⟨"na\"me", 2, .text, false⟩, ⟨"\"", 3, .numeric, false⟩]

/-- The columns that an update of marked goods names are found, and so are their placeholders. -/
theorem ChangePlan.agrees_of_plan_markedGoods :
    ∃ plan, (Mutation.update [3, 2]).plan markedGoods "old \"goods\"" = .ok plan
      ∧ plan.mutation = .update [3, 2]
      ∧ plan.placeholders = [some 1, some 2, some 3]
      ∧ parse plan.query = .ok (some ⟨(Mutation.update [3, 2]).remote "old \"goods\"" ["\"", "na\"me"],
        3⟩)
      ∧ plan.Agrees markedGoods "old \"goods\""
        [⟨"\"", 3, .numeric, false⟩, ⟨"na\"me", 2, .text, false⟩] := by
  obtain ⟨hmutation, columns, hagrees⟩ :=
    (agrees_of_plan (.update [3, 2]) markedGoods "old \"goods\"").2 _ rfl
  have hfound : [⟨"\"", 3, .numeric, false⟩, ⟨"na\"me", 2, .text, false⟩].map some
      = columns.map some := hagrees.found
  obtain rfl := (Option.some_injective HostColumn).list_map hfound
  have hname : IsNulFree "old \"goods\"" := by decide
  exact ⟨_, rfl, hmutation, hagrees.numbered hname (by decide),
    hagrees.reads hname (by decide) (by decide), hagrees⟩

end ForeignData
