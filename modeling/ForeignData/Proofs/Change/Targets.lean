import Mathlib.Data.List.Forall2
import ForeignData.Change.Basic
import ForeignData.Proofs.Action
import ForeignData.Proofs.Change.Statement

/-!
# Targets of changes

The columns of a mutation are looked up twice: by their numbers for the statement, and by their
places in a row for the values that are bound. Both find the same columns, so that an operation runs
the statement with the values of the columns that it names, and with the key of the row behind them.
-/

namespace ForeignData

open Sqlite

lemma exists_map_some_iff {α β : Type} {f : α → Option β} {l : List α} :
    (∃ values : List β, l.map f = values.map some) ↔ ∀ a ∈ l, f a ≠ none := by
  induction l with
  | nil => exact ⟨fun _ => nofun, fun _ => ⟨[], rfl⟩⟩
  | cons a l ih =>
    rw [List.forall_mem_cons, ← ih]
    constructor
    · rintro ⟨values, h⟩
      cases values with
      | nil => cases h
      | cons b values =>
        obtain ⟨hhead, htail⟩ := List.cons.inj h
        exact ⟨by simp [hhead], values, htail⟩
    · rintro ⟨ha, values, h⟩
      obtain ⟨b, hb⟩ := Option.ne_none_iff_exists'.1 ha
      exact ⟨b :: values, by rw [List.map_cons, List.map_cons, hb, h]⟩

lemma length_eq_of_map_eq_map {α β γ : Type} {f : α → γ} {g : β → γ} {l : List α} {l' : List β}
    (h : l.map f = l'.map g) : l.length = l'.length := by
  have hlength := congrArg List.length h
  rwa [List.length_map, List.length_map] at hlength

namespace HostTable

variable {table : HostTable} {numbers : List AttrNumber} {columns : List HostColumn}

/-- A number is looked up in the same way for a column and for a place. -/
lemma column?_eq (n : AttrNumber) :
    table.column? n = (table.position? n).map table.columns.get :=
  List.find?_eq_map_findFinIdx?_getElem

lemma columnsOf_eq_ok_iff :
    table.columnsOf numbers = .ok columns ↔ numbers.map table.column? = columns.map some := by
  induction numbers generalizing columns with
  | nil => cases columns <;> simp [columnsOf]
  | cons n numbers ih =>
    rw [columnsOf, List.map_cons]
    cases hcolumn : table.column? n with
    | none => cases columns <;> simp
    | some column =>
      constructor
      · intro h
        cases hrest : table.columnsOf numbers with
        | error fault =>
          rw [hrest] at h
          cases h
        | ok rest =>
          rw [hrest] at h
          obtain rfl := Except.ok.inj h
          rw [List.map_cons, ih.1 hrest]
      · intro h
        cases columns with
        | nil => cases h
        | cons c columns =>
          obtain ⟨hhead, htail⟩ := List.cons.inj h
          obtain rfl := Option.some.inj hhead
          rw [ih.2 htail]
          rfl

/-- The columns are found unless one of the numbers is unknown. -/
lemma exists_columnsOf_iff :
    (∃ columns, table.columnsOf numbers = .ok columns) ↔ ∀ n ∈ numbers, table.column? n ≠ none := by
  simp only [columnsOf_eq_ok_iff, exists_map_some_iff]

def value? (table : HostTable) (row : HostRow) (n : AttrNumber) : Option HostValue :=
  (table.position? n).bind fun i => row[i.val]?

end HostTable

/-! ### Places and values -/

namespace ForeignChange

variable {table : HostTable} {numbers : List AttrNumber} {columns : List HostColumn}

/-- The places of columns that are found are found as well. -/
lemma exists_targetsOf (h : numbers.map table.column? = columns.map some) :
    ∃ places : List (Fin table.columns.length),
      numbers.map table.position? = places.map some
        ∧ places.map table.columns.get = columns
        ∧ targetsOf table numbers
          = .ok (places.map fun i => (i.val, (table.columns.get i).type)) := by
  induction numbers generalizing columns with
  | nil =>
    cases columns with
    | nil => exact ⟨[], rfl, rfl, rfl⟩
    | cons c columns => cases h
  | cons n numbers ih =>
    cases columns with
    | nil => cases h
    | cons c columns =>
      obtain ⟨hhead, htail⟩ := List.cons.inj h
      obtain ⟨places, hplaces, hcolumns, htargets⟩ := ih htail
      rw [HostTable.column?_eq, Option.map_eq_some_iff] at hhead
      obtain ⟨i, hi, hc⟩ := hhead
      refine ⟨i :: places, ?_, ?_, ?_⟩
      · rw [List.map_cons, List.map_cons, hi, hplaces]
      · rw [List.map_cons, hcolumns, ← hc]
      · rw [targetsOf_cons, hi, htargets]
        rfl

/-- A row that is long enough has values at places, and these are the values of their columns. -/
lemma exists_values {row : HostRow} {places : List (Fin table.columns.length)}
    (hplaces : numbers.map table.position? = places.map some)
    (hrow : ∀ n ∈ numbers, ∀ i, table.position? n = some i → i.val < row.length) :
    ∃ values : List HostValue, numbers.map (table.value? row) = values.map some
      ∧ places.map (fun i => row[i.val]?) = values.map some := by
  have hvalue : numbers.map (table.value? row) = places.map fun i => row[i.val]? := by
    have hbind := congrArg (List.map fun place => place.bind fun i => row[i.val]?) hplaces
    rw [List.map_map, List.map_map] at hbind
    exact hbind
  rw [hvalue]
  have hfound : ∀ i ∈ places, row[i.val]? ≠ none := by
    intro i hi
    have hmem : some i ∈ numbers.map table.position? := by
      rw [hplaces]
      exact List.mem_map_of_mem hi
    obtain ⟨n, hn, hposition⟩ := List.mem_map.1 hmem
    rw [List.getElem?_eq_getElem (hrow n hn i hposition)]
    exact Option.some_ne_none _
  obtain ⟨values, hvalues⟩ := exists_map_some_iff.2 hfound
  exact ⟨values, hvalues, hvalues⟩

/-- The parameters for places are those of the values that stand there. -/
lemma targetParams_eq_ok {row : HostRow} {places : List (Fin table.columns.length)}
    {values : List HostValue} (h : places.map (fun i => row[i.val]?) = values.map some)
    (index : Nat) :
    targetParams row index (places.map fun i => (i.val, (table.columns.get i).type))
      = .ok (((places.map table.columns.get).zip values).mapIdx fun k (column, value) =>
          ⟨k + index, column.type, value⟩) := by
  induction places generalizing values index with
  | nil => rfl
  | cons i places ih =>
    cases values with
    | nil => cases h
    | cons value values =>
      obtain ⟨hhead, htail⟩ := List.cons.inj h
      have hvalue : row[i.val]? = some value := hhead
      rw [List.map_cons, targetParams, hvalue, List.map_cons, List.zip_cons_cons,
        List.mapIdx_cons]
      simp only [ih htail (index + 1)]
      simp only [Except.map, Nat.zero_add, Nat.add_assoc, Nat.add_comm 1]

/-- A row that there are parameters for is long enough. -/
lemma lt_length_of_targetParams {row : HostRow} {index : Nat} {targets : List (Nat × HostType)}
    {params : List Param} (h : targetParams row index targets = .ok params) :
    ∀ target ∈ targets, target.1 < row.length := by
  induction targets generalizing index params with
  | nil => exact fun target htarget => absurd htarget List.not_mem_nil
  | cons target targets ih =>
    obtain ⟨place, type⟩ := target
    rw [targetParams] at h
    cases hvalue : row[place]? with
    | none =>
      rw [hvalue] at h
      cases h
    | some value =>
      simp only [hvalue] at h
      cases hrest : targetParams row (index + 1) targets with
      | error fault =>
        rw [hrest] at h
        cases h
      | ok rest =>
        exact List.forall_mem_cons.2 ⟨(List.getElem?_eq_some_iff.1 hvalue).1, ih hrest⟩

lemma mem_targetsOf {targets : List (Nat × HostType)}
    (h : targetsOf table numbers = .ok targets) {n : AttrNumber} (hn : n ∈ numbers)
    {i : Fin table.columns.length} (hposition : table.position? n = some i) :
    (i.val, (table.columns.get i).type) ∈ targets := by
  induction numbers generalizing targets with
  | nil => cases hn
  | cons n' numbers ih =>
    rw [targetsOf_cons] at h
    cases hplace : table.position? n' with
    | none =>
      rw [hplace] at h
      cases h
    | some j =>
      rw [hplace] at h
      cases hrest : targetsOf table numbers with
      | error fault =>
        rw [hrest] at h
        cases h
      | ok rest =>
        rw [hrest] at h
        obtain rfl := Except.ok.inj h
        rcases List.mem_cons.1 hn with rfl | hn
        · rw [hposition] at hplace
          obtain rfl := Option.some.inj hplace
          exact List.mem_cons_self
        · exact List.mem_cons_of_mem _ (ih hrest hn)

lemma targetParams_of_short {targets : List (Nat × HostType)}
    (h : targetsOf table numbers = .ok targets) {row : HostRow}
    (hshort : ¬∀ n ∈ numbers, ∀ i, table.position? n = some i → i.val < row.length) (index : Nat) :
    ∃ fault, targetParams row index targets = .error fault := by
  cases hparams : targetParams row index targets with
  | error fault => exact ⟨fault, rfl⟩
  | ok params =>
    refine absurd (fun n hn i hposition => ?_) hshort
    exact lt_length_of_targetParams hparams _ (mem_targetsOf h hn hposition)

end ForeignChange

/-! ### Parameters of an operation -/

namespace Mutation

/-- What is bound for a row: the values given to columns, each as of the type of its column, and
behind them the key of a row that is there already. -/
def params (m : Mutation) (given : List (HostColumn × HostValue)) (rowid : Int64) : List Param :=
  (given.mapIdx fun k (column, value) => ⟨k + 1, column.type, value⟩)
    ++ if m.needsRowid then [⟨given.length + 1, .int8, some (.int8 rowid)⟩] else []

def operation {σ κ τ : Type} (m : Mutation) (e : Engine σ κ τ) (rowid : Int64) (row : HostRow) :
    Action (ForeignChange τ × σ) (Option HostRow) :=
  match m with
  | insert _ => ForeignChange.insert e row
  | update _ => ForeignChange.update e rowid row
  | delete => ForeignChange.delete e rowid row

end Mutation

/-- The placeholders of the statement of a plan, in order; none for one that has no number. -/
def ChangePlan.placeholders (plan : ChangePlan) : List (Option Nat) :=
  (tokens plan.query.toList).filterMap Mutation.placeholderOf?

/-- Each operation of a change with a plan runs the statement with the values of some columns. -/
structure ChangePlan.Serves (plan : ChangePlan) (table : HostTable) (columns : List HostColumn) :
    Prop where
  found : plan.mutation.targets.map table.column? = columns.map some
  placeholders : plan.placeholders
    = (List.range' 1 (plan.mutation.placeholderCount columns.length)).map some
  runs {τ : Type} (source : TableSource) : ∃ change : ForeignChange τ,
    ForeignChange.new plan table source = .ok change
      ∧ ∀ row : HostRow,
        (∀ n ∈ plan.mutation.targets, ∀ i, table.position? n = some i → i.val < row.length) →
        ∃ values, plan.mutation.targets.map (table.value? row) = values.map some
          ∧ (∀ rowid, (plan.mutation.params (columns.zip values) rowid).map Param.index
            = List.range' 1 (plan.mutation.placeholderCount columns.length))
          ∧ ∀ {σ κ : Type} (e : Engine σ κ τ) (rowid : Int64) (state : ChangeState τ) (w : σ),
            (plan.mutation.operation e rowid row).run ({ change with state }, w)
              = (ForeignChange.executeRow e (plan.mutation.params (columns.zip values) rowid)
                  row).run ({ change with state }, w)

namespace Mutation

variable {m : Mutation} {table : HostTable} {remoteName : String} {plan : ChangePlan}
  {columns : List HostColumn}

lemma plan_eq_ok (h : m.plan table remoteName = .ok plan) :
    plan.mutation = m ∧ ∃ columns, table.columnsOf m.targets = .ok columns
      ∧ m.statement remoteName ((columns.map HostColumn.name).map quoteRemoteName)
        = .ok plan.query := by
  rw [Mutation.plan] at h
  cases hcolumns : table.columnsOf m.targets with
  | error fault =>
    rw [hcolumns] at h
    cases h
  | ok columns =>
    rw [hcolumns] at h
    change (m.statement remoteName (columns.map fun c => quoteRemoteName c.name) >>= _) = _ at h
    cases hstatement : m.statement remoteName (columns.map fun c => quoteRemoteName c.name) with
    | error fault =>
      rw [hstatement] at h
      cases h
    | ok query =>
      rw [hstatement] at h
      obtain rfl := Except.ok.inj h
      exact ⟨rfl, columns, rfl, by rw [List.map_map]; exact hstatement⟩

lemma index_params (m : Mutation) (given : List (HostColumn × HostValue)) (rowid : Int64) :
    (m.params given rowid).map Param.index
      = List.range' 1 (given.length + if m.needsRowid then 1 else 0) := by
  have hgiven : (given.mapIdx fun k (column, value) => Param.mk (k + 1) column.type value).map
      Param.index = List.range' 1 given.length := by
    apply List.ext_getElem
    · simp
    · intro k _ _
      simp [Nat.add_comm]
  rw [params, List.map_append, hgiven]
  cases m.needsRowid with
  | true =>
    rw [if_pos rfl, if_pos rfl, List.range'_concat, Nat.one_mul, Nat.add_comm 1]
    rfl
  | false =>
    rw [if_neg Bool.false_ne_true, if_neg Bool.false_ne_true]
    exact List.append_nil _

lemma placeholderCount_eq (m : Mutation) :
    m.placeholderCount m.targets.length = m.targets.length + if m.needsRowid then 1 else 0 := by
  cases m <;> rfl

/-- An operation that gives values takes them from its row, and then runs the statement with them,
and with the key behind them if there is one. -/
lemma operation_run_eq {σ κ τ : Type} (e : Engine σ κ τ) (change : ForeignChange τ)
    (hmutation : change.plan.mutation = m) (hdelete : m ≠ .delete) (row : HostRow) (rowid : Int64)
    (w : σ) :
    (m.operation e rowid row).run (change, w)
      = (Action.ofExcept (ForeignChange.targetParams row 1 change.targets) >>= fun params =>
          ForeignChange.executeRow e
            (params
              ++ if m.needsRowid then [⟨params.length + 1, .int8, some (.int8 rowid)⟩] else [])
            row).run (change, w) := by
  cases m with
  | insert ts =>
    change (ForeignChange.insert e row).run (change, w) = _
    rw [ForeignChange.insert, Action.run_get_bind]
    simp only [hmutation, needsRowid, Bool.false_eq_true, if_false, List.append_nil]
  | update ts =>
    change (ForeignChange.update e rowid row).run (change, w) = _
    rw [ForeignChange.update, Action.run_get_bind]
    simp only [hmutation, needsRowid, if_true]
    rfl
  | delete => exact absurd rfl hdelete

/-- For a row that is long enough an operation runs the statement with the parameters of its
values. -/
lemma operation_run {σ κ τ : Type} (e : Engine σ κ τ) (change : ForeignChange τ)
    (hmutation : change.plan.mutation = m) {row : HostRow} {params : List Param}
    (hparams : ForeignChange.targetParams row 1 change.targets = .ok params)
    (hdelete : m = .delete → params = []) (rowid : Int64) (w : σ) :
    (m.operation e rowid row).run (change, w)
      = (ForeignChange.executeRow e
          (params ++ if m.needsRowid then [⟨params.length + 1, .int8, some (.int8 rowid)⟩] else [])
          row).run (change, w) := by
  by_cases hgives : m = .delete
  · obtain rfl := hdelete hgives
    subst hgives
    change (ForeignChange.delete e rowid row).run (change, w) = _
    rw [ForeignChange.delete, Action.run_get_bind]
    simp only [hmutation]
    rfl
  · have hbound : (Action.ofExcept (ForeignChange.targetParams row 1 change.targets)).run
        (change, w) = (.ok params, (change, w)) := by
      rw [Action.run_ofExcept, hparams]
    rw [operation_run_eq e change hmutation hgives, Action.run_bind_of_ok _ hbound]

/-- For a row that is too short nothing is done. -/
lemma operation_run_of_error {σ κ τ : Type} (e : Engine σ κ τ) (change : ForeignChange τ)
    (hmutation : change.plan.mutation = m) {row : HostRow} {fault : Fault}
    (hparams : ForeignChange.targetParams row 1 change.targets = .error fault)
    (hdelete : m ≠ .delete) (rowid : Int64) (w : σ) :
    (m.operation e rowid row).run (change, w) = (.error fault, (change, w)) := by
  have hfailed : (Action.ofExcept (ForeignChange.targetParams row 1 change.targets)).run (change, w)
      = (.error fault, (change, w)) := by
    rw [Action.run_ofExcept, hparams]
  rw [operation_run_eq e change hmutation hdelete, Action.run_bind_of_error _ hfailed]

/-- What is asked of the rows of a mutation is what its statement asks for. -/
lemma serves_of_statement (hcolumns : table.columnsOf plan.mutation.targets = .ok columns)
    (hstatement : plan.mutation.statement remoteName
      ((columns.map HostColumn.name).map quoteRemoteName) = .ok plan.query) :
    plan.Serves table columns := by
  have hfound := HostTable.columnsOf_eq_ok_iff.1 hcolumns
  refine ⟨hfound, ?_, ?_⟩
  · rw [ChangePlan.placeholders, tokens_statement hstatement, filterMap_lexemes, List.length_map]
  · intro τ source
    obtain ⟨places, hplaces, rfl, htargets⟩ := ForeignChange.exists_targetsOf hfound
    refine ⟨_, congrArg (Except.map _) htargets, ?_⟩
    intro row hrow
    obtain ⟨values, hvalue, hvalues⟩ := ForeignChange.exists_values hplaces hrow
    have hplacesLength := length_eq_of_map_eq_map hplaces
    have hvaluesLength := length_eq_of_map_eq_map hvalues
    have hgiven : ((places.map table.columns.get).zip values).length
        = plan.mutation.targets.length := by
      rw [List.length_zip, List.length_map, ← hvaluesLength, min_self, hplacesLength]
    refine ⟨values, hvalue, fun rowid => ?_, fun e rowid state w => ?_⟩
    · rw [index_params, hgiven, List.length_map, ← hplacesLength, placeholderCount_eq]
    · have hparams := ForeignChange.targetParams_eq_ok hvalues 1
      have hlengthParams : (((places.map table.columns.get).zip values).mapIdx
          fun k (column, value) => Param.mk (k + 1) column.type value).length
            = plan.mutation.targets.length := by
        rw [List.length_mapIdx, hgiven]
      have hdelete : plan.mutation = .delete →
          (((places.map table.columns.get).zip values).mapIdx
            fun k (column, value) => Param.mk (k + 1) column.type value) = [] := by
        intro hdelete
        rw [hdelete] at hlengthParams
        exact List.eq_nil_of_length_eq_zero hlengthParams
      have hrun := operation_run e ⟨plan, source, _, state⟩ rfl hparams hdelete rowid w
      rw [hlengthParams, ← hgiven] at hrun
      exact hrun

lemma exists_serves (h : m.plan table remoteName = .ok plan) :
    ∃ columns, plan.Serves table columns := by
  obtain ⟨rfl, columns, hcolumns, hstatement⟩ := plan_eq_ok h
  exact ⟨columns, serves_of_statement hcolumns hstatement⟩

end Mutation

end ForeignData
