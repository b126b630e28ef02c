import ForeignData.Proofs.Import.Query
import ForeignData.Proofs.Sqlite.Access
import ForeignData.Proofs.Sqlite.TextTruth
import ForeignData.Proofs.Sqlite.Walk

/-!
# The tables of a catalog

The query for tables goes through the entries of the catalog in their order. It passes the tables
that a list admits, but for those whose name begins with `sqlite` and has a character behind it: the
underscore of the reserved prefix stands for any character in a pattern.
-/

namespace ForeignData

open Sqlite

/-! ### Names -/

/-- Whether SQLite keeps a name for itself: it begins with `sqlite_`, in any case. -/
def isReserved (name : String) : Bool :=
  (name.toList.take 7).map Char.toLower == "sqlite_".toList

/-- Whether the query for tables leaves a name out: it begins with `sqlite`, in any case, and there
is a character behind that. -/
def isLeftOut (name : String) : Bool :=
  (name.toList.take 6).map Char.toLower == "sqlite".toList && decide (6 < name.toList.length)

def ImportList.admits : ImportList → String → Bool
  | all, _ => true
  | limitTo names, name => names.contains name
  | except names, name => !names.contains name

lemma isLeftOut_of_isReserved {name : String} (h : isReserved name = true) :
    isLeftOut name = true := by
  have hmap := eq_of_beq h
  have hlength := congrArg List.length hmap
  have hseven : "sqlite_".toList.length = 7 := rfl
  rw [List.length_map, List.length_take, hseven] at hlength
  have htake := congrArg (List.take 6) hmap
  rw [← List.map_take, List.take_take] at htake
  rw [isLeftOut, Bool.and_eq_true, beq_iff_eq, decide_eq_true_eq]
  exact ⟨htake, by omega⟩

/-- The pattern of the reserved prefix fits more than the prefix. -/
lemma likeMatches_reserved (name : String) :
    likeMatches "sqlite_%".toList name.toList = isLeftOut name := by
  have hword : ("sqlite".toList.all fun p => p != '%' && p != '_') = true := by decide
  have hlower : "sqlite".toList.map Char.toLower = "sqlite".toList := by decide
  have hpattern : "sqlite_%".toList = "sqlite".toList ++ ['_', '%'] := rfl
  rw [Bool.eq_iff_iff, hpattern, likeMatches_append hword, isLeftOut, Bool.and_eq_true,
    beq_iff_eq, decide_eq_true_eq, hlower]
  constructor
  · rintro ⟨head, tail, hname, hhead, htail⟩
    have hlength : head.length = 6 := by
      rw [← List.length_map, hhead]
      rfl
    rw [likeMatches_one_any, Bool.not_eq_true', List.isEmpty_eq_false_iff] at htail
    have hpos := List.length_pos_iff.2 htail
    rw [hname, List.take_left' hlength, List.length_append]
    exact ⟨hhead, by omega⟩
  · rintro ⟨hhead, hlength⟩
    refine ⟨_, name.toList.drop 6, (List.take_append_drop 6 _).symm, hhead, ?_⟩
    rw [likeMatches_one_any, Bool.not_eq_true', List.isEmpty_eq_false_iff]
    refine List.length_pos_iff.1 ?_
    rw [List.length_drop]
    omega

/-! ### The catalog as a relation -/

namespace Sqlite.Database

/-- A catalog as SQLite makes it: no table goes by its name, and there is a rowid for each of its
entries. -/
structure HasCatalog (db : Database) : Prop where
  unnamed : db.table? "sqlite_master" = none
  numbered : db.catalog.length < 2 ^ 63

/-- The tables of a catalog that a list admits and that are not SQLite's own. -/
def userTables (db : Database) (list : ImportList) : List CatalogEntry :=
  db.catalog.filter fun e => decide (e.kind = .table) && !isReserved e.name && list.admits e.name

def catalogRow (number : Nat) (e : CatalogEntry) : Row where
  rowid := Int64.ofNat number
  cells := [.ofText e.kind.word, .ofText e.name, .ofText e.table, .null, .null]

lemma exists_of_mem_catalogRows {number : Nat} {entries : List CatalogEntry} {r : Row}
    (h : r ∈ catalogRows number entries) :
    ∃ k e, r = catalogRow k e ∧ number ≤ k ∧ k < number + entries.length := by
  induction entries generalizing number with
  | nil => cases h
  | cons e entries ih =>
    rw [List.length_cons]
    rcases List.mem_cons.1 h with rfl | h
    · exact ⟨number, e, rfl, le_rfl, by omega⟩
    · obtain ⟨k, e, rfl, hle, hlt⟩ := ih h
      exact ⟨k, e, rfl, by omega, by omega⟩

/-- The entries stand in the order of their numbers. -/
lemma inOrder_catalogRows {number : Nat} {entries : List CatalogEntry}
    (h : number + entries.length ≤ 2 ^ 63) : InOrder (catalogRows number entries) := by
  induction entries generalizing number with
  | nil => exact .nil
  | cons e entries ih =>
    rw [List.length_cons] at h
    refine .cons ?_ (ih (by omega))
    intro r hr
    obtain ⟨k, e, rfl, hle, hlt⟩ := exists_of_mem_catalogRows hr
    change (Int64.ofNat number).toInt < (Int64.ofNat k).toInt
    rw [Int64.toInt_ofNat_of_lt (by omega), Int64.toInt_ofNat_of_lt (by omega)]
    omega

lemma map_filter_catalogRows {α : Type} {test : Row → Bool} {test' : CatalogEntry → Bool}
    {f : Row → α} {g : CatalogEntry → α} (htest : ∀ k e, test (catalogRow k e) = test' e)
    (hvalue : ∀ k e, f (catalogRow k e) = g e) (number : Nat) (entries : List CatalogEntry) :
    ((catalogRows number entries).filter test).map f = (entries.filter test').map g := by
  induction entries generalizing number with
  | nil => rfl
  | cons e entries ih =>
    have hcons : catalogRows number (e :: entries)
        = catalogRow number e :: catalogRows (number + 1) entries := rfl
    rw [hcons, List.filter_cons, List.filter_cons, htest]
    split
    · rw [List.map_cons, List.map_cons, hvalue, ih]
    · exact ih (number + 1)

/-- The column that a name stands for in the query for tables. -/
def catalogRef (column : String) : Ref :=
  .column (if column = "type" then 0 else 1)

variable {db : Database} {list : ImportList} {placeholder : Nat → Cell}

lemma lookup?_catalog (h : db.HasCatalog) :
    db.lookup? "sqlite_master" = some ⟨db.catalogTable, .catalog, "sqlite_master"⟩ := by
  have hname : catalogNames.contains (lowerAscii "sqlite_master") = true := by decide
  rw [lookup?, h.unnamed]
  exact if_pos hname

lemma holdsText_catalogRow (db : Database) (placeholder : Nat → Cell) (number : Nat)
    (e : CatalogEntry) (column : String) :
    (Env.ofRow placeholder db.catalogTable (catalogRow number e)).HoldsText (catalogRef column)
      (if column = "type" then e.kind.word else e.name) := by
  unfold catalogRef
  split
  · exact ⟨rfl, by change Affinity.ofDeclared "TEXT" = .text; decide, rfl⟩
  · exact ⟨rfl, by change Affinity.ofDeclared "TEXT" = .text; decide, rfl⟩

lemma word_eq_table (kind : EntryKind) : (kind.word == "table") = decide (kind = .table) := by
  cases kind <;> decide

/-- An entry passes the condition if it is a table that is not left out and that the list admits. -/
lemma passes_entryCondition (number : Nat) (e : CatalogEntry) :
    passes (.ofRow placeholder db.catalogTable (catalogRow number e))
        (some (list.entryCondition fun s => .ref (catalogRef s)))
      = (decide (e.kind = .table) && !isLeftOut e.name && list.admits e.name) := by
  have hholds := holdsText_catalogRow db placeholder number e
  have hkind : ((kindTest.expr fun s => .ref (catalogRef s)).eval
      (.ofRow placeholder db.catalogTable (catalogRow number e))).truth
        = some (decide (e.kind = .table)) := by
    rw [← word_eq_table]
    exact TextTest.truth_expr (hholds "type") (.equals "table")
  have htests : ∀ t ∈ list.nameTests, _ := fun t _ => hholds t.column
  have htruth := truth_allExpr catalogRef
    (fun column => if column = "type" then e.kind.word else e.name) hkind htests
  have hname : (if "name" = "type" then e.kind.word else e.name) = e.name := rfl
  have haccepts : (list.nameTests.all fun t => t.test.accepts
      (if t.column = "type" then e.kind.word else e.name))
        = (!isLeftOut e.name && list.admits e.name) := by
    rw [← likeMatches_reserved]
    cases list with
    | all => rfl
    | limitTo names =>
      change (_ && (_ && true)) = _
      rw [Bool.and_true]
      rfl
    | except names =>
      change (_ && (_ && true)) = _
      rw [Bool.and_true]
      rfl
  rw [passes]
  change (((allExpr _ _ _).eval _).truth == some true) = _
  rw [htruth, haccepts, Bool.and_assoc]
  cases decide (e.kind = .table) && (!isLeftOut e.name && list.admits e.name) <;> rfl

end Sqlite.Database

/-! ### The query for tables -/

namespace ImportList

open Sqlite.Database

/-- A query is the one for tables: it gives the names of entries in their order. -/
structure IsTableQuery (list : ImportList) (db : Database) (q : TableQuery) : Prop where
  walks : q.Walks db db.catalogTable
  items : q.items = [.ref (.column 1)]
  condition : q.condition = some (list.entryCondition fun s => .ref (catalogRef s))

variable {list : ImportList} {db : Database} {q : TableQuery}

lemma IsTableQuery.map_cells (h : list.IsTableQuery db q) (placeholder : Nat → Cell) :
    (db.catalogTable.rows.filter (q.admits placeholder db.catalogTable)).map
        (q.cells placeholder db.catalogTable)
      = ((db.userTables list).filter fun e => !isLeftOut e.name).map fun e => [.ofText e.name] := by
  have hfilter : (db.userTables list).filter (fun e => !isLeftOut e.name) = db.catalog.filter
      fun e => decide (e.kind = .table) && !isLeftOut e.name && list.admits e.name := by
    rw [userTables, List.filter_filter]
    apply List.filter_congr
    intro e _
    cases hreserved : isReserved e.name with
    | true =>
      rw [isLeftOut_of_isReserved hreserved]
      simp
    | false => cases isLeftOut e.name <;> simp
  rw [hfilter]
  refine map_filter_catalogRows ?_ ?_ 1 db.catalog
  · intro k e
    rw [TableQuery.admits, h.condition]
    exact passes_entryCondition k e
  · intro k e
    rw [TableQuery.cells, h.items]
    rfl

/-- The names in the condition stand for columns of the catalog. -/
lemma resolves_entryCondition (db : Database) (list : ImportList) :
    Resolves (resolveName (some ⟨db.catalogTable, .catalog, "sqlite_master"⟩))
      (list.entryCondition mentioned) (list.entryCondition fun s => .ref (catalogRef s)) := by
  have hname : Resolves (resolveName (some ⟨db.catalogTable, .catalog, "sqlite_master"⟩))
      (mentioned "name") (.ref (catalogRef "name")) := ⟨rfl, rfl, rfl⟩
  have htype : Resolves (resolveName (some ⟨db.catalogTable, .catalog, "sqlite_master"⟩))
      (mentioned "type") (.ref (catalogRef "type")) := ⟨rfl, rfl, rfl⟩
  refine Resolves.allExpr (htype.textTest (.equals "table")) ?_
  intro t ht
  rw [nameTests_columns ht]
  exact hname

lemma checkSizes_entryCondition (db : Database) (list : ImportList) :
    checkSizes [list.entryCondition fun s => .ref (catalogRef s), .ref (.column 1)] = .ok () := by
  have hnone : Expr.allOversized [list.entryCondition fun s => .ref (catalogRef s),
      .ref (.column 1)] = [] := by
    rw [Expr.allOversized, (resolves_entryCondition db list).oversized_eq]
    rfl
  rw [checkSizes, hnone]
  rfl

/-- The query for tables is resolved against the catalog. -/
lemma program_statement (h : db.HasCatalog) (list : ImportList) :
    ∃ program q, (ParsedStatement.mk list.statement 0).program db = .ok program
      ∧ program.operation = .query q ∧ list.IsTableQuery db q := by
  have hitems : resolveItems (some ⟨db.catalogTable, .catalog, "sqlite_master"⟩)
      [.value (mentioned "name")] = .ok [.ref (.column 1)] := rfl
  have hwhere : resolveCondition (some ⟨db.catalogTable, .catalog, "sqlite_master"⟩)
      (some (list.entryCondition mentioned))
        = .ok (some (list.entryCondition fun s => .ref (catalogRef s))) :=
    congrArg (Except.map some) (resolves_entryCondition db list).resolveBy_eq
  have hsizes : checkSizes ((some (list.entryCondition fun s => .ref (catalogRef s))).toList
      ++ [.ref (.column 1)]) = .ok () := checkSizes_entryCondition db list
  have hplain : (accessGoal db.catalogTable [.ref (.column 1)]
      (some (list.entryCondition fun s => .ref (catalogRef s))) false).best.IsPlain :=
    AccessGoal.isPlain_best rfl
  have hinOrder : InOrder db.catalogTable.rows :=
    inOrder_catalogRows (by have := h.numbered; omega)
  have htable : (db.lookup? "sqlite_master").map Relation.table = some db.catalogTable := by
    rw [lookup?_catalog h]
    rfl
  rw [ParsedStatement.program, statement, Statement.compile, compileSelect]
  dsimp only
  rw [lookup?_catalog h]
  dsimp only
  rw [hitems, hwhere]
  dsimp only [bind, Except.bind]
  rw [hsizes]
  exact ⟨_, _, rfl, rfl, ⟨htable, hplain, rfl, hinOrder⟩, rfl, rfl⟩

end ImportList

end ForeignData
