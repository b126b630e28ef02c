import ForeignData.Proofs.Sqlite.Addressing

/-!
# Tables in a database

A connection finds a table by its name in the database of its file. A change of rows puts another
table of the same name and columns there, and leaves all other tables as they are.
-/

namespace ForeignData.Sqlite

/-! ### Tables that have not been altered -/

/-- Tables of one name that differ in their rows, and in what constrains these, only. -/
structure Table.SameSchema (t t' : Table) : Prop where
  name : t'.name = t.name
  columns : t'.columns = t.columns
  key : t'.key = t.key

namespace Table.SameSchema

variable {t t' t'' : Table} (h : t.SameSchema t')

include h

lemma trans (h' : t'.SameSchema t'') : t.SameSchema t'' :=
  ⟨h'.name.trans h.name, h'.columns.trans h.columns, h'.key.trans h.key⟩

lemma hasRowid_eq : t'.hasRowid = t.hasRowid := by
  rw [hasRowid, hasRowid, h.key]

lemma refOf_eq (name : String) : t'.refOf name = t.refOf name := by
  rw [refOf, refOf, place?, place?, h.columns]

lemma keyRef_eq : t'.keyRef = t.keyRef := h.refOf_eq "rowid"

lemma keyIs_eq (number : Nat) : t'.keyIs number = t.keyIs number := by
  rw [keyIs, keyIs, h.keyRef_eq]

lemma assignments_eq (k : Nat) (names : List String) :
    t'.assignments k names = t.assignments k names := by
  rw [assignments, assignments, List.map_congr_left fun name _ => h.refOf_eq name]

lemma resolveName_eq (shown : String) (mark : Option Char) (s : String) :
    resolveName (some ⟨t', .table, shown⟩) mark s
      = resolveName (some ⟨t, .table, shown⟩) mark s := by
  rw [resolveName, resolveName, Relation.hasRowid, Relation.hasRowid]
  dsimp only
  rw [place?, place?, h.columns, h.hasRowid_eq]

lemma resolveAll_eq (shown : String) (xs : List (Expr Mention)) :
    Expr.resolveAll (some ⟨t', .table, shown⟩) xs
      = Expr.resolveAll (some ⟨t, .table, shown⟩) xs := by
  have heq : resolveName (some ⟨t', .table, shown⟩) = resolveName (some ⟨t, .table, shown⟩) := by
    funext mark s
    exact h.resolveName_eq shown mark s
  rw [Expr.resolveAll, Expr.resolveAll, heq]

end Table.SameSchema

/-! ### Tables by their names -/

namespace Database

variable {db : Database} {name : String} {t : Table}

/-- A table that has been found by some name is found by its own. -/
lemma table?_name (h : db.table? name = some t) : db.table? t.name = some t := by
  have hname : sameName t.name name = true :=
    List.find?_some (p := fun o : Table => sameName o.name name) h
  have htest : (fun o : Table => sameName o.name t.name) = fun o => sameName o.name name := by
    funext o
    rw [sameName, sameName, beq_iff_eq.1 hname]
  rw [table?, htest]
  exact h

/-- A table that is put into a database is found where that of its name has been found. -/
lemma table?_putTable (db : Database) (t : Table) (name : String) :
    (db.putTable t).table? name
      = (db.table? name).map fun o => if o.name = t.name then t else o := by
  have htest : ((fun o : Table => sameName o.name name)
      ∘ fun o : Table => if o.name = t.name then t else o) = fun o => sameName o.name name := by
    funext o
    by_cases hname : o.name = t.name
    · rw [Function.comp_apply, if_pos hname, hname]
    · rw [Function.comp_apply, if_neg hname]
  rw [table?, putTable, List.find?_map, htest]
  rfl

end Database

/-- A connection finds a table by a name in the database that it looks at. -/
structure Connection.Finds (c : Connection) (store : Store) (db : Database) (name : String)
    (t : Table) : Prop where
  database : c.database? store = some db
  table : db.table? name = some t

namespace Connection

variable {c : Connection} {store : Store} {db db' : Database} {name : String} {t : Table}

/-- A connection that stands on no row finds the database that it has put into its file. -/
lemma database?_store (hview : c.view = none) (hplace : c.place ≠ none) :
    c.database? (c.store store db) = some db := by
  obtain ⟨place, hplace⟩ := Option.ne_none_iff_exists'.1 hplace
  unfold database? Connection.store
  rw [hview, hplace]
  simp [FileTree.content?, FileTree.putFile]

lemma Finds.place_ne_none (h : c.Finds store db name t) (hview : c.view = none) :
    c.place ≠ none := by
  intro hplace
  have hdatabase := h.database
  unfold database? at hdatabase
  rw [hview, hplace] at hdatabase
  cases hdatabase
  cases h.table

/-- A table that takes the place of another is found in its place. -/
lemma Finds.putTable {t' : Table} (h : c.Finds store db name t) (hview : c.view = none)
    (hname : t'.name = t.name) :
    c.Finds (c.store store (db.putTable t')) (db.putTable t') name t' where
  database := database?_store hview (h.place_ne_none hview)
  table := by
    rw [Database.table?_putTable, h.table, Option.map_some, if_pos hname.symm]

end Connection

end ForeignData.Sqlite
