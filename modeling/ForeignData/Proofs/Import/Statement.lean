import ForeignData.Proofs.Host.Token
import ForeignData.Proofs.Import.Query

/-!
# Statements of an import

The statement that defines a foreign table is read by the host as a frame of keywords and marks with
the names in their places, and the queries of an import are read by SQLite in the same way. So no
name changes what a statement says.
-/

namespace ForeignData

open HostSql

/-! ### Columns -/

namespace RemoteColumn

def clauses (options : ImportOptions) (column : RemoteColumn) : List String :=
  [quoteName column.name, importedTypeName column.declaredType]
    ++ (if column.notNull && options.withNotNull then ["NOT NULL"] else [])
    ++ (if options.withDefaults then column.standard.toList.map ("DEFAULT " ++ ·) else [])

lemma definition_eq (options : ImportOptions) (column : RemoteColumn) :
    column.definition options = " ".intercalate (column.clauses options) := by
  rw [definition, clauses]
  apply String.toList_inj.1
  cases column.notNull && options.withNotNull <;> cases column.standard <;>
    cases options.withDefaults <;> simp

/-- The tokens of the definition of a column, for readings of types and of default values. -/
def tokens (types standards : String → List Token) (options : ImportOptions)
    (column : RemoteColumn) : List Token :=
  .name column.name :: types column.declaredType
    ++ (if column.notNull && options.withNotNull then [.keyword "not", .keyword "null"] else [])
    ++ (match column.standard with
      | some text => if options.withDefaults then .keyword "default" :: standards text else []
      | none => [])

/-- A column has a name, and its type and its default value are read by themselves. -/
structure IsReadable (types standards : String → List Token) (options : ImportOptions)
    (column : RemoteColumn) : Prop where
  name : column.name ≠ ""
  type : IsItem (importedTypeName column.declaredType).toList (types column.declaredType)
  standard : ∀ text ∈ column.standard, options.withDefaults = true →
    IsItem text.toList (standards text)

lemma IsReadable.isItem_definition {types standards : String → List Token} {options : ImportOptions}
    {column : RemoteColumn} (h : column.IsReadable types standards options) :
    IsItem (column.definition options).toList (column.tokens types standards options) := by
  have hnot : IsItem "NOT".toList [.keyword "not"] := .word (by decide)
  have hnull : IsItem "NULL".toList [.keyword "null"] := .word (by decide)
  have hdefault : IsItem "DEFAULT".toList [.keyword "default"] := .word (by decide)
  have htyped := (IsItem.name h.name).space h.type
  have hchecked : ∀ notNull : Bool,
      IsItem (quoteName column.name ++ " " ++ importedTypeName column.declaredType
          ++ if notNull then " NOT NULL" else "").toList
        (.name column.name :: types column.declaredType
          ++ if notNull then [.keyword "not", .keyword "null"] else []) := by
    intro notNull
    cases notNull
    · simpa using htyped
    · simpa using htyped.space (hnot.space hnull)
  have hnotNull := hchecked (column.notNull && options.withNotNull)
  rw [definition, tokens, String.toList_append]
  cases hstandard : column.standard with
  | none => simpa using hnotNull
  | some text =>
    cases hdefaults : options.withDefaults with
    | false => simpa using hnotNull
    | true =>
      have htext := hnotNull.space (hdefault.space (h.standard text hstandard hdefaults))
      simpa using htext

/-- The columns of a statement, each on its own line, up to the closing parenthesis. -/
lemma reads_definitions {types standards : String → List Token} {options : ImportOptions}
    {columns : List RemoteColumn} {s rest : List Char} {following : List Token}
    (hcolumns : ∀ column ∈ columns, column.IsReadable types standards options)
    (hreads : Reads s following rest) :
    Reads ('\n' :: (",\n".intercalate (columns.map (definition options))).toList
        ++ '\n' :: ')' :: s)
      ([.mark ','].intercalate (columns.map (tokens types standards options))
        ++ .mark ')' :: following) rest := by
  have hclose : Reads ('\n' :: ')' :: s) (.mark ')' :: following) rest :=
    .blank (by decide) (.cons (nextToken_mark (by decide) s) hreads)
  cases columns with
  | nil => exact hclose.blank (by decide)
  | cons column columns =>
    have hitems : List.Forall₂ IsItem
        (((column :: columns).map (definition options)).map String.toList)
        ((column :: columns).map (tokens types standards options)) := by
      rw [List.map_map, List.forall₂_map_left_iff, List.forall₂_map_right_iff, List.forall₂_same]
      exact fun column hcolumn => (hcolumns column hcolumn).isItem_definition
    have hend : EndsItem ('\n' :: ')' :: s) := by
      rintro c ⟨⟩
      exact .inr (.inr rfl)
    have hlist := (IsItem.intercalate hitems (by simp)).reads_blank (c := '\n') (by decide) hend
    rw [String.toList_intercalate]
    exact hlist.append hclose

end RemoteColumn

/-! ### Statements -/

namespace ImportRequest

/-- The text that defines a foreign table with some columns, line by line. -/
def definitionText (request : ImportRequest) (table : String) (columns : List RemoteColumn) :
    String :=
  "\n".intercalate
    ["CREATE FOREIGN TABLE " ++ quoteName request.localSchema ++ "." ++ quoteName table ++ " (",
      ",\n".intercalate (columns.map fun column => " ".intercalate (column.clauses request.options)),
      ") SERVER " ++ quoteName request.server,
      "OPTIONS (table " ++ quoteConstant table ++ ")"]

lemma statement_eq (request : ImportRequest) (table : String) (columns : List RemoteColumn) :
    request.statement table columns = request.definitionText table columns := by
  have hcolumns : columns.map (RemoteColumn.definition request.options)
      = columns.map fun column => " ".intercalate (column.clauses request.options) :=
    List.map_congr_left fun column _ => column.definition_eq request.options
  apply String.toList_inj.1
  delta statement definitionText
  simp [hcolumns]

/-- The tokens of the statement that defines a foreign table, with the names in their places. -/
def tokens (types standards : String → List Token) (request : ImportRequest) (table : String)
    (columns : List RemoteColumn) : List Token :=
  [.keyword "create", .keyword "foreign", .keyword "table", .name request.localSchema, .mark '.',
      .name table, .mark '(']
    ++ [.mark ','].intercalate
        (columns.map (RemoteColumn.tokens types standards request.options))
    ++ [.mark ')', .name "server", .name request.server, .name "options", .mark '(',
      .keyword "table", .constant table, .mark ')']

lemma reads_statement {types standards : String → List Token} {request : ImportRequest}
    {table : String} {columns : List RemoteColumn} (hschema : request.localSchema ≠ "")
    (htable : table ≠ "") (hserver : request.server ≠ "")
    (hcolumns : ∀ column ∈ columns, column.IsReadable types standards request.options) :
    Reads (request.statement table columns).toList
      (request.tokens types standards table columns) [] := by
  have hends : ∀ (c : Char) (s : List Char), c ∈ ['\n', ' ', '.', ')'] → Ends (c :: s) := by
    rintro c s hc d ⟨⟩
    simp only [List.mem_cons, List.not_mem_nil, or_false] at hc
    rcases hc with rfl | rfl | rfl | rfl <;> decide
  -- The text is taken from its end.
  have hname : Reads ((quoteConstant table).toList ++ [')']) [.constant table, .mark ')'] [] :=
    .cons (nextToken_quoteConstant table (hends ')' [] (by decide)))
      (.single (nextToken_mark (by decide) []))
  have hoption : Reads _ (.mark '(' :: .keyword "table" :: _) [] :=
    .cons (nextToken_mark (by decide) _) (.bareWord "table" (by decide) hname)
  have hoptions : Reads _ (.name "options" :: _) [] := .bareWord "OPTIONS" (by decide) hoption
  have hnamed : Reads _ (.name request.server :: _) [] :=
    .cons (nextToken_quoteName hserver (hends '\n' _ (by decide)))
      (hoptions.blank (c := '\n') (by decide))
  have hplaced : Reads _ (.name "server" :: _) [] := .bareWord "SERVER" (by decide) hnamed
  have hdefined : Reads _ (.mark '(' :: _) [] := .cons (nextToken_mark (by decide) _)
    (RemoteColumn.reads_definitions hcolumns (hplaced.blank (c := ' ') (by decide)))
  have htabled : Reads _ (.name request.localSchema :: .mark '.' :: .name table :: _) [] :=
    .cons (nextToken_quoteName hschema (hends '.' _ (by decide)))
      (.cons (nextToken_mark (by decide) _)
        (.cons (nextToken_quoteName htable (hends ' ' _ (by decide)))
          (hdefined.blank (c := ' ') (by decide))))
  have hcreate : Reads _ (.keyword "create" :: .keyword "foreign" :: .keyword "table" :: _) [] :=
    .bareWord "CREATE" (by decide) (.bareWord "FOREIGN" (by decide)
      (.bareWord "TABLE" (by decide) htabled))
  delta statement
  simp only [String.toList_append, List.append_assoc]
  rw [tokens, List.append_assoc]
  exact hcreate

/-- A text is the definition of a foreign table with some columns: it is spelled as such, and the
host reads it as such wherever the types and the default values can be read. -/
structure IsDefinition (request : ImportRequest) (table : String) (columns : List RemoteColumn)
    (text : String) : Prop where
  spelled : text = request.definitionText table columns
  reads : request.localSchema ≠ "" → table ≠ "" → request.server ≠ "" →
    ∀ types standards, (∀ column ∈ columns, column.IsReadable types standards request.options) →
      Reads text.toList (request.tokens types standards table columns) []

lemma isDefinition_statement (request : ImportRequest) (table : String)
    (columns : List RemoteColumn) :
    request.IsDefinition table columns (request.statement table columns) where
  spelled := request.statement_eq table columns
  reads hschema htable hserver _ _ hcolumns := reads_statement hschema htable hserver hcolumns

end ImportRequest

end ForeignData
