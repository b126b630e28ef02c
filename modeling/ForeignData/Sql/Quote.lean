/-!
# Quoting

Names and constants as they are written into SQL text for the host and for SQLite. The host reads a
word bare if it is made of small letters, digits and underscores and is not reserved. In quotes, the
quote itself is written twice; a constant with a backslash is written in the form in which the
backslash escapes, and is itself written twice there.
-/

namespace ForeignData

def reservedWords : List String :=
  ["all", "analyse", "analyze", "and", "any", "array", "as", "asc", "asymmetric", "authorization",
   "between", "bigint", "binary", "bit", "boolean", "both", "case", "cast", "char", "character",
   "check", "coalesce", "collate", "collation", "column", "concurrently", "constraint", "create",
   "cross", "current_catalog", "current_date", "current_role", "current_schema", "current_time",
   "current_timestamp", "current_user", "dec", "decimal", "default", "deferrable", "desc",
   "distinct", "do", "else", "end", "except", "exists", "extract", "false", "fetch", "float",
   "for", "foreign", "freeze", "from", "full", "grant", "greatest", "group", "grouping", "having",
   "ilike", "in", "initially", "inner", "inout", "int", "integer", "intersect", "interval", "into",
   "is", "isnull", "join", "lateral", "leading", "least", "left", "like", "limit", "localtime",
   "localtimestamp", "national", "natural", "nchar", "none", "normalize", "not", "notnull",
   "null", "nullif", "numeric", "offset", "on", "only", "or", "order", "out", "outer", "overlaps",
   "overlay", "placing", "position", "precision", "primary", "real", "references", "returning",
   "right", "row", "select", "session_user", "setof", "similar", "smallint", "some", "substring",
   "symmetric", "table", "tablesample", "then", "time", "timestamp", "to", "trailing", "treat",
   "trim", "true", "union", "unique", "user", "using", "values", "varchar", "variadic", "verbose",
   "when", "where", "window", "with", "xmlattributes", "xmlconcat", "xmlelement", "xmlexists",
   "xmlforest", "xmlnamespaces", "xmlparse", "xmlpi", "xmlroot", "xmlserialize", "xmltable"]

/-- A character that a bare word may begin with. -/
def isWordStart (c : Char) : Bool :=
  ('a' ≤ c && c ≤ 'z') || c == '_'

/-- A character that a bare word may contain. -/
def isWordChar (c : Char) : Bool :=
  isWordStart c || c.isDigit

/-- Whether the host reads a name written bare as that name. -/
def isBareName (s : String) : Bool :=
  match s.toList with
  | [] => false
  | c :: cs => isWordStart c && cs.all isWordChar && !reservedWords.contains s

/-- Write one character twice. -/
def doubled (quote : Char) : List Char → List Char
  | [] => []
  | c :: s => if c = quote then quote :: quote :: doubled quote s else c :: doubled quote s

/-- Enclose in quotes, with the quote itself written twice. -/
def enclosed (quote : Char) (s : List Char) : List Char :=
  quote :: doubled quote s ++ [quote]

def quoteName (s : String) : String :=
  if isBareName s then s else String.ofList (enclosed '"' s.toList)

def quoteConstant (s : String) : String :=
  if s.toList.contains '\\' then
    String.ofList ('E' :: enclosed '\'' (doubled '\\' s.toList))
  else
    String.ofList (enclosed '\'' s.toList)

/-- A name for SQLite, always in quotes. -/
def quoteRemoteName (s : String) : String :=
  String.ofList (enclosed '"' s.toList)

def quoteRemoteConstant (s : String) : String :=
  String.ofList (enclosed '\'' s.toList)

end ForeignData
