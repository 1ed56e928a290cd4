import SqlTree.Schema

/-! # Dialects

A dialect is a record of the decisions in which databases differ: a grammar, which decides the
forms of clauses and what is refused; a spelling, which decides how identifiers and values are
written; and the names of column types. Two dialects with the same grammar give a statement the
same form and refuse the same statements.
-/

namespace SqlTree

/-! ## Reserved words

The reserved words of SQL-92 and SQL:2003, in the order of their code points, and the binary
search that decides whether an identifier is one of them whatever the case of its letters.
-/

namespace ReservedWord

/-- The reserved words in capitals, each once, in increasing order; `_` comes after every letter. -/
def table : Array String :=
  #["ABS", "ABSOLUTE", "ACTION", "ADD", "ALL", "ALLOCATE", "ALTER", "AND", "ANY", "ARE", "ARRAY",
   "AS", "ASC", "ASENSITIVE", "ASSERTION", "ASYMMETRIC", "AT", "ATOMIC", "AUTHORIZATION", "AVG",
   "BEGIN", "BETWEEN", "BIGINT", "BINARY", "BIT", "BIT_LENGTH", "BLOB", "BOOLEAN", "BOTH", "BY",
   "CALL", "CALLED", "CARDINALITY", "CASCADE", "CASCADED", "CASE", "CAST", "CATALOG", "CEIL",
   "CEILING", "CHAR", "CHARACTER", "CHARACTER_LENGTH", "CHAR_LENGTH", "CHECK", "CLOB", "CLOSE",
   "COALESCE", "COLLATE", "COLLATION", "COLLECT", "COLUMN", "COMMIT", "CONDITION", "CONNECT",
   "CONNECTION", "CONSTRAINT", "CONSTRAINTS", "CONTINUE", "CONVERT", "CORR", "CORRESPONDING",
   "COUNT", "COVAR_POP", "COVAR_SAMP", "CREATE", "CROSS", "CUBE", "CUME_DIST", "CURRENT",
   "CURRENT_DATE", "CURRENT_DEFAULT_TRANSFORM_GROUP", "CURRENT_PATH", "CURRENT_ROLE",
   "CURRENT_TIME", "CURRENT_TIMESTAMP", "CURRENT_TRANSFORM_GROUP_FOR_TYPE", "CURRENT_USER",
   "CURSOR", "CYCLE", "DATE", "DAY", "DEALLOCATE", "DEC", "DECIMAL", "DECLARE", "DEFAULT",
   "DEFERRABLE", "DEFERRED", "DELETE", "DENSE_RANK", "DEREF", "DESC", "DESCRIBE", "DETERMINISTIC",
   "DIAGNOSTICS", "DISCONNECT", "DISTINCT", "DOMAIN", "DOUBLE", "DROP", "DYNAMIC", "EACH",
   "ELEMENT", "ELSE", "END", "ESCAPE", "EVERY", "EXCEPT", "EXCEPTION", "EXEC", "EXECUTE", "EXISTS",
   "EXP", "EXTERNAL", "EXTRACT", "FALSE", "FETCH", "FILTER", "FIRST", "FLOAT", "FLOOR", "FOR",
   "FOREIGN", "FOUND", "FREE", "FROM", "FULL", "FUNCTION", "FUSION", "GET", "GLOBAL", "GO", "GOTO",
   "GRANT", "GROUP", "GROUPING", "HAVING", "HOLD", "HOUR", "IDENTITY", "IMMEDIATE", "IN",
   "INDICATOR", "INITIALLY", "INNER", "INOUT", "INPUT", "INSENSITIVE", "INSERT", "INT", "INTEGER",
   "INTERSECT", "INTERSECTION", "INTERVAL", "INTO", "IS", "ISOLATION", "JOIN", "KEY", "LANGUAGE",
   "LARGE", "LAST", "LATERAL", "LEADING", "LEFT", "LEVEL", "LIKE", "LN", "LOCAL", "LOCALTIME",
   "LOCALTIMESTAMP", "LOWER", "MATCH", "MAX", "MEMBER", "MERGE", "METHOD", "MIN", "MINUTE", "MOD",
   "MODIFIES", "MODULE", "MONTH", "MULTISET", "NAMES", "NATIONAL", "NATURAL", "NCHAR", "NCLOB",
   "NEW", "NEXT", "NO", "NONE", "NORMALIZE", "NOT", "NULL", "NULLIF", "NUMERIC", "OCTET_LENGTH",
   "OF", "OLD", "ON", "ONLY", "OPEN", "OPTION", "OR", "ORDER", "OUT", "OUTER", "OUTPUT", "OVER",
   "OVERLAPS", "OVERLAY", "PAD", "PARAMETER", "PARTIAL", "PARTITION", "PERCENTILE_CONT",
   "PERCENTILE_DISC", "PERCENT_RANK", "POSITION", "POWER", "PRECISION", "PREPARE", "PRESERVE",
   "PRIMARY", "PRIOR", "PRIVILEGES", "PROCEDURE", "PUBLIC", "RANGE", "RANK", "READ", "READS",
   "REAL", "RECURSIVE", "REF", "REFERENCES", "REFERENCING", "RELATIVE", "RELEASE", "RESTRICT",
   "RESULT", "RETURN", "RETURNS", "REVOKE", "RIGHT", "ROLLBACK", "ROLLUP", "ROW", "ROWS",
   "ROW_NUMBER", "SAVEPOINT", "SCHEMA", "SCOPE", "SCROLL", "SEARCH", "SECOND", "SECTION", "SELECT",
   "SENSITIVE", "SESSION", "SESSION_USER", "SET", "SIMILAR", "SIZE", "SMALLINT", "SOME", "SPACE",
   "SPECIFIC", "SPECIFICTYPE", "SQL", "SQLEXCEPTION", "SQLSTATE", "SQLWARNING", "SQRT", "START",
   "STATIC", "STDDEV_POP", "STDDEV_SAMP", "SUBMULTISET", "SUBSTRING", "SUM", "SYMMETRIC", "SYSTEM",
   "SYSTEM_USER", "TABLE", "TABLESAMPLE", "TEMPORARY", "THEN", "TIME", "TIMESTAMP",
   "TIMEZONE_HOUR", "TIMEZONE_MINUTE", "TO", "TRAILING", "TRANSACTION", "TRANSLATE", "TRANSLATION",
   "TREAT", "TRIGGER", "TRIM", "TRUE", "UESCAPE", "UNION", "UNIQUE", "UNKNOWN", "UNNEST", "UPDATE",
   "UPPER", "USAGE", "USER", "USING", "VALUE", "VALUES", "VARCHAR", "VARYING", "VAR_POP",
   "VAR_SAMP", "VIEW", "WHEN", "WHENEVER", "WHERE", "WIDTH_BUCKET", "WINDOW", "WITH", "WITHIN",
   "WITHOUT", "WORK", "WRITE", "YEAR", "ZONE"]

/-- Whether `word` stands in the increasing `table` at a place from `low` to before `high`. -/
def foundBetween (table : Array String) (word : String) (low high : Nat) : Bool :=
  if bounds : low < high ∧ high ≤ table.size then
    let middle := low + (high - low) / 2
    have inside : middle < table.size := by omega
    if word = table[middle] then true
    else if word < table[middle] then foundBetween table word low middle
    else foundBetween table word (middle + 1) high
  else false
termination_by high - low

def foundIn (table : Array String) (word : String) : Bool :=
  foundBetween table word 0 table.size

/-- Whether `word` is reserved; the case of its ASCII letters does not matter. -/
def isReserved (word : String) : Bool :=
  foundIn table (word.map Char.toUpper)

end ReservedWord

/-! ## Refusals

Why a tree has no form in a dialect. A refusal states the cause without the dialect; a compilation
error is a refusal together with the name of the dialect that gave it.
-/

/-- The statements that change the rows they pick. -/
inductive RowStatement where
  | update | delete
deriving DecidableEq, Repr, Inhabited

def RowStatement.text : RowStatement → String
  | update => "UPDATE"
  | delete => "DELETE"

/-- A construct that a dialect has no form for. -/
inductive Construct where
  | nullComparison (op : BinaryOp)
  | operator (op : BinaryOp)
  | nestedAllColumns
  | unlabelledAllColumns
  | joinWithoutSource
  | rowCount (count : UInt64)
  | foreignAssignment (column table : Name)
  | emptyUpdate
  | rowLimit (statement : RowStatement)
  | rowOffset (statement : RowStatement)
  | custom (construct : String)
deriving DecidableEq, Repr, Inhabited

def Construct.text : Construct → String
  | nullComparison op => "NULL comparison with operator '" ++ op.text ++ "'"
  | operator op => "operator '" ++ op.text ++ "'"
  | nestedAllColumns => "all-columns expression outside a selection list"
  | unlabelledAllColumns => "all columns of an unlabelled sub-query"
  | joinWithoutSource => "JOIN without FROM"
  | rowCount count => "row count " ++ naturalText count.toNat ++ " beyond the signed 64-bit range"
  | foreignAssignment column table =>
    "assignment to column '" ++ column.text ++ "' outside table '" ++ table.text ++ "'"
  | emptyUpdate => "UPDATE without assignments"
  | rowLimit statement => "LIMIT in " ++ statement.text
  | rowOffset statement => "OFFSET in " ++ statement.text
  | custom construct => construct

inductive UnitContext where
  | interval | truncation
deriving DecidableEq, Repr, Inhabited

def UnitContext.text : UnitContext → String
  | interval => "MySQL intervals"
  | truncation => "MySQL date truncation"

/-- Why a tree cannot be written. -/
inductive Refusal where
  | unsupported (construct : Construct)
  | timeUnit (unit : TimeUnit) (context : UnitContext)
  | identityType (type : ColumnType)
deriving DecidableEq, Repr, Inhabited

structure CompileError where
  dialect : String
  refusal : Refusal
deriving DecidableEq, Repr, Inhabited

def CompileError.message (error : CompileError) : String :=
  match error.refusal with
  | .unsupported construct =>
    construct.text ++ " is not supported by SQL dialect '" ++ error.dialect ++ "'"
  | .timeUnit unit context => "time unit " ++ unit.text ++ " is not supported by " ++ context.text
  | .identityType type =>
    "column type " ++ type.display ++ " cannot be used as an id column by SQL dialect '" ++
      error.dialect ++ "'"

/-! ## Grammars and spellings -/

/-- How rows without a value for a sort expression are put last: by a clause, by a key in front
that tells them from the others, or not at all. -/
inductive NullOrder where
  | lastClause | testKey | unstated
deriving DecidableEq, Repr, Inhabited

/-- A key that rows are sorted by: whether a value is NULL, or the value itself, in a direction and
perhaps with NULL last. -/
inductive SortKey where
  | nullTest
  | value (descending nullsLast : Bool)
deriving DecidableEq, Repr, Inhabited

/-- The keys that a sort expression stands for, the most significant first. -/
def NullOrder.keys (style : NullOrder) (descending : Bool) : List SortKey :=
  match style with
  | lastClause => [.value descending true]
  | testKey => [.nullTest, .value descending false]
  | unstated => [.value descending false]

/-- How a row of defaults is inserted: by a clause, or by two empty lists. -/
inductive DefaultRow where
  | clause | emptyLists
deriving DecidableEq, Repr, Inhabited

structure Grammar where
  /-- The spelling of an operator, or none if the dialect refuses it. -/
  operator? : BinaryOp → Option String := fun op => some op.text
  /-- The form of a sort key. -/
  nullOrder : NullOrder := .lastClause
  /-- The keywords of a union without repeated rows. -/
  distinctUnion : String := "UNION DISTINCT"
  /-- The form of an insertion without values. -/
  defaultRow : DefaultRow := .clause
  /-- Whether statements that change rows may bound their number. -/
  rowLimit : Bool := true
  /-- Whether such a bound may skip rows. -/
  rowOffset : Bool := true

namespace Grammar

def respelling (grammar : Grammar) (op : BinaryOp) (text : String) : Grammar :=
  { grammar with
    operator? := fun other => if other = op then some text else grammar.operator? other }

/-- The grammar without some operators. -/
def refusing (grammar : Grammar) (denied : List BinaryOp) : Grammar :=
  { grammar with operator? := fun op => if op ∈ denied then none else grammar.operator? op }

end Grammar

/-- How a value is written: as a mark with the value among the arguments, as the number of its
argument, or as a literal without an argument. -/
inductive ValueStyle where
  | mark (text : String)
  | numbered
  | inline
deriving DecidableEq, Repr, Inhabited

structure Spelling where
  /-- The character before and after a quoted identifier. -/
  quote : Char := '\"'
  /-- The words that need quotes as identifiers. -/
  isReserved : String → Bool := ReservedWord.isReserved
  /-- Whether every identifier is quoted. -/
  alwaysQuote : Bool := false
  /-- How values are written. -/
  values : ValueStyle := .mark "?"

structure TypeNames where
  /-- The name of a type where it is not the standard one. -/
  name? : ColumnType → Option String := fun _ => none
  /-- The declaration of a numbered column of the type, if the dialect has one. -/
  identity? : ColumnType → Option String

structure Dialect where
  name : String
  grammar : Grammar := {}
  spelling : Spelling := {}
  types : TypeNames

namespace ColumnType

def standardIdentity? : ColumnType → Option String
  | int => some "INT NOT NULL GENERATED BY DEFAULT AS IDENTITY"
  | long => some "BIGINT NOT NULL GENERATED BY DEFAULT AS IDENTITY"
  | _ => none

def mysqlIdentity? : ColumnType → Option String
  | int => some "INT NOT NULL AUTO_INCREMENT"
  | long => some "BIGINT NOT NULL AUTO_INCREMENT"
  | _ => none

/-- Numbered columns of SQLite, which are primary keys. -/
def sqliteIdentity? : ColumnType → Option String
  | int | long => some "INTEGER PRIMARY KEY AUTOINCREMENT"
  | _ => none

def mysqlName? : ColumnType → Option String
  | dateTime => some "DATETIME"
  | uuid => some "CHAR(36)"
  | _ => none

/-- The storage classes of SQLite; a reference has the class of what it refers to. -/
def sqliteName? : ColumnType → Option String
  | int | long | bool | enumeration => some "INTEGER"
  | decimal .. => some "NUMERIC"
  | varchar _ | char | text | uuid | date | dateTime | time => some "TEXT"
  | binary _ | blob => some "BLOB"
  | reference _ => none

/-- The name of a type in standard SQL; a reference has the name of what it refers to. -/
def standardName : ColumnType → String
  | int | enumeration => "INT"
  | long => "BIGINT"
  | decimal precision scale =>
    "DECIMAL(" ++ naturalText precision.toNat ++ ", " ++ naturalText scale.toNat ++ ")"
  | varchar length => "VARCHAR(" ++ naturalText length.toNat ++ ")"
  | char => "CHAR"
  | text => "TEXT"
  | bool => "BOOLEAN"
  | date => "DATE"
  | dateTime => "TIMESTAMP"
  | time => "TIME"
  | uuid => "UUID"
  | binary length => "VARBINARY(" ++ naturalText length.toNat ++ ")"
  | blob => "BLOB"
  | reference target => target.standardName

end ColumnType

namespace Dialect

/-- Standard SQL. -/
def generic : Dialect :=
  { name := "generic"
    types := { identity? := ColumnType.standardIdentity? } }

/-- MySQL with identifiers between double quotes. It sorts NULL before all values, and its
statements that change rows can bound their number but skip none. -/
def mysqlAnsi : Dialect :=
  { name := "mysql"
    grammar :=
      { nullOrder := .testKey
        defaultRow := .emptyLists
        rowOffset := false }
    types :=
      { name? := ColumnType.mysqlName?
        identity? := ColumnType.mysqlIdentity? } }

/-- MySQL with identifiers between grave accents. -/
def mysql : Dialect :=
  { mysqlAnsi with spelling := { quote := '\x60' } }

/-- SQLite. Its statements that change rows cannot bound their number. -/
def sqlite : Dialect :=
  { name := "sqlite"
    grammar :=
      { distinctUnion := "UNION"
        rowLimit := false
        rowOffset := false }
    types :=
      { name? := ColumnType.sqliteName?
        identity? := ColumnType.sqliteIdentity? } }

def builtIn : List Dialect := [generic, sqlite, mysql, mysqlAnsi]

theorem mem_builtIn {dialect : Dialect} :
    dialect ∈ builtIn ↔
      dialect = generic ∨ dialect = sqlite ∨ dialect = mysql ∨ dialect = mysqlAnsi := by
  simp only [builtIn, List.mem_cons, List.not_mem_nil, or_false]

end Dialect

/-! ## Identifiers in a dialect

An identifier stands bare if it looks like a word and is not reserved, and between quotes
otherwise; a name is its identifiers with dots between them.
-/

namespace Spelling

/-- Whether an identifier has the shape of a word: ASCII letters, digits and underscores, with no
digit in front. -/
def isWord (id : String) : Bool :=
  match id.toList with
  | [] => false
  | first :: rest =>
    (first.isAlpha || first == '_') && rest.all fun c => c.isAlphanum || c == '_'

/-- The characters of a word are ASCII letters, digits and underscores. -/
theorem isAlphanum_of_isWord {id : String} (word : isWord id = true) :
    ∀ c ∈ id.toList, (c.isAlphanum || c == '_') = true := by
  simp only [isWord] at word
  cases chars : id.toList with
  | nil => simp
  | cons first rest =>
    simp only [chars, Bool.and_eq_true, List.all_eq_true] at word
    refine List.forall_mem_cons.mpr ⟨?_, word.2⟩
    have start := word.1
    simp only [Char.isAlphanum, Bool.or_eq_true] at start ⊢
    exact start.imp_left .inl

/-- Whether an identifier stands without quotes. -/
def isBare (spelling : Spelling) (id : String) : Bool :=
  !spelling.alwaysQuote && isWord id && !spelling.isReserved id

def quoted (spelling : Spelling) (id : String) : String :=
  Quoted.enclose spelling.quote id

/-- An identifier, quoted if it has to be. -/
def identifier (spelling : Spelling) (id : String) : String :=
  if spelling.isBare id then id else spelling.quoted id

/-- The identifiers of a name with dots between them. -/
def name (spelling : Spelling) : Name → String
  | .identifier id => spelling.identifier id
  | .qualified parent id => spelling.name parent ++ "." ++ spelling.identifier id

/-- Names do not depend on how values are written. -/
theorem name_withValues (spelling : Spelling) (values : ValueStyle) (name : Name) :
    Spelling.name { spelling with values } name = spelling.name name := by
  induction name with
  | identifier id => rfl
  | qualified parent id ih => simp only [Spelling.name, ih]; rfl

end Spelling

end SqlTree
