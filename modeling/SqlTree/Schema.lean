import SqlTree.Statement

/-! # Schemas

Tables, their columns, and what a column may be declared with: a type and a property of each kind.
-/

namespace SqlTree

/-! ## Column types

The types of columns, whatever a database calls them. A reference has the type of the column it
refers to, which may be a reference again.
-/

inductive ColumnType where
  | int
  | long
  | decimal (precision scale : UInt8)
  | varchar (length : UInt32)
  | char
  | text
  | bool
  | date
  | dateTime
  | time
  | uuid
  | binary (length : UInt32)
  | blob
  | enumeration
  | reference (target : ColumnType)
deriving DecidableEq, Repr, Inhabited

namespace ColumnType

/-- The type in messages, in which `&` stands before the type referred to. -/
def display : ColumnType → String
  | int => "INT"
  | long => "LONG"
  | decimal precision scale =>
    "DECIMAL(" ++ naturalText precision.toNat ++ ", " ++ naturalText scale.toNat ++ ")"
  | varchar length => "VARCHAR(" ++ naturalText length.toNat ++ ")"
  | char => "CHAR"
  | text => "TEXT"
  | bool => "BOOL"
  | date => "DATE"
  | dateTime => "DATETIME"
  | time => "TIME"
  | uuid => "UUID"
  | binary length => "BINARY(" ++ naturalText length.toNat ++ ")"
  | blob => "BLOB"
  | enumeration => "ENUM"
  | reference target => "&" ++ target.display

end ColumnType

/-! ## Column properties

A column has at most one property of each kind, in the order in which they were declared. A
second property of a kind is refused and leaves the others as they are.
-/

inductive PropertyKind where
  | nullable | autoIncrement | primaryKey | default | references
deriving DecidableEq, Repr, Inhabited

def PropertyKind.text : PropertyKind → String
  | nullable => "NULLABLE"
  | autoIncrement => "AUTOINCREMENT"
  | primaryKey => "PRIMARY KEY"
  | default => "DEFAULT"
  | references => "REFERENCES"

inductive Property where
  | nullable
  | autoIncrement
  | primaryKey
  | default (value : Value)
  | references (column : Name)
deriving DecidableEq, Repr, Inhabited

def Property.kind : Property → PropertyKind
  | nullable => .nullable
  | autoIncrement => .autoIncrement
  | primaryKey => .primaryKey
  | default _ => .default
  | references _ => .references

/-- A column was given two properties of one kind. -/
structure DuplicateProperty where
  column : Name
  kind : PropertyKind
deriving DecidableEq, Repr

def DuplicateProperty.message (error : DuplicateProperty) : String :=
  "column '" ++ error.column.text ++ "' already has a " ++ error.kind.text ++ " property"

structure Properties where
  entries : List Property := []
deriving DecidableEq, Repr, Inhabited

namespace Properties

def get? (properties : Properties) (kind : PropertyKind) : Option Property :=
  properties.entries.find? (fun property => property.kind == kind)

def has (properties : Properties) (kind : PropertyKind) : Bool :=
  (properties.get? kind).isSome

/-- The default value, if one is declared; it may be NULL. -/
def defaultValue? (properties : Properties) : Option Value :=
  match properties.get? .default with
  | some (.default value) => some value
  | _ => none

def references? (properties : Properties) : Option Name :=
  match properties.get? .references with
  | some (.references column) => some column
  | _ => none

/-- Adds a property of a kind that `column` has none of yet. -/
def insert (properties : Properties) (column : Name) (property : Property) :
    Except DuplicateProperty Properties :=
  if properties.has property.kind then .error ⟨column, property.kind⟩
  else .ok ⟨properties.entries ++ [property]⟩

/-- The registry of the given properties of `column`, if no kind occurs twice. -/
def ofList (column : Name) (declared : List Property) : Except DuplicateProperty Properties :=
  declared.foldlM (fun properties property => properties.insert column property) {}

/-- A property is accepted, at the end, when none of its kind is there yet. -/
theorem insert_eq_ok_iff (properties next : Properties) (column : Name) (property : Property) :
    properties.insert column property = .ok next ↔
      properties.get? property.kind = none ∧ next = ⟨properties.entries ++ [property]⟩ := by
  cases found : properties.get? property.kind <;> simp [insert, has, found, eq_comm]

end Properties

/-! ## Tables

A table is declared column by column. A draft collects the properties of a column; adding it to a
table checks them, and either the table has the column at its end or nothing has changed.
-/

structure Column where
  name : Name
  type : ColumnType
  properties : Properties
deriving DecidableEq, Repr, Inhabited

namespace Column

def id (column : Column) : String :=
  column.name.id

def display (column : Column) : String :=
  column.name.text ++ ": " ++ column.type.display

def isNullable (column : Column) : Bool :=
  column.properties.has .nullable

/-- Whether the database numbers the rows in this column. -/
def isAutoIncrement (column : Column) : Bool :=
  column.properties.has .autoIncrement

def isPrimaryKey (column : Column) : Bool :=
  column.properties.has .primaryKey

def toExpr (column : Column) : Expr :=
  .named column.name

end Column

/-- A column that is not declared yet. -/
structure Draft where
  id : String
  type : ColumnType
  properties : List Property := []
deriving DecidableEq, Repr, Inhabited

namespace Draft

/-- A draft of a column that refers to `target` and has its type. -/
def reference (id : String) (target : Column) : Draft :=
  { id, type := .reference target.type, properties := [.references target.name] }

def declare (draft : Draft) (property : Property) : Draft :=
  { draft with properties := draft.properties ++ [property] }

end Draft

/-- A table with its columns in the order of their declaration. -/
structure Table where
  name : Name
  columns : List Column := []
deriving DecidableEq, Repr, Inhabited

namespace Table

def named (id : String) : Table :=
  { name := .identifier id }

def register (column : Column) : StateM Table Unit :=
  modify fun table => { table with columns := table.columns ++ [column] }

/-- Declares the column of a draft in the table, unless two properties of the draft are of one
kind. -/
def declare (draft : Draft) : ExceptT DuplicateProperty (StateM Table) Column := do
  let name := Name.qualified (← get).name draft.id
  let properties ← Properties.ofList name draft.properties
  let column : Column := { name, type := draft.type, properties }
  register column
  return column

/-- The table with the column of the draft, and that column, unless it is refused. -/
def add (table : Table) (draft : Draft) : Except DuplicateProperty (Table × Column) :=
  match (declare draft).run.run table with
  | (.ok column, table) => .ok (table, column)
  | (.error error, _) => .error error

def primaryKey (table : Table) : List Column :=
  table.columns.filter Column.isPrimaryKey

def toElement (table : Table) : Element :=
  .table table.name

def query (table : Table) : Query :=
  .ofElement table.toElement

def labelled (table : Table) (label : String) : LabelledElement :=
  ⟨table.toElement, .identifier label⟩

end Table

end SqlTree
