import SqlTree.Dialect

/-! # Column types in a dialect

The name of a column type and the declaration of a column. The dialect is asked again for the type
that a reference leads to, so a column that refers to another is declared with the other's type.
-/

namespace SqlTree

/-- What a type is called where `answer?` decides about some types and standard SQL about the
others. For a reference that is left open the question is asked again for the type it leads to.
An answer is a name, or whatever else a dialect has to say about a type. -/
def ColumnType.resolve {α : Type} (answer? : ColumnType → Option α) (standard : String → α) :
    ColumnType → α
  | reference target => (answer? (reference target)).getD (resolve answer? standard target)
  | type => (answer? type).getD (standard type.standardName)

/-- The declaration of a column: its type, and that it is not NULL unless it may be. A column that
the database numbers has a declaration of its own. -/
def Column.declaration {ε : Type} (column : Column) (name identity : ColumnType → Except ε String) :
    Except ε String :=
  if column.isAutoIncrement then identity column.type
  else do
    let name ← name column.type
    return if column.isNullable then name else name ++ " NOT NULL"

namespace Dialect

def columnType (dialect : Dialect) (type : ColumnType) : String :=
  type.resolve dialect.types.name? id

def identityType (dialect : Dialect) (type : ColumnType) : Except CompileError String :=
  match dialect.types.identity? type with
  | some declaration => .ok declaration
  | none => .error ⟨dialect.name, .identityType type⟩

def columnDeclaration (dialect : Dialect) (column : Column) : Except CompileError String :=
  column.declaration (fun type => .ok (dialect.columnType type)) dialect.identityType

end Dialect

end SqlTree
