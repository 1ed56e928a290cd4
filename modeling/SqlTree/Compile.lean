import SqlTree.Render

/-! # Compiling

A statement in a dialect: its fragment in the dialect's grammar, spelled as the dialect spells it,
or the dialect's refusal.
-/

namespace SqlTree

/-! ## Rendering statements

The fragment of every statement. Statements that change rows check what they may not contain before
anything else is looked at.
-/

namespace Form

/-- A column that a statement for `table` assigns to, by its identifier alone. -/
def assignedColumn (table column : Name) : Rendering :=
  if column.parent? = some table then .ok [.name (.identifier column.id)]
  else Refusal.of (.foreignAssignment column table)

def checkRowLimit (grammar : Grammar) (statement : RowStatement) : Modifier → Except Refusal Unit
  | .limit _ offset =>
    if !grammar.rowLimit then Refusal.of (.rowLimit statement)
    else if offset ≠ 0 ∧ !grammar.rowOffset then Refusal.of (.rowOffset statement)
    else .ok ()
  | .extension _ => .ok ()

def checkRowLimits (grammar : Grammar) (statement : RowStatement) (rows : Query) :
    Except Refusal Unit :=
  rows.modifiers.forM (checkRowLimit grammar statement)

def defaultRow : DefaultRow → String
  | .clause => " DEFAULT VALUES"
  | .emptyLists => " () VALUES ()"

end Form

/-- The fragment of an insertion of values: the columns, then the values in the same order. -/
def Insert.render (grammar : Grammar) (insert : Insert) : Rendering :=
  if insert.assignments.isEmpty then
    .ok [.text "INSERT INTO ", .name insert.table, .text (Form.defaultRow grammar.defaultRow)]
  else do
    let columns ← insert.assignments.columns.mapM (Form.assignedColumn insert.table)
    let values := insert.assignments.map fun assignment => [Piece.value assignment.2]
    return [.text "INSERT INTO ", .name insert.table, .text " ("] ++
      Fragment.separated ", " columns ++ [.text ") VALUES ("] ++
      Fragment.separated ", " values ++ [.text ")"]

def InsertQuery.render (grammar : Grammar) (insert : InsertQuery) : Rendering := do
  return [.text "INSERT INTO ", .name insert.table, .text " "] ++ (← insert.query.render grammar)

def Update.renderAssignment (grammar : Grammar) (table : Name) (assignment : Name × Expr) :
    Rendering := do
  return (← Form.assignedColumn table assignment.1) ++ .text " = " ::
    (← assignment.2.render grammar .inner)

def Update.render (grammar : Grammar) (update : Update) : Rendering :=
  if update.assignments.isEmpty then Refusal.of .emptyUpdate
  else do
    Form.checkRowLimits grammar .update update.rows
    let assignments ← update.assignments.mapM (Update.renderAssignment grammar update.table)
    return [.text "UPDATE ", .name update.table, .text " SET "] ++
      Fragment.separated ", " assignments ++ (← update.rows.clauses grammar)

def Delete.render (grammar : Grammar) (delete : Delete) : Rendering := do
  Form.checkRowLimits grammar .delete delete.rows
  return [.text "DELETE FROM ", .name delete.table] ++ (← delete.rows.clauses grammar)

def Statement.render (grammar : Grammar) : Statement → Rendering
  | .query selected => selected.render grammar
  | .insert inserted => inserted.render grammar
  | .insertQuery inserted => inserted.render grammar
  | .update change => change.render grammar
  | .delete deletion => deletion.render grammar

/-! ## Compiled statements -/

namespace Dialect

/-- A refusal as an error of the dialect. -/
def refuse (dialect : Dialect) {α : Type} (result : Except Refusal α) : Except CompileError α :=
  result.mapError fun refusal => ⟨dialect.name, refusal⟩

/-- The compiled text with a rendering after it. -/
def appendRendering (dialect : Dialect) (compiled : Compiled) (rendering : Rendering) :
    Except CompileError Compiled := do
  return dialect.append compiled (← dialect.refuse rendering)

@[simp] theorem appendRendering_ok (dialect : Dialect) (compiled : Compiled) (fragment : Fragment) :
    dialect.appendRendering compiled (.ok fragment) = .ok (dialect.append compiled fragment) := rfl

@[simp] theorem appendRendering_error (dialect : Dialect) (compiled : Compiled)
    (refusal : Refusal) :
    dialect.appendRendering compiled (.error refusal) = .error ⟨dialect.name, refusal⟩ := rfl

theorem appendRendering_eq_ok {dialect : Dialect} {before after : Compiled}
    {rendering : Rendering} :
    dialect.appendRendering before rendering = .ok after ↔
      ∃ fragment, rendering = .ok fragment ∧ dialect.append before fragment = after := by
  cases rendering with
  | error refusal => exact ⟨nofun, nofun⟩
  | ok fragment => simp

/-- The text and the arguments of a statement, or why the dialect has no form for it. -/
def compile (dialect : Dialect) (statement : Statement) : Except CompileError Compiled :=
  dialect.appendRendering ⟨"", []⟩ (statement.render dialect.grammar)

end Dialect

end SqlTree
