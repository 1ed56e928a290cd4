import SqlTree.Proofs.Writer.Form

/-! # Writing trees

The writer of every expression, element, query and node. It goes through the tree as the renderer
does and writes each piece as it gets to it, so every part of a tree sees what stands before it.
Writing a tree is nevertheless the same as rendering it and spelling the fragment: the theorems
follow the recursion of the writer, one case for each form.
-/

namespace SqlTree

mutual

def Expr.write (dialect : Dialect) (position : Position) : Expr → Writer
  | .literal value => dialect.push (.value value)
  | .named name => dialect.push (.name name)
  | .binary op left right =>
    if right.isNullLiteral then Writer.nullTest dialect op left (left.write dialect .inner)
    else if left.isNullLiteral then Writer.nullTest dialect op right (right.write dialect .inner)
    else
      Writer.binary dialect op left right (left.write dialect .inner) (right.write dialect .inner)
  | .not operand =>
    dialect.push (.text "NOT ") >=> Writer.operand dialect operand (operand.write dialect .inner)
  | .isNull negated operand =>
    Writer.operand dialect operand (operand.write dialect .inner) >=>
      dialect.push (.text (if negated then " IS NOT NULL" else " IS NULL"))
  | .inList negated operand values =>
    Writer.inList dialect negated operand values (operand.write dialect .inner)
  | .inQuery negated operand query =>
    Writer.inQuery dialect negated operand (operand.write dialect .inner) (query.write dialect)
  | .call function arguments =>
    Writer.call dialect function (Expr.writeAll dialect .inner arguments)
  | .countAll distinct => Writer.count dialect distinct (dialect.push (.text "*"))
  | .count distinct operand => Writer.count dialect distinct (operand.write dialect .inner)
  | .case target branches otherwise =>
    Writer.caseTarget dialect (Expr.writeOption dialect target) >=>
      Branch.writeAll dialect branches >=>
      Writer.caseEnd dialect (Expr.writeOption dialect otherwise)
  | .subquery query => Writer.parenthesised dialect (query.write dialect)
  | .alias expr name =>
    match position with
    | .entry =>
      expr.write dialect .inner >=> dialect.push (.text " AS ") >=> dialect.push (.name name)
    | .inner => dialect.push (.name name)
  | .allColumns element =>
    match position with
    | .entry => Writer.allColumns dialect element
    | .inner => dialect.reject (.unsupported .nestedAllColumns)
  | .extension node => node.write dialect

def Expr.writeAll (dialect : Dialect) (position : Position) : List Expr → List Writer
  | [] => []
  | expr :: rest => expr.write dialect position :: Expr.writeAll dialect position rest

def Expr.writeOption (dialect : Dialect) : Option Expr → Option Writer
  | none => none
  | some expr => some (expr.write dialect .inner)

def Branch.writeAll (dialect : Dialect) : List Branch → Writer
  | [] => .nothing
  | ⟨condition, result⟩ :: rest =>
    Writer.branch dialect (condition.write dialect .inner) (result.write dialect .inner) >=>
      Branch.writeAll dialect rest

def Element.write (dialect : Dialect) : Element → Writer
  | .table name => dialect.push (.name name)
  | .labelled element label =>
    element.write dialect >=> dialect.push (.text " AS ") >=> dialect.push (.name label)
  | .subquery query => Writer.parenthesised dialect (query.write dialect)

def Element.writeOption (dialect : Dialect) : Option Element → Option Writer
  | none => none
  | some element => some (element.write dialect)

def Join.writeAll (dialect : Dialect) : List Join → Writer
  | [] => .nothing
  | ⟨kind, element, condition⟩ :: rest =>
    Writer.join dialect kind (element.write dialect) (condition.write dialect .inner) >=>
      Join.writeAll dialect rest

def Order.writeAll (dialect : Dialect) (style : NullOrder) : List Order → List Writer
  | [] => []
  | ⟨expr, descending⟩ :: rest =>
    Writer.order dialect style descending (expr.write dialect .inner) ::
      Order.writeAll dialect style rest

def Modifier.writeAll (dialect : Dialect) : List Modifier → Writer
  | [] => .nothing
  | .limit count offset :: rest =>
    Writer.limit dialect count offset >=> Modifier.writeAll dialect rest
  | .extension node :: rest => node.write dialect >=> Modifier.writeAll dialect rest

def Union.writeAll (dialect : Dialect) : List Union → Writer
  | [] => .nothing
  | ⟨kind, query⟩ :: rest =>
    Writer.union dialect kind (query.write dialect) >=> Union.writeAll dialect rest

def Query.write (dialect : Dialect) : Query → Writer
  | ⟨selection, source, joins, filter, grouping, having, order, modifiers, unions⟩ =>
    Writer.selection dialect (Expr.writeAll dialect .entry selection) >=>
      Writer.clauses dialect filter having
        (Writer.source dialect (Element.writeOption dialect source) (!joins.isEmpty)
          (Join.writeAll dialect joins))
        (Expr.writeAll dialect .inner filter) (Expr.writeAll dialect .inner grouping)
        (Expr.writeAll dialect .inner having)
        (Order.writeAll dialect dialect.grammar.nullOrder order)
        (Modifier.writeAll dialect modifiers) (Union.writeAll dialect unions)

def Extension.write (dialect : Dialect) : Extension → Writer
  | .interval amount unit => Writer.interval dialect unit (amount.write dialect .inner)
  | .extractedInterval date unit offset =>
    Writer.extractedInterval dialect unit offset (date.write dialect .inner)
  | .shift direction date amount unit =>
    Writer.shift dialect direction (date.write dialect .inner)
      (Writer.interval dialect unit (amount.write dialect .inner))
  | .truncate date unit offset =>
    Writer.truncation dialect unit offset (date.write dialect .inner)
  | .groupConcat distinct columns order separator =>
    Writer.groupConcat dialect distinct (Expr.writeAll dialect .inner columns)
      (Order.writeAll dialect .unstated order) separator
  | .custom parts => Part.writeAll dialect parts

def Part.writeAll (dialect : Dialect) : List Part → Writer
  | [] => .nothing
  | .text text :: rest => dialect.push (.text text) >=> Part.writeAll dialect rest
  | .expr expr :: rest => expr.write dialect .inner >=> Part.writeAll dialect rest
  | .literal value :: rest => dialect.push (.value value) >=> Part.writeAll dialect rest
  | .argument value :: rest => dialect.push (.argument value) >=> Part.writeAll dialect rest
  | .dialectName :: rest => dialect.push .dialectName >=> Part.writeAll dialect rest
  | .unsupported construct :: _ => dialect.reject (.unsupported (.custom construct))

end

mutual

/-- Writing an expression spells its fragment, or is refused as rendering is. -/
theorem Expr.write_eq_spell (dialect : Dialect) (position : Position) :
    (expr : Expr) →
      expr.write dialect position = dialect.spell (expr.render dialect.grammar position)
  | .literal _ => by rw [Expr.write, Expr.render, dialect.push_eq_spell]; rfl
  | .named _ => by rw [Expr.write, Expr.render, dialect.push_eq_spell]; rfl
  | .binary op left right => by
    rw [Expr.write, Expr.render, left.write_eq_spell dialect .inner,
      right.write_eq_spell dialect .inner]
    split
    · exact Writer.nullTest_spell dialect op left _
    · split
      · exact Writer.nullTest_spell dialect op right _
      · exact Writer.binary_spell dialect op left right _ _
  | .not operand => by
    rw [Expr.write, Expr.render, operand.write_eq_spell dialect .inner]
    simp
  | .isNull _ operand => by
    rw [Expr.write, Expr.render, operand.write_eq_spell dialect .inner]
    simp
  | .inList negated operand values => by
    rw [Expr.write, Expr.render, operand.write_eq_spell dialect .inner, Writer.inList_spell]
  | .inQuery negated operand query => by
    rw [Expr.write, Expr.render, operand.write_eq_spell dialect .inner,
      query.write_eq_spell dialect, Writer.inQuery_spell]
  | .call function arguments => by
    rw [Expr.write, Expr.render, Expr.writeAll_eq_map dialect .inner arguments,
      Writer.call_spell, Expr.renderAll_eq_mapM]
    simp
  | .countAll _ => by
    rw [Expr.write, Expr.render, dialect.push_eq_spell, Writer.count_spell]
    rfl
  | .count _ operand => by
    rw [Expr.write, Expr.render, operand.write_eq_spell dialect .inner, Writer.count_spell]
    simp
  | .case target branches otherwise => by
    rw [Expr.write, Expr.render, Expr.writeOption_eq_map dialect target,
      Branch.writeAll_eq_spell dialect branches, Expr.writeOption_eq_map dialect otherwise,
      Writer.caseTarget_spell, Writer.caseEnd_spell, Expr.renderOption_eq_mapM,
      Expr.renderOption_eq_mapM]
    simp
  | .subquery query => by
    rw [Expr.write, Expr.render, query.write_eq_spell dialect, Writer.parenthesised_spell]
    simp
  | .alias expr name => by
    cases position with
    | entry =>
      rw [Expr.write, Expr.render, expr.write_eq_spell dialect .inner]
      simp
    | inner => exact dialect.push_eq_spell (.name name)
  | .allColumns element => by
    cases position with
    | entry => exact Writer.allColumns_eq_spell dialect element
    | inner => rfl
  | .extension node => by
    rw [Expr.write, Expr.render, node.write_eq_spell dialect]

theorem Expr.writeAll_eq_map (dialect : Dialect) (position : Position) :
    (exprs : List Expr) →
      Expr.writeAll dialect position exprs =
        exprs.map fun expr => dialect.spell (expr.render dialect.grammar position)
  | [] => rfl
  | expr :: rest =>
    congrArg₂ List.cons (expr.write_eq_spell dialect position)
      (Expr.writeAll_eq_map dialect position rest)

theorem Expr.writeOption_eq_map (dialect : Dialect) :
    (expr : Option Expr) →
      Expr.writeOption dialect expr =
        expr.map fun expr => dialect.spell (expr.render dialect.grammar .inner)
  | none => rfl
  | some expr => congrArg some (expr.write_eq_spell dialect .inner)

theorem Branch.writeAll_eq_spell (dialect : Dialect) :
    (branches : List Branch) →
      Branch.writeAll dialect branches =
        dialect.spell (Branch.renderAll dialect.grammar branches)
  | [] => dialect.nothing_eq_spell
  | ⟨condition, result⟩ :: rest => by
    rw [Branch.writeAll, Branch.renderAll, condition.write_eq_spell dialect .inner,
      result.write_eq_spell dialect .inner, Writer.branch_spell,
      Branch.writeAll_eq_spell dialect rest]
    simp

theorem Element.write_eq_spell (dialect : Dialect) :
    (element : Element) →
      element.write dialect = dialect.spell (element.render dialect.grammar)
  | .table _ => by rw [Element.write, Element.render, dialect.push_eq_spell]; rfl
  | .labelled element _ => by
    rw [Element.write, Element.render, element.write_eq_spell dialect]
    simp
  | .subquery query => by
    rw [Element.write, Element.render, query.write_eq_spell dialect, Writer.parenthesised_spell]
    simp

theorem Element.writeOption_eq_map (dialect : Dialect) :
    (element : Option Element) →
      Element.writeOption dialect element =
        element.map fun element => dialect.spell (element.render dialect.grammar)
  | none => rfl
  | some element => congrArg some (element.write_eq_spell dialect)

theorem Join.writeAll_eq_spell (dialect : Dialect) :
    (joins : List Join) →
      Join.writeAll dialect joins = dialect.spell (Join.renderAll dialect.grammar joins)
  | [] => dialect.nothing_eq_spell
  | ⟨kind, element, condition⟩ :: rest => by
    rw [Join.writeAll, Join.renderAll, element.write_eq_spell dialect,
      condition.write_eq_spell dialect .inner, Writer.join_spell,
      Join.writeAll_eq_spell dialect rest]
    simp

theorem Order.writeAll_eq_map (dialect : Dialect) (style : NullOrder) :
    (keys : List Order) →
      Order.writeAll dialect style keys = keys.map fun key => dialect.spell (do
        return Form.order style key.descending (← key.expr.render dialect.grammar .inner))
  | [] => rfl
  | ⟨expr, descending⟩ :: rest => by
    rw [Order.writeAll, expr.write_eq_spell dialect .inner, Writer.order_spell,
      Order.writeAll_eq_map dialect style rest]
    simp

theorem Modifier.writeAll_eq_spell (dialect : Dialect) :
    (modifiers : List Modifier) →
      Modifier.writeAll dialect modifiers =
        dialect.spell (Modifier.renderAll dialect.grammar modifiers)
  | [] => dialect.nothing_eq_spell
  | .limit count offset :: rest => by
    rw [Modifier.writeAll, Modifier.renderAll, Writer.limit_eq_spell,
      Modifier.writeAll_eq_spell dialect rest, dialect.spell_comp]
  | .extension node :: rest => by
    rw [Modifier.writeAll, Modifier.renderAll, node.write_eq_spell dialect,
      Modifier.writeAll_eq_spell dialect rest, dialect.spell_comp]

theorem Union.writeAll_eq_spell (dialect : Dialect) :
    (unions : List Union) →
      Union.writeAll dialect unions = dialect.spell (Union.renderAll dialect.grammar unions)
  | [] => dialect.nothing_eq_spell
  | ⟨kind, query⟩ :: rest => by
    rw [Union.writeAll, Union.renderAll, query.write_eq_spell dialect, Writer.union_spell,
      Union.writeAll_eq_spell dialect rest]
    simp

theorem Query.write_eq_spell (dialect : Dialect) :
    (query : Query) → query.write dialect = dialect.spell (query.render dialect.grammar)
  | ⟨selection, source, joins, filter, grouping, having, order, modifiers, unions⟩ => by
    rw [Query.write, Query.render, Expr.writeAll_eq_map dialect .entry selection,
      Element.writeOption_eq_map dialect source, Join.writeAll_eq_spell dialect joins,
      Expr.writeAll_eq_map dialect .inner filter, Expr.writeAll_eq_map dialect .inner grouping,
      Expr.writeAll_eq_map dialect .inner having,
      Order.writeAll_eq_map dialect dialect.grammar.nullOrder order,
      Modifier.writeAll_eq_spell dialect modifiers, Union.writeAll_eq_spell dialect unions,
      Writer.selection_spell, Writer.source_spell, Writer.clauses_spell]
    simp [Expr.renderAll_eq_mapM, Order.renderAll_eq_mapM, Element.renderOption_eq_mapM]

theorem Extension.write_eq_spell (dialect : Dialect) :
    (node : Extension) → node.write dialect = dialect.spell (node.render dialect.grammar)
  | .interval amount unit => by
    rw [Extension.write, Extension.render, amount.write_eq_spell dialect .inner,
      Writer.interval_spell]
  | .extractedInterval date unit offset => by
    rw [Extension.write, Extension.render, date.write_eq_spell dialect .inner,
      Writer.extractedInterval_spell]
  | .shift direction date amount unit => by
    rw [Extension.write, Extension.render, date.write_eq_spell dialect .inner,
      amount.write_eq_spell dialect .inner, Writer.interval_spell, Writer.shift_spell]
  | .truncate date unit offset => by
    rw [Extension.write, Extension.render, date.write_eq_spell dialect .inner,
      Writer.truncation_spell]
  | .groupConcat distinct columns order separator => by
    rw [Extension.write, Extension.render, Expr.writeAll_eq_map dialect .inner columns,
      Order.writeAll_eq_map dialect .unstated order, Writer.groupConcat_spell,
      Expr.renderAll_eq_mapM, Order.renderAll_eq_mapM]
  | .custom parts => by
    rw [Extension.write, Extension.render, Part.writeAll_eq_spell dialect parts]

theorem Part.writeAll_eq_spell (dialect : Dialect) :
    (parts : List Part) →
      Part.writeAll dialect parts = dialect.spell (Part.renderAll dialect.grammar parts)
  | [] => dialect.nothing_eq_spell
  | .text _ :: rest => by
    rw [Part.writeAll, Part.renderAll, Part.writeAll_eq_spell dialect rest]
    simp
  | .expr expr :: rest => by
    rw [Part.writeAll, Part.renderAll, expr.write_eq_spell dialect .inner,
      Part.writeAll_eq_spell dialect rest, dialect.spell_comp]
  | .literal _ :: rest => by
    rw [Part.writeAll, Part.renderAll, Part.writeAll_eq_spell dialect rest]
    simp
  | .argument _ :: rest => by
    rw [Part.writeAll, Part.renderAll, Part.writeAll_eq_spell dialect rest]
    simp
  | .dialectName :: rest => by
    rw [Part.writeAll, Part.renderAll, Part.writeAll_eq_spell dialect rest]
    simp
  | .unsupported _ :: _ => by
    rw [Part.writeAll, Part.renderAll]
    rfl

end

/-! ## Writing statements

The writer of every statement. Compiling a statement is writing it with nothing before it.
-/

def Query.writeClauses (dialect : Dialect) (query : Query) : Writer :=
  Writer.clauses dialect query.filter query.having
    (Writer.source dialect (Element.writeOption dialect query.source) (!query.joins.isEmpty)
      (Join.writeAll dialect query.joins))
    (Expr.writeAll dialect .inner query.filter) (Expr.writeAll dialect .inner query.grouping)
    (Expr.writeAll dialect .inner query.having)
    (Order.writeAll dialect dialect.grammar.nullOrder query.order)
    (Modifier.writeAll dialect query.modifiers) (Union.writeAll dialect query.unions)

theorem Query.writeClauses_eq_spell (dialect : Dialect) (query : Query) :
    query.writeClauses dialect = dialect.spell (query.clauses dialect.grammar) := by
  rw [writeClauses, Element.writeOption_eq_map, Join.writeAll_eq_spell, Expr.writeAll_eq_map,
    Expr.writeAll_eq_map, Expr.writeAll_eq_map, Order.writeAll_eq_map,
    Modifier.writeAll_eq_spell, Union.writeAll_eq_spell, Writer.source_spell,
    Writer.clauses_spell]
  simp [Query.clauses, sourceClause, filterClause, groupingClause, havingClause, orderClause,
    modifierClauses, unionClauses, Expr.renderAll_eq_mapM, Order.renderAll_eq_mapM,
    Element.renderOption_eq_mapM]

/-- Writes a column that a statement for `table` assigns to, by its identifier alone. -/
def Writer.assignedColumn (dialect : Dialect) (table column : Name) : Writer :=
  if column.parent? = some table then dialect.push (.name (.identifier column.id))
  else dialect.reject (.unsupported (.foreignAssignment column table))

theorem Writer.assignedColumn_eq_spell (dialect : Dialect) (table column : Name) :
    assignedColumn dialect table column = dialect.spell (Form.assignedColumn table column) := by
  unfold assignedColumn Form.assignedColumn
  split
  · exact dialect.push_eq_spell _
  · rfl

def Insert.write (dialect : Dialect) (insert : Insert) : Writer :=
  dialect.push (.text "INSERT INTO ") >=> dialect.push (.name insert.table) >=>
    if insert.assignments.isEmpty then
      dialect.push (.text (Form.defaultRow dialect.grammar.defaultRow))
    else
      dialect.push (.text " (") >=>
        Writer.separated dialect ", "
          (insert.assignments.columns.map (Writer.assignedColumn dialect insert.table)) >=>
        dialect.push (.text ") VALUES (") >=>
        Writer.values dialect (insert.assignments.map Prod.snd) >=> dialect.push (.text ")")

theorem Insert.write_eq_spell (dialect : Dialect) (insert : Insert) :
    insert.write dialect = dialect.spell (insert.render dialect.grammar) := by
  unfold write render
  split
  · simp only [Dialect.push_eq_spell, Dialect.spell_comp]
    rfl
  · rw [funext (Writer.assignedColumn_eq_spell dialect insert.table)]
    simp [Function.comp_def]

def InsertQuery.write (dialect : Dialect) (insert : InsertQuery) : Writer :=
  dialect.push (.text "INSERT INTO ") >=> dialect.push (.name insert.table) >=>
    dialect.push (.text " ") >=> insert.query.write dialect

theorem InsertQuery.write_eq_spell (dialect : Dialect) (insert : InsertQuery) :
    insert.write dialect = dialect.spell (insert.render dialect.grammar) := by
  rw [write, render, Query.write_eq_spell]
  simp

def Update.writeAssignment (dialect : Dialect) (table : Name) (assignment : Name × Expr) : Writer :=
  Writer.assignedColumn dialect table assignment.1 >=> dialect.push (.text " = ") >=>
    assignment.2.write dialect .inner

theorem Update.writeAssignment_eq_spell (dialect : Dialect) (table : Name)
    (assignment : Name × Expr) :
    writeAssignment dialect table assignment =
      dialect.spell (renderAssignment dialect.grammar table assignment) := by
  rw [writeAssignment, renderAssignment, Writer.assignedColumn_eq_spell, Expr.write_eq_spell]
  simp

def Update.write (dialect : Dialect) (update : Update) : Writer :=
  if update.assignments.isEmpty then dialect.reject (.unsupported .emptyUpdate)
  else
    dialect.unlessRefused (Form.checkRowLimits dialect.grammar .update update.rows) fun _ =>
      dialect.push (.text "UPDATE ") >=> dialect.push (.name update.table) >=>
        dialect.push (.text " SET ") >=>
        Writer.separated dialect ", "
          (update.assignments.map (Update.writeAssignment dialect update.table)) >=>
        update.rows.writeClauses dialect

theorem Update.write_eq_spell (dialect : Dialect) (update : Update) :
    update.write dialect = dialect.spell (update.render dialect.grammar) := by
  unfold write render
  split
  · rfl
  · rw [funext (writeAssignment_eq_spell dialect update.table), Query.writeClauses_eq_spell]
    simp

def Delete.write (dialect : Dialect) (delete : Delete) : Writer :=
  dialect.unlessRefused (Form.checkRowLimits dialect.grammar .delete delete.rows) fun _ =>
    dialect.push (.text "DELETE FROM ") >=> dialect.push (.name delete.table) >=>
      delete.rows.writeClauses dialect

theorem Delete.write_eq_spell (dialect : Dialect) (delete : Delete) :
    delete.write dialect = dialect.spell (delete.render dialect.grammar) := by
  rw [write, render, Query.writeClauses_eq_spell]
  simp

def Statement.write (dialect : Dialect) : Statement → Writer
  | .query selected => selected.write dialect
  | .insert inserted => inserted.write dialect
  | .insertQuery inserted => inserted.write dialect
  | .update change => change.write dialect
  | .delete deletion => deletion.write dialect

theorem Statement.write_eq_spell (dialect : Dialect) (statement : Statement) :
    statement.write dialect = dialect.spell (statement.render dialect.grammar) := by
  cases statement with
  | query selected => exact selected.write_eq_spell dialect
  | insert inserted => exact inserted.write_eq_spell dialect
  | insertQuery inserted => exact inserted.write_eq_spell dialect
  | update change => exact change.write_eq_spell dialect
  | delete deletion => exact deletion.write_eq_spell dialect

/-- Compiling a statement is writing it with nothing before it. -/
theorem Dialect.compile_eq_write (dialect : Dialect) (statement : Statement) :
    dialect.compile statement = statement.write dialect ⟨"", []⟩ :=
  (congrFun (statement.write_eq_spell dialect) ⟨"", []⟩).symm

end SqlTree
