import SqlTree.Proofs.Account.Form
import SqlTree.Proofs.Calls
import SqlTree.Proofs.Reading.Name
import SqlTree.Proofs.Text

/-! # Insertions of values

However a row of values is assigned, the columns and the values of the compiled insertion stand in
the same order: each column once, where it was assigned first, with the value it was assigned last
(`compile_insertion`). Columns are written as different identifiers, as different identifiers are
never spelled alike.
-/

namespace SqlTree

/-! ## Assigned columns -/

namespace Form

/-- The columns of a table are written by their identifiers. -/
private theorem mapM_assignedColumn {table : Name} {columns : List Name}
    (inside : ∀ column ∈ columns, column.parent? = some table) :
    columns.mapM (assignedColumn table) =
      .ok (columns.map fun column => [.name (.identifier column.id)]) := by
  induction columns with
  | nil => rfl
  | cons column rest ih =>
    obtain ⟨first, others⟩ := List.forall_mem_cons.mp inside
    rw [List.mapM_cons, ih others, assignedColumn, if_pos first]
    rfl

/-- Only columns of the table are written. -/
private theorem inside_of_mapM_assignedColumn {table : Name} {columns : List Name}
    {fragments : List Fragment} (written : columns.mapM (assignedColumn table) = .ok fragments) :
    ∀ column ∈ columns, column.parent? = some table := by
  induction columns generalizing fragments with
  | nil => exact fun _ member => nomatch member
  | cons column rest ih =>
    rw [List.mapM_cons] at written
    obtain ⟨fragment, first, tail⟩ := bind_eq_ok.mp written
    obtain ⟨others, restWritten, -⟩ := bind_eq_ok.mp tail
    refine List.forall_mem_cons.mpr ⟨?_, ih restWritten⟩
    by_contra outside
    rw [assignedColumn, if_neg outside] at first
    cases first

end Form

/-- A column of a table is determined by its identifier. -/
private theorem Name.eq_of_id_eq {table first second : Name} (inFirst : first.parent? = some table)
    (inSecond : second.parent? = some table) (same : first.id = second.id) : first = second := by
  cases first with
  | identifier id => cases inFirst
  | qualified parent id =>
    cases second with
    | identifier other => cases inSecond
    | qualified otherParent other =>
      cases inFirst
      cases inSecond
      exact congrArg _ same

namespace Insert

private theorem run_eq (insert : Insert) (steps : List (Name × Value)) :
    insert.run steps = { insert with assignments := insert.assignments.run steps } := by
  induction steps generalizing insert with
  | nil => rfl
  | cons step rest ih => exact ih _

/-- A row of values for columns of the table is written with the columns before the values. -/
private theorem render_eq_ok (grammar : Grammar) {insert : Insert} (some : insert.assignments ≠ [])
    (inside : ∀ column ∈ insert.assignments.columns, column.parent? = .some insert.table) :
    insert.render grammar =
      .ok ([.text "INSERT INTO ", .name insert.table, .text " ("] ++
        Fragment.separated ", "
          (insert.assignments.columns.map fun column => [.name (.identifier column.id)]) ++
        [.text ") VALUES ("] ++
        Fragment.separated ", " (insert.assignments.map fun entry => [.value entry.2]) ++
        [.text ")"]) := by
  have filled : insert.assignments.isEmpty = false := by simpa using some
  rw [render, filled, Form.mapM_assignedColumn inside]
  rfl

private theorem inside_of_render_eq_ok {grammar : Grammar} {insert : Insert} {fragment : Fragment}
    (written : insert.render grammar = .ok fragment) :
    ∀ column ∈ insert.assignments.columns, column.parent? = some insert.table := by
  rw [render] at written
  split at written
  · rename_i empty
    rw [List.isEmpty_iff.mp empty]
    exact fun _ member => nomatch member
  · obtain ⟨columns, columnsWritten, -⟩ := bind_eq_ok.mp written
    exact Form.inside_of_mapM_assignedColumn columnsWritten

end Insert

/-- The values that are not NULL are arguments. -/
private theorem Site.flatMap_arguments_value (values : List Value) :
    (values.map Site.value).flatMap Site.arguments = values.filter fun value => !value.isNull := by
  induction values with
  | nil => rfl
  | cons value rest ih =>
    rw [List.map_cons, List.flatMap_cons, ih, List.filter_cons]
    cases null : value.isNull <;> simp [Site.arguments, null]

namespace Dialect

variable {dialect : Dialect}

/-- The columns of assignments as they are listed. -/
def columnTexts {α : Type} (dialect : Dialect) (assignments : Assignments α) : List String :=
  assignments.columns.map fun column => dialect.spelling.identifier column.id

/-- Different columns of one table are listed differently. -/
private theorem nodup_columnTexts {α : Type} (conventional : dialect.Conventional)
    {assignments : Assignments α} (distinct : assignments.columns.Nodup) {table : Name}
    (inside : ∀ column ∈ assignments.columns, column.parent? = some table) :
    (dialect.columnTexts assignments).Nodup := by
  have separable := Spelling.separable_of_isQuote conventional.quote
  refine List.Nodup.map_on (fun first inFirst second inSecond same => ?_) distinct
  exact Name.eq_of_id_eq (inside first inFirst) (inside second inSecond)
    (separable.identifier_injective same)

/-- An insertion with the columns and the values in the same order. -/
theorem compile_insert_eq_ok (conventional : dialect.Conventional) {insert : Insert}
    (some : insert.assignments ≠ [])
    (inside : ∀ column ∈ insert.assignments.columns, column.parent? = .some insert.table) :
    dialect.compile (.insert insert) =
      .ok
        { sql := "INSERT INTO " ++ dialect.spelling.name insert.table ++ " (" ++
            ", ".intercalate (dialect.columnTexts insert.assignments) ++ ") VALUES (" ++
            ", ".intercalate
              (insert.assignments.map fun entry => if entry.2.isNull then "NULL" else "?") ++ ")"
          arguments := (insert.assignments.map Prod.snd).filter fun value => !value.isNull } := by
  have marked := conventional.values
  have columns : (insert.assignments.columns.map fun column =>
      [Piece.name (.identifier column.id)]).map dialect.text =
        dialect.columnTexts insert.assignments := by
    rw [List.map_map]
    exact List.map_congr_left fun column _ => text_singleton dialect _
  have columnArguments : (insert.assignments.columns.map fun column =>
      [Piece.name (.identifier column.id)]).flatMap dialect.argumentsOf = [] := by
    rw [List.flatMap_map]
    exact List.flatMap_eq_nil_iff.mpr fun column _ => dialect.argumentsOf_name _ []
  have values : (insert.assignments.map fun entry => [Piece.value entry.2]).map dialect.text =
      insert.assignments.map fun entry => if entry.2.isNull then "NULL" else "?" := by
    rw [List.map_map]
    exact List.map_congr_left fun entry _ =>
      (text_singleton dialect _).trans (pieceText_value marked 0 entry.2)
  have valueArguments : (insert.assignments.map fun entry => [Piece.value entry.2]).flatMap
      dialect.argumentsOf =
        (insert.assignments.map Prod.snd).filter fun value => !value.isNull := by
    rw [← argumentsOf_separated, ← Site.flatMap_arguments_value, ← Form.argumentsOf_values conventional,
      List.map_map]
    rfl
  rw [compile, appendRendering_empty, Statement.render, Insert.render_eq_ok _ some inside]
  simp only [refuse, Except.mapError, Except.map, text_append marked, text_separated marked,
    columns, values, argumentsOf_append, argumentsOf_separated, columnArguments, valueArguments,
    argumentsOf_text, argumentsOf_name, argumentsOf_nil, List.nil_append, List.append_nil]
  rw [text_cons marked, text_cons marked, text_singleton, text_singleton, text_singleton]
  simp only [pieceText, String.append_assoc]

/-- An insertion compiles if and only if all its columns are columns of its table. -/
theorem compile_insert_ok_iff (conventional : dialect.Conventional) (insert : Insert) :
    (∃ compiled, dialect.compile (.insert insert) = .ok compiled) ↔
      ∀ column ∈ insert.assignments.columns, column.parent? = some insert.table := by
  constructor
  · rintro ⟨compiled, compiles⟩
    obtain ⟨fragment, rendered, -⟩ := appendRendering_eq_ok.mp compiles
    exact Insert.inside_of_render_eq_ok rendered
  · intro inside
    by_cases none : insert.assignments = []
    · exact ⟨_, by rw [compile, Statement.render, Insert.render, none]; rfl⟩
    · exact ⟨_, compile_insert_eq_ok conventional none inside⟩

/-- Any run of assignments leaves each column once, in the order of first assignments, with its
last value. The insertion compiles if and only if all columns are columns of the table. It then
lists the columns, which all differ, and the values in that order, unless there are none. -/
theorem compile_insertion (known : dialect ∈ builtIn) (table : Name)
    (steps : List (Name × Value)) :
    let entries := Assignments.settled steps
    let insertion := Insert.run { table } steps
    insertion.assignments = entries ∧ entries.columns = (steps.map Prod.fst).eraseDups ∧
      ((∃ compiled, dialect.compile (.insert insertion) = .ok compiled) ↔
        ∀ column ∈ entries.columns, column.parent? = some table) ∧
      ∀ compiled, dialect.compile (.insert insertion) = .ok compiled → entries ≠ [] →
        compiled.sql = "INSERT INTO " ++ dialect.spelling.name table ++ " (" ++
            ", ".intercalate (dialect.columnTexts entries) ++ ") VALUES (" ++
            ", ".intercalate (entries.map fun entry => if entry.2.isNull then "NULL" else "?") ++
            ")" ∧
          compiled.arguments = (entries.map Prod.snd).filter (fun value => !value.isNull) ∧
          (dialect.columnTexts entries).Nodup := by
  intro entries insertion
  have conventional := conventional_of_builtIn known
  have settled : Assignments.run [] steps = entries := Assignments.run_eq_settled steps
  have run : insertion = { table, assignments := entries } := by
    rw [← settled]
    exact Insert.run_eq _ _
  have columns : entries.columns = (steps.map Prod.fst).eraseDups := by
    rw [← settled, Assignments.columns_run]
  have distinct : entries.columns.Nodup := by
    rw [← settled]
    exact Assignments.nodup_columns_run steps
  have succeeds := compile_insert_ok_iff conventional { table, assignments := entries }
  rw [run]
  refine ⟨rfl, columns, succeeds, fun compiled compiles some => ?_⟩
  have inside := succeeds.mp ⟨compiled, compiles⟩
  rw [compile_insert_eq_ok conventional some inside] at compiles
  cases compiles
  exact ⟨rfl, rfl, nodup_columnTexts conventional distinct inside⟩

/-- A table with assignments to columns that need quotes, one of them assigned twice, and NULL. -/
def reassignedRow (table : Name) : List (Name × Value) :=
  [(.qualified table "a", .int 1), (.qualified table "select", .null),
    (.qualified table "q`?", .bool true), (.qualified table "a", .text "x")]

/-- The column that is assigned twice stands first, with its last value. -/
theorem compile_insertion_reassignedRow :
    let table : Name := .identifier "t"
    mysql.compile (.insert (Insert.run { table } (reassignedRow table))) =
      .ok
        { sql := "INSERT INTO t (a, `select`, `q``?`) VALUES (?, NULL, ?)"
          arguments := [.text "x", .bool true] } := by
  intro table
  have known : mysql ∈ builtIn := by simp [builtIn]
  obtain ⟨-, -, succeeds, written⟩ := compile_insertion known table (reassignedRow table)
  obtain ⟨⟨sql, arguments⟩, compiles⟩ := succeeds.mpr (by decide +kernel)
  obtain ⟨text, values, -⟩ := written _ compiles (by decide +kernel)
  have expectedText : sql = "INSERT INTO t (a, `select`, `q``?`) VALUES (?, NULL, ?)" :=
    text.trans (by decide +kernel)
  have expectedValues : arguments = [.text "x", .bool true] := values.trans (by decide +kernel)
  rw [compiles, expectedText, expectedValues]

end Dialect

end SqlTree
