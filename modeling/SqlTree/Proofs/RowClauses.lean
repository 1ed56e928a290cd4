import SqlTree.Proofs.Account
import SqlTree.Proofs.Calls
import SqlTree.Proofs.Text

/-! # Rows that are picked

A selection of all columns of a table, a deletion and a change of rows can be restricted, ordered
and bounded by the same calls. These calls build the same clauses for all three
(`Query.run_withSource`, `Update.run_eq`), so that the texts differ only in what stands before the
clauses (`compile_pickedRows`).
-/

namespace SqlTree

/-! ## Calls that pick rows -/

namespace Query

/-- The query says which rows, but nothing else: no columns, source, groups or further rows. -/
structure OnlyPicks (query : Query) : Prop where
  selection : query.selection = []
  source : query.source = none
  joins : query.joins = []
  grouping : query.grouping = []
  having : query.having = []
  unions : query.unions = []

private theorem OnlyPicks.apply {query : Query} (picks : query.OnlyPicks) (step : RowStep) :
    (query.apply step.toQueryStep).OnlyPicks := by
  obtain ⟨selection, source, joins, grouping, having, unions⟩ := picks
  cases step <;> exact ⟨selection, source, joins, grouping, having, unions⟩

theorem OnlyPicks.run {query : Query} (picks : query.OnlyPicks) (steps : List RowStep) :
    (query.run (steps.map RowStep.toQueryStep)).OnlyPicks := by
  induction steps generalizing query with
  | nil => exact picks
  | cons step rest ih => exact ih (picks.apply step)

theorem onlyPicks_empty : ({} : Query).OnlyPicks :=
  ⟨rfl, rfl, rfl, rfl, rfl, rfl⟩

private theorem apply_withSource (query : Query) (element : Element) (step : RowStep) :
    (query.withSource element).apply step.toQueryStep =
      (query.apply step.toQueryStep).withSource element := by
  cases step <;> rfl

/-- Rows can be picked before or after it is said where they are from. -/
private theorem run_withSource (query : Query) (element : Element) (steps : List RowStep) :
    (query.withSource element).run (steps.map RowStep.toQueryStep) =
      (query.run (steps.map RowStep.toQueryStep)).withSource element := by
  induction steps generalizing query with
  | nil => rfl
  | cons step rest ih => rw [List.map_cons, run_cons, run_cons, apply_withSource, ih]

/-- A table as the source is written in front of the clauses that pick rows. -/
private theorem OnlyPicks.clauses_withSource {query : Query} (picks : query.OnlyPicks) (grammar : Grammar)
    (table : Name) :
    clauses grammar (query.withSource (.table table)) =
      (clauses grammar query).map ([.text " FROM ", .name table] ++ ·) := by
  have withSource : sourceClause grammar (query.withSource (.table table)) =
      .ok [.text " FROM ", .name table] := by
    simp only [sourceClause, Query.withSource, picks.joins]
    rfl
  have withoutSource : sourceClause grammar query = .ok [] := by
    rw [sourceClause, picks.source, picks.joins]
    rfl
  change _ = ([.text " FROM ", .name table] ++ ·) <$> clauses grammar query
  simp only [clauses, withSource, withoutSource, map_bind, map_pure]
  rfl

/-- All columns of a table, for the rows that are picked. -/
private theorem OnlyPicks.render_withSource {query : Query} (picks : query.OnlyPicks) (grammar : Grammar)
    (table : Name) :
    (query.withSource (.table table)).render grammar =
      (clauses grammar query).map
        ([.text "SELECT ", .text "*", .text " FROM ", .name table] ++ ·) := by
  have none : (query.withSource (.table table)).selection = [] := picks.selection
  rw [render_eq_selection_clauses, none, picks.clauses_withSource]
  cases clauses grammar query <;> rfl

end Query

def RowStep.limit? (step : RowStep) : Option (UInt64 × UInt64) :=
  step.toQueryStep.limit?

/-- The dialect can bound the rows that a statement changes as the last limit says. -/
def Grammar.Admits (grammar : Grammar) (steps : List RowStep) : Prop :=
  ∀ last ∈ (steps.filterMap RowStep.limit?).getLast?,
    grammar.rowLimit = true ∧ (last.2 ≠ 0 → grammar.rowOffset = true)

namespace Form

/-- Only row limits are checked. -/
private theorem checkRowLimits_eq_ok {grammar : Grammar} {statement : RowStatement} {rows : Query} :
    checkRowLimits grammar statement rows = .ok () ↔
      ∀ modifier ∈ rows.limits, checkRowLimit grammar statement modifier = .ok () := by
  rw [checkRowLimits, forM_eq_ok]
  constructor
  · exact fun checked modifier member => checked modifier (List.mem_filter.mp member).1
  · intro checked modifier member
    cases modifier with
    | limit count offset => exact checked _ (List.mem_filter.mpr ⟨member, rfl⟩)
    | extension node => rfl

/-- The last limit is the only one that is checked. -/
theorem checkRowLimits_run {grammar : Grammar} {steps : List RowStep}
    (admitted : grammar.Admits steps) (statement : RowStatement) :
    checkRowLimits grammar statement (({} : Query).run (steps.map RowStep.toQueryStep)) =
      .ok () := by
  refine checkRowLimits_eq_ok.mpr fun modifier member => ?_
  rw [Query.limits_run, List.filterMap_map] at member
  change modifier ∈ (steps.filterMap RowStep.limit?).getLast?.elim [] _ at member
  cases last : (steps.filterMap RowStep.limit?).getLast? with
  | none =>
    rw [last] at member
    cases member
  | some bounds =>
    obtain ⟨count, offset⟩ := bounds
    obtain ⟨bounded, skipping⟩ := admitted _ last
    rw [last] at member
    obtain rfl := List.mem_singleton.mp member
    have fits : ¬ (offset ≠ 0 ∧ (!grammar.rowOffset) = true) := by
      rintro ⟨skips, refused⟩
      simp [skipping skips] at refused
    simp only [checkRowLimit, bounded]
    rw [if_neg nofun, if_neg fits]

end Form

namespace Delete

theorem run_eq (delete : Delete) (steps : List RowStep) :
    delete.run steps =
      { delete with rows := delete.rows.run (steps.map RowStep.toQueryStep) } := by
  induction steps generalizing delete with
  | nil => rfl
  | cons step rest ih => exact ih _

end Delete

namespace Update

def Step.set? : Step → Option (Name × Expr)
  | .set column expr => some (column, expr)
  | .rows _ => none

def Step.row? : Step → Option RowStep
  | .set .. => none
  | .rows step => some step

/-- Assignments and calls that pick rows do not meet. -/
theorem run_eq (update : Update) (steps : List Step) :
    update.run steps =
      { update with
        assignments := update.assignments.run (steps.filterMap Step.set?)
        rows := update.rows.run ((steps.filterMap Step.row?).map RowStep.toQueryStep) } := by
  induction steps generalizing update with
  | nil => rfl
  | cons step rest ih => cases step <;> exact ih _

end Update

/-! ## Statements on picked rows -/

namespace Dialect

variable {dialect : Dialect}

def compileRows (dialect : Dialect) (steps : List RowStep) : Except CompileError Compiled :=
  dialect.appendRendering ⟨"", []⟩
    (Query.clauses dialect.grammar (({} : Query).run (steps.map RowStep.toQueryStep)))

/-- What stands before a rendering stands before its text. -/
private theorem appendRendering_map {mark : String} (marked : dialect.spelling.values = .mark mark)
    (before : Fragment) (rendering : Rendering) :
    dialect.appendRendering ⟨"", []⟩ (rendering.map (before ++ ·)) =
      (dialect.appendRendering ⟨"", []⟩ rendering).map fun after =>
        ⟨dialect.text before ++ after.sql, dialect.argumentsOf before ++ after.arguments⟩ := by
  rw [appendRendering_empty, appendRendering_empty]
  cases rendering with
  | error refusal => rfl
  | ok fragment =>
    simp only [refuse, Except.map, Except.mapError, text_append marked, argumentsOf_append]

/-- Assignments whose expressions compile are written one after the other. -/
private theorem mapM_renderAssignment {mark : String} (marked : dialect.spelling.values = .mark mark)
    {table : Name} {entries : Assignments Expr} {written : Expr → Compiled}
    (inside : ∀ column ∈ entries.columns, column.parent? = some table)
    (compiles : ∀ entry ∈ entries, dialect.compileExpr entry.2 = .ok (written entry.2)) :
    ∃ fragments, entries.mapM (Update.renderAssignment dialect.grammar table) = .ok fragments ∧
      fragments.map dialect.text = entries.map (fun entry =>
        dialect.spelling.identifier entry.1.id ++ " = " ++ (written entry.2).sql) ∧
      fragments.flatMap dialect.argumentsOf =
        entries.flatMap fun entry => (written entry.2).arguments := by
  induction entries with
  | nil => exact ⟨[], rfl, rfl, rfl⟩
  | cons entry rest ih =>
    obtain ⟨own, others⟩ := List.forall_mem_cons.mp inside
    obtain ⟨first, later⟩ := List.forall_mem_cons.mp compiles
    obtain ⟨fragments, rendered, texts, arguments⟩ := ih others later
    rw [compileExpr, appendRendering_empty] at first
    cases expr : entry.2.render dialect.grammar .inner with
    | error refusal =>
      rw [expr] at first
      cases first
    | ok fragment =>
      rw [expr] at first
      have single : (⟨dialect.text fragment, dialect.argumentsOf fragment⟩ : Compiled) =
          written entry.2 := Except.ok.inj first
      refine ⟨(.name (.identifier entry.1.id) :: .text " = " :: fragment) :: fragments, ?_, ?_, ?_⟩
      · rw [List.mapM_cons, rendered, Update.renderAssignment, expr, Form.assignedColumn,
          if_pos own]
        rfl
      · rw [List.map_cons, List.map_cons, texts, ← single, text_cons marked, text_cons marked]
        simp only [pieceText, Spelling.name, String.append_assoc]
      · rw [List.flatMap_cons, List.flatMap_cons, arguments, ← single]
        rfl

/-- A statement that is a fragment before the clauses is compiled to the text and the arguments of
the fragment before those of the clauses. -/
theorem compile_before_rows {mark : String} (marked : dialect.spelling.values = .mark mark)
    {statement : Statement} {before : Fragment} {steps : List RowStep}
    (rendered : statement.render dialect.grammar =
      (Query.clauses dialect.grammar (({} : Query).run (steps.map RowStep.toQueryStep))).map
        (before ++ ·)) :
    dialect.compile statement =
      (dialect.compileRows steps).map fun rows =>
        ⟨dialect.text before ++ rows.sql, dialect.argumentsOf before ++ rows.arguments⟩ := by
  rw [compile, rendered, appendRendering_map marked, compileRows]

/-- A selection of all columns is written before the clauses that pick its rows. -/
theorem compile_picked_query (conventional : dialect.Conventional) (table : Name)
    (steps : List RowStep) :
    dialect.compile
        (.query ((Query.ofElement (.table table)).run (steps.map RowStep.toQueryStep))) =
      (dialect.compileRows steps).map fun rows =>
        ⟨"SELECT * FROM " ++ dialect.spelling.name table ++ rows.sql, rows.arguments⟩ := by
  have marked := conventional.values
  have picks := Query.onlyPicks_empty.run steps
  have source : (Query.ofElement (.table table)).run (steps.map RowStep.toQueryStep) =
      (({} : Query).run (steps.map RowStep.toQueryStep)).withSource (.table table) :=
    Query.run_withSource {} _ steps
  have rendered : (Statement.query
      ((Query.ofElement (.table table)).run (steps.map RowStep.toQueryStep))).render
        dialect.grammar =
      (Query.clauses dialect.grammar (({} : Query).run (steps.map RowStep.toQueryStep))).map
        ([.text "SELECT ", .text "*", .text " FROM ", .name table] ++ ·) := by
    rw [source, Statement.render, picks.render_withSource]
  have words : "SELECT " ++ "*" ++ " FROM " = "SELECT * FROM " := by decide +kernel
  have before : dialect.text [.text "SELECT ", .text "*", .text " FROM ", .name table] =
      "SELECT * FROM " ++ dialect.spelling.name table := by
    rw [text_cons marked, text_cons marked, text_cons marked, text_singleton, ← words]
    simp only [pieceText, String.append_assoc]
  rw [compile_before_rows marked rendered, before]
  rfl

/-- A deletion is written before the clauses that pick its rows. -/
theorem compile_picked_delete (conventional : dialect.Conventional) (table : Name)
    {steps : List RowStep} (admitted : dialect.grammar.Admits steps) :
    dialect.compile (.delete (Delete.run { table } steps)) =
      (dialect.compileRows steps).map fun rows =>
        ⟨"DELETE FROM " ++ dialect.spelling.name table ++ rows.sql, rows.arguments⟩ := by
  have marked := conventional.values
  have rendered : (Statement.delete (Delete.run { table } steps)).render dialect.grammar =
      (Query.clauses dialect.grammar (({} : Query).run (steps.map RowStep.toQueryStep))).map
        ([.text "DELETE FROM ", .name table] ++ ·) := by
    rw [Delete.run_eq, Statement.render, Delete.render, Form.checkRowLimits_run admitted]
    cases Query.clauses dialect.grammar (({} : Query).run (steps.map RowStep.toQueryStep)) <;> rfl
  have before : dialect.text [.text "DELETE FROM ", .name table] =
      "DELETE FROM " ++ dialect.spelling.name table := by
    rw [text_cons marked, text_singleton]
    rfl
  rw [compile_before_rows marked rendered, before]
  rfl

/-- Assignments are written before the clauses that pick the rows to change. -/
theorem compile_picked_update (conventional : dialect.Conventional) (table : Name)
    {changes : List Update.Step}
    (admitted : dialect.grammar.Admits (changes.filterMap Update.Step.row?))
    {entries : Assignments Expr}
    (settled : entries = Assignments.settled (changes.filterMap Update.Step.set?))
    (some : entries ≠ []) (inside : ∀ column ∈ entries.columns, column.parent? = .some table)
    {written : Expr → Compiled}
    (compiles : ∀ entry ∈ entries, dialect.compileExpr entry.2 = .ok (written entry.2)) :
    dialect.compile (.update (Update.run { table } changes)) =
      (dialect.compileRows (changes.filterMap Update.Step.row?)).map fun rows =>
        ⟨"UPDATE " ++ dialect.spelling.name table ++ " SET " ++
            ", ".intercalate (entries.map fun entry =>
              dialect.spelling.identifier entry.1.id ++ " = " ++ (written entry.2).sql) ++
            rows.sql,
          (entries.flatMap fun entry => (written entry.2).arguments) ++ rows.arguments⟩ := by
  have marked := conventional.values
  obtain ⟨fragments, assigned, texts, arguments⟩ :=
    mapM_renderAssignment marked inside compiles
  have filled : entries.isEmpty = false := by simpa using some
  rw [settled, ← Assignments.run_eq_settled] at assigned filled
  have rendered : (Statement.update (Update.run { table } changes)).render dialect.grammar =
      (Query.clauses dialect.grammar (({} : Query).run
        ((changes.filterMap Update.Step.row?).map RowStep.toQueryStep))).map
        ([.text "UPDATE ", .name table, .text " SET "] ++ Fragment.separated ", " fragments ++ ·) := by
    rw [Update.run_eq, Statement.render, Update.render]
    simp only [filled, assigned, Form.checkRowLimits_run admitted]
    cases Query.clauses dialect.grammar (({} : Query).run
      ((changes.filterMap Update.Step.row?).map RowStep.toQueryStep)) <;> rfl
  have before : dialect.text [.text "UPDATE ", .name table, .text " SET "] =
      "UPDATE " ++ dialect.spelling.name table ++ " SET " := by
    rw [text_cons marked, text_cons marked, text_singleton]
    simp only [pieceText, String.append_assoc]
  rw [compile_before_rows marked rendered, text_append marked, text_separated marked, texts,
    before, argumentsOf_append, argumentsOf_separated, arguments]
  rfl

/-- The same calls pick the rows of a selection, a deletion and a change. If the dialect can bound
changed rows as the last limit says, the texts and the arguments of all three end in those of the
same clauses, and all three fail where these fail. A change has its assignments before them: each
column once, in the order of first assignments, with its last expression. -/
theorem compile_pickedRows (known : dialect ∈ builtIn) (table : Name) (steps : List RowStep)
    (admitted : dialect.grammar.Admits steps) :
    ∃ tail : Except CompileError Compiled,
      dialect.compile
          (.query ((Query.ofElement (.table table)).run (steps.map RowStep.toQueryStep))) =
        tail.map (fun rows =>
          ⟨"SELECT * FROM " ++ dialect.spelling.name table ++ rows.sql, rows.arguments⟩) ∧
      dialect.compile (.delete (Delete.run { table } steps)) =
        tail.map (fun rows =>
          ⟨"DELETE FROM " ++ dialect.spelling.name table ++ rows.sql, rows.arguments⟩) ∧
      ∀ (changes : List Update.Step) (written : Expr → Compiled),
        changes.filterMap Update.Step.row? = steps →
        let entries := Assignments.settled (changes.filterMap Update.Step.set?)
        entries ≠ [] → (∀ column ∈ entries.columns, column.parent? = some table) →
        (∀ entry ∈ entries, dialect.compileExpr entry.2 = .ok (written entry.2)) →
        dialect.compile (.update (Update.run { table } changes)) =
          tail.map fun rows =>
            ⟨"UPDATE " ++ dialect.spelling.name table ++ " SET " ++
                ", ".intercalate (entries.map fun entry =>
                  dialect.spelling.identifier entry.1.id ++ " = " ++ (written entry.2).sql) ++
                rows.sql,
              (entries.flatMap fun entry => (written entry.2).arguments) ++ rows.arguments⟩ := by
  have conventional := conventional_of_builtIn known
  refine ⟨dialect.compileRows steps, compile_picked_query conventional table steps,
    compile_picked_delete conventional table admitted, ?_⟩
  rintro changes written rfl entries some inside compiles
  exact compile_picked_update conventional table admitted rfl some inside compiles

/-- Calls with an earlier limit that skips rows. -/
def lastRow (table : Name) : List RowStep :=
  [.filter (.binary .eq (.named (.qualified table "a")) (.literal (.int 1))), .limit 9 3,
    .orderBy (.named (.qualified table "b")) true, .limit 1 0]

/-- The calls among assignments, one of which replaces another. -/
def changedRow (table : Name) : List Update.Step :=
  .set (.qualified table "a") (.named (.qualified table "b")) ::
    .set (.qualified table "c") (.literal .null) :: (lastRow table).map .rows ++
      [.set (.qualified table "a") (.literal (.int 7))]

theorem compile_pickedRows_lastRow :
    let table : Name := .identifier "t"
    ∃ tail : Compiled,
      mysql.compile
          (.query ((Query.ofElement (.table table)).run ((lastRow table).map RowStep.toQueryStep))) =
        .ok ⟨"SELECT * FROM t" ++ tail.sql, tail.arguments⟩ ∧
      mysql.compile (.delete (Delete.run { table } (lastRow table))) =
        .ok ⟨"DELETE FROM t" ++ tail.sql, tail.arguments⟩ ∧
      mysql.compile (.update (Update.run { table } (changedRow table))) =
        .ok ⟨"UPDATE t SET a = ?, c = NULL" ++ tail.sql, .int 7 :: tail.arguments⟩ ∧
      mysql.compile
          (.query ((Query.ofElement (.table table)).run ((lastRow table).map RowStep.toQueryStep))) =
        .ok ⟨"SELECT * FROM t WHERE t.a = ? ORDER BY ISNULL(t.b), t.b DESC LIMIT ?",
          [.int 1, .int 1]⟩ := by
  intro table
  have known : mysql ∈ builtIn := by simp [builtIn]
  have admitted : mysql.grammar.Admits (lastRow table) := by
    rintro last ⟨⟩
    exact ⟨rfl, fun skips => absurd rfl skips⟩
  have written : mysql.compile
      (.query ((Query.ofElement (.table table)).run ((lastRow table).map RowStep.toQueryStep))) =
        .ok ⟨"SELECT * FROM t WHERE t.a = ? ORDER BY ISNULL(t.b), t.b DESC LIMIT ?",
          [.int 1, .int 1]⟩ := by
    decide +kernel
  have entries : Assignments.settled ((changedRow table).filterMap Update.Step.set?) =
    [(.qualified table "a", .literal (.int 7)), (.qualified table "c", .literal .null)] := rfl
  have compiles : ∀ entry ∈ Assignments.settled ((changedRow table).filterMap Update.Step.set?),
      mysql.compileExpr entry.2 =
        .ok (if entry.2.isNullLiteral then ⟨"NULL", []⟩ else ⟨"?", [.int 7]⟩) := by
    rw [entries]
    simp only [List.forall_mem_cons]
    exact ⟨by decide +kernel, by decide +kernel, nofun⟩
  have inside : ∀ column ∈
      (Assignments.settled ((changedRow table).filterMap Update.Step.set?)).columns,
        column.parent? = some table := by
    rw [entries]
    decide
  obtain ⟨tail, selected, deleted, changed⟩ :=
    compile_pickedRows known table (lastRow table) admitted
  have update := changed (changedRow table)
    (fun expr => if expr.isNullLiteral then ⟨"NULL", []⟩ else ⟨"?", [.int 7]⟩) rfl nofun inside
    compiles
  rw [entries] at update
  cases tail with
  | error refused =>
    rw [written] at selected
    cases selected
  | ok rows =>
    have before (arguments : List Value) {first second : String} (same : first = second) :
        (.ok ⟨first ++ rows.sql, arguments⟩ : Except CompileError Compiled) =
          .ok ⟨second ++ rows.sql, arguments⟩ := by
      rw [same]
    refine ⟨rows, selected.trans (before _ ?_), deleted.trans (before _ ?_),
      update.trans (before (.int 7 :: rows.arguments) ?_), written⟩
    all_goals decide +kernel

end Dialect

end SqlTree
