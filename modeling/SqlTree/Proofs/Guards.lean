import SqlTree.Proofs.RowClauses

/-! # Guards of statements that change rows

A change or a deletion is refused if the dialect cannot bound its rows as it says, and a change
also if it assigns nothing or assigns to a column of another table. Calls can set a limit or assign
to a column many times; the guards look at what is left after the last call, and no statement
passes them otherwise (`compile_guarded`). The calls only pick rows, so what they build has no
source and no joins of its own, and a join without a source can only stand in a sub-query.
-/

namespace SqlTree

/-- Changed rows can be bounded as the modifiers of the query that picks them say. -/
structure Grammar.AdmitsRows (grammar : Grammar) (rows : Query) : Prop where
  unlimited (refused : grammar.rowLimit = false) (count offset : UInt64) :
    .limit count offset ∉ rows.modifiers
  unskipped (refused : grammar.rowOffset = false) (count offset : UInt64)
    (limited : .limit count offset ∈ rows.modifiers) : offset = 0

/-- What a statement is refused for whose rows cannot be bounded as it says. A dialect without row
limits does not look at the offset. -/
def Grammar.rowRefusal (grammar : Grammar) (statement : RowStatement) : Refusal :=
  .unsupported (if grammar.rowLimit then .rowOffset statement else .rowLimit statement)

/-- The refusals that a statement that changes rows has for itself and not for an expression. -/
inductive RowStatement.Refuses : RowStatement → Refusal → Prop where
  | emptyUpdate : Refuses .update (.unsupported .emptyUpdate)
  | foreignAssignment (column table : Name) :
      Refuses .update (.unsupported (.foreignAssignment column table))
  | rowLimit (statement : RowStatement) : Refuses statement (.unsupported (.rowLimit statement))
  | rowOffset (statement : RowStatement) : Refuses statement (.unsupported (.rowOffset statement))
  | rowCount (statement : RowStatement) (large : UInt64) :
      Refuses statement (.unsupported (.rowCount large))

private theorem RowStatement.refuses_rowRefusal (grammar : Grammar) (statement : RowStatement) :
    statement.Refuses (grammar.rowRefusal statement) := by
  unfold Grammar.rowRefusal
  split
  · exact .rowOffset statement
  · exact .rowLimit statement

/-- The change assigns something, each column once and all of them columns of its table, and its
rows can be bounded as it says. -/
structure Update.Guarded (grammar : Grammar) (update : Update) : Prop where
  assigns : update.assignments ≠ []
  distinct : update.assignments.columns.Nodup
  inside : ∀ column ∈ update.assignments.columns, column.parent? = some update.table
  rows : grammar.AdmitsRows update.rows

namespace Form

variable {grammar : Grammar}

/-- A limit is refused for what the grammar has no form for. -/
theorem checkRowLimit_eq_error {statement : RowStatement} {modifier : Modifier} {refusal : Refusal}
    (refused : checkRowLimit grammar statement modifier = .error refusal) :
    refusal = grammar.rowRefusal statement := by
  unfold checkRowLimit at refused
  split at refused
  · split at refused
    · rename_i unlimited
      cases refused
      simp_all [Grammar.rowRefusal]
    · split at refused
      · cases refused
        simp_all [Grammar.rowRefusal]
      · cases refused
  · cases refused

/-- The limits pass the checks exactly if the grammar has forms for all of them. -/
theorem checkRowLimits_eq_ok_iff_admitsRows {statement : RowStatement} {rows : Query} :
    checkRowLimits grammar statement rows = .ok () ↔ grammar.AdmitsRows rows := by
  rw [checkRowLimits, forM_eq_ok]
  constructor
  · intro checked
    constructor
    · intro refused count offset limited
      have passed := checked _ limited
      simp [checkRowLimit, refused, Refusal.of] at passed
    · intro refused count offset limited
      have passed := checked _ limited
      by_contra skips
      cases bounded : grammar.rowLimit <;>
        simp [checkRowLimit, bounded, refused, skips, Refusal.of] at passed
  · intro admitted modifier member
    cases modifier with
    | extension node => rfl
    | limit count offset =>
      have limits : ¬ (!grammar.rowLimit) = true := by
        intro refused
        exact admitted.unlimited (by simpa using refused) count offset member
      have offsets : ¬ (offset ≠ 0 ∧ (!grammar.rowOffset) = true) := by
        rintro ⟨skips, refused⟩
        exact skips (admitted.unskipped (by simpa using refused) count offset member)
      rw [checkRowLimit, if_neg limits, if_neg offsets]

private theorem checkRowLimits_eq_error {statement : RowStatement} {rows : Query}
    (violated : ¬ grammar.AdmitsRows rows) :
    checkRowLimits grammar statement rows = .error (grammar.rowRefusal statement) := by
  cases checked : checkRowLimits grammar statement rows with
  | ok => exact absurd (checkRowLimits_eq_ok_iff_admitsRows.mp checked) violated
  | error refusal =>
    obtain ⟨modifier, -, refused⟩ := exists_of_forM_eq_error checked
    rw [checkRowLimit_eq_error refused]

/-- Limits that do not pass the checks are refused for the statement itself. -/
theorem refuses_of_checkRowLimits {statement : RowStatement} {rows : Query} {refusal : Refusal}
    (refused : checkRowLimits grammar statement rows = .error refusal) :
    statement.Refuses refusal := by
  obtain ⟨modifier, -, limited⟩ := exists_of_forM_eq_error refused
  rw [checkRowLimit_eq_error limited]
  exact RowStatement.refuses_rowRefusal grammar statement

private theorem exists_assignedColumn_eq_ok {table column : Name} :
    (∃ fragment, assignedColumn table column = .ok fragment) ↔ column.parent? = some table := by
  unfold assignedColumn
  split
  · exact ⟨fun _ => ‹_›, fun _ => ⟨_, rfl⟩⟩
  · exact ⟨nofun, fun inside => absurd inside ‹_›⟩

end Form

/-! ## Clauses that pick rows -/

/-- Where expressions are refused, one of them is. -/
private theorem Expr.exists_of_renderAll_eq_error {grammar : Grammar} {position : Position}
    {exprs : List Expr} {refusal : Refusal}
    (refused : Expr.renderAll grammar position exprs = .error refusal) :
    ∃ expr ∈ exprs, expr.render grammar position = .error refusal := by
  rw [Expr.renderAll_eq_mapM] at refused
  exact exists_of_mapM_eq_error refused

/-- Where sort keys are refused, the expression of one of them is. -/
private theorem Order.exists_of_renderAll_eq_error {grammar : Grammar} {style : NullOrder}
    {order : List Order} {refusal : Refusal}
    (refused : Order.renderAll grammar style order = .error refusal) :
    ∃ key ∈ order, key.expr.render grammar .inner = .error refusal := by
  rw [Order.renderAll_eq_mapM] at refused
  obtain ⟨key, member, given⟩ := exists_of_mapM_eq_error refused
  rcases bind_eq_error.mp given with own | ⟨_, _, last⟩
  · exact ⟨key, member, own⟩
  · cases last

/-- A limit is refused for a row count. -/
private theorem Form.limit_eq_error {count offset : UInt64} {refusal : Refusal}
    (refused : Form.limit count offset = .error refusal) :
    ∃ large, refusal = .unsupported (.rowCount large) := by
  have counted {number : UInt64} (beyond : Form.rowCount number = .error refusal) :
      ∃ large, refusal = .unsupported (.rowCount large) := by
    unfold Form.rowCount at beyond
    split at beyond
    · cases beyond
    · cases beyond
      exact ⟨number, rfl⟩
  rcases bind_eq_error.mp refused with first | ⟨_, _, second⟩
  · exact counted first
  · split at second
    · cases second
    · rcases bind_eq_error.mp second with skipped | ⟨_, _, last⟩
      · exact counted skipped
      · cases last

/-- Row limits are refused for a row count. -/
private theorem Modifier.renderAll_eq_error {grammar : Grammar} {modifiers : List Modifier}
    (limits : ∀ modifier ∈ modifiers, modifier.isLimit = true) {refusal : Refusal}
    (refused : Modifier.renderAll grammar modifiers = .error refusal) :
    ∃ large, refusal = .unsupported (.rowCount large) := by
  induction modifiers with
  | nil => cases refused
  | cons modifier rest ih =>
    obtain ⟨first, others⟩ := List.forall_mem_cons.mp limits
    cases modifier with
    | extension node => cases first
    | limit count offset =>
      rcases bind_eq_error.mp refused with own | ⟨_, _, after⟩
      · exact Form.limit_eq_error own
      · rcases bind_eq_error.mp after with later | ⟨_, _, last⟩
        · exact ih others later
        · cases last

namespace Query

variable {query : Query}

def pickedBy (query : Query) : List Expr :=
  query.filter ++ query.order.map Order.expr

/-- Of a query that only picks rows, three clauses are written. -/
private theorem OnlyPicks.clauses_eq (picks : query.OnlyPicks) (grammar : Grammar) :
    query.clauses grammar = do
      return (← query.filterClause grammar) ++ (← query.orderClause grammar) ++
        (← query.modifierClauses grammar) := by
  have source : query.sourceClause grammar = .ok [] := by
    rw [sourceClause, picks.source, picks.joins]
    rfl
  have grouping : query.groupingClause grammar = .ok [] := by
    rw [groupingClause, picks.grouping]
    rfl
  have having : query.havingClause grammar = .ok [] := by
    rw [havingClause, picks.having]
    rfl
  have unions : query.unionClauses grammar = .ok [] := by
    rw [unionClauses, picks.unions]
    rfl
  rw [clauses, source, grouping, having, unions]
  cases query.filterClause grammar with
  | error refusal => rfl
  | ok filters =>
    cases query.orderClause grammar with
    | error refusal => rfl
    | ok keys =>
      cases query.modifierClauses grammar with
      | error refusal => rfl
      | ok modifiers =>
        change Except.ok _ = Except.ok _
        simp

/-- The calls that pick rows set no vendor clauses. -/
private theorem isLimit_of_mem_modifiers_run {steps : List RowStep} {modifier : Modifier}
    (member : modifier ∈ (({} : Query).run (steps.map RowStep.toQueryStep)).modifiers) :
    modifier.isLimit = true := by
  by_contra vendor
  have kept : modifier ∈ (({} : Query).run (steps.map RowStep.toQueryStep)).vendorClauses :=
    List.mem_filter.mpr ⟨member, by simpa using vendor⟩
  rw [vendorClauses_run, List.flatMap_map] at kept
  obtain ⟨step, -, added⟩ := List.mem_flatMap.mp kept
  cases step <;> cases added

/-- Clauses that pick rows are refused for one of their expressions or for a row count. -/
theorem clauses_eq_error {grammar : Grammar} {steps : List RowStep}
    (picked : query = ({} : Query).run (steps.map RowStep.toQueryStep)) (statement : RowStatement)
    {refusal : Refusal} (refused : query.clauses grammar = .error refusal) :
    (∃ expr ∈ query.pickedBy, expr.render grammar .inner = .error refusal) ∨
      statement.Refuses refusal := by
  subst picked
  rw [(onlyPicks_empty.run steps).clauses_eq] at refused
  rcases bind_eq_error.mp refused with filters | ⟨_, _, after⟩
  · rcases bind_eq_error.mp filters with given | ⟨_, _, last⟩
    · obtain ⟨expr, member, own⟩ := Expr.exists_of_renderAll_eq_error given
      exact .inl ⟨expr, List.mem_append_left _ member, own⟩
    · cases last
  · rcases bind_eq_error.mp after with order | ⟨_, _, rest⟩
    · rcases bind_eq_error.mp order with given | ⟨_, _, last⟩
      · obtain ⟨key, member, own⟩ := Order.exists_of_renderAll_eq_error given
        exact .inl ⟨key.expr, List.mem_append_right _ (List.mem_map_of_mem member), own⟩
      · cases last
    · rcases bind_eq_error.mp rest with modifiers | ⟨_, _, last⟩
      · obtain ⟨large, rfl⟩ :=
          Modifier.renderAll_eq_error (fun _ => isLimit_of_mem_modifiers_run) modifiers
        exact .inr (.rowCount statement large)
      · cases last

end Query

/-! ## Statements that change rows -/

namespace Update

variable {grammar : Grammar} {update : Update}

/-- The expressions of the change: what it assigns, and what it picks rows by. -/
def exprs (update : Update) : List Expr :=
  update.assignments.map Prod.snd ++ update.rows.pickedBy

private theorem exists_renderAssignment_eq_ok {table : Name} {entry : Name × Expr} :
    (∃ fragment, renderAssignment grammar table entry = .ok fragment) ↔
      entry.1.parent? = some table ∧ ∃ fragment, entry.2.render grammar .inner = .ok fragment := by
  rw [← Form.exists_assignedColumn_eq_ok]
  constructor
  · rintro ⟨fragment, given⟩
    obtain ⟨column, assigned, after⟩ := bind_eq_ok.mp given
    obtain ⟨value, rendered, -⟩ := bind_eq_ok.mp after
    exact ⟨⟨column, assigned⟩, value, rendered⟩
  · rintro ⟨⟨column, assigned⟩, value, rendered⟩
    exact ⟨_, by rw [renderAssignment, assigned, rendered]; rfl⟩

/-- A change is written exactly if it passes the guards and all its parts are written. -/
theorem exists_render_eq_ok (distinct : update.assignments.columns.Nodup) :
    (∃ fragment, update.render grammar = .ok fragment) ↔
      update.Guarded grammar ∧
        (∀ entry ∈ update.assignments,
          ∃ fragment, entry.2.render grammar .inner = .ok fragment) ∧
        ∃ fragment, update.rows.clauses grammar = .ok fragment := by
  constructor
  · rintro ⟨fragment, given⟩
    rw [render] at given
    split at given
    · cases given
    · rename_i some
      obtain ⟨⟨⟩, checked, afterCheck⟩ := bind_eq_ok.mp given
      obtain ⟨fragments, assigned, afterSet⟩ := bind_eq_ok.mp afterCheck
      obtain ⟨rest, clauses, -⟩ := bind_eq_ok.mp afterSet
      have each := exists_mapM_eq_ok.mp ⟨fragments, assigned⟩
      refine ⟨⟨by simpa using some, distinct, ?_, ?_⟩, ?_, rest, clauses⟩
      · intro column member
        obtain ⟨entry, inEntries, rfl⟩ := List.mem_map.mp member
        exact (exists_renderAssignment_eq_ok.mp (each entry inEntries)).1
      · exact Form.checkRowLimits_eq_ok_iff_admitsRows.mp checked
      · intro entry member
        exact (exists_renderAssignment_eq_ok.mp (each entry member)).2
  · rintro ⟨guarded, exprs, rest, clauses⟩
    have checked : Form.checkRowLimits grammar .update update.rows = .ok () :=
      Form.checkRowLimits_eq_ok_iff_admitsRows.mpr guarded.rows
    have each : ∀ entry ∈ update.assignments,
        ∃ fragment, renderAssignment grammar update.table entry = .ok fragment := by
      intro entry member
      apply exists_renderAssignment_eq_ok.mpr
      exact ⟨guarded.inside entry.1 (List.mem_map_of_mem member), exprs entry member⟩
    obtain ⟨fragments, assigned⟩ := exists_mapM_eq_ok.mpr each
    have filled : update.assignments.isEmpty = false := by simpa using guarded.assigns
    exact ⟨_, by rw [render, filled, checked, assigned, clauses]; rfl⟩

/-- A change that assigns something is refused for its rows before its assignments are looked
at. -/
private theorem render_eq_rowRefusal (some : update.assignments ≠ [])
    (violated : ¬ grammar.AdmitsRows update.rows) :
    update.render grammar = .error (grammar.rowRefusal .update) := by
  have filled : update.assignments.isEmpty = false := by simpa using some
  rw [render, filled, Form.checkRowLimits_eq_error violated]
  rfl

/-- A change is refused for one of its expressions or for itself. -/
private theorem render_eq_error {steps : List RowStep}
    (picked : update.rows = ({} : Query).run (steps.map RowStep.toQueryStep)) {refusal : Refusal}
    (refused : update.render grammar = .error refusal) :
    (∃ expr ∈ update.exprs, expr.render grammar .inner = .error refusal) ∨
      RowStatement.Refuses .update refusal := by
  rw [render] at refused
  split at refused
  · cases refused
    exact .inr .emptyUpdate
  · rcases bind_eq_error.mp refused with checked | ⟨_, _, afterCheck⟩
    · exact .inr (Form.refuses_of_checkRowLimits checked)
    · rcases bind_eq_error.mp afterCheck with assigned | ⟨_, _, afterSet⟩
      · obtain ⟨entry, member, given⟩ := exists_of_mapM_eq_error assigned
        rcases bind_eq_error.mp given with column | ⟨_, _, afterColumn⟩
        · unfold Form.assignedColumn at column
          split at column
          · cases column
          · cases column
            exact .inr (.foreignAssignment _ _)
        · rcases bind_eq_error.mp afterColumn with own | ⟨_, _, last⟩
          · exact .inl ⟨entry.2, List.mem_append_left _ (List.mem_map_of_mem member), own⟩
          · cases last
      · rcases bind_eq_error.mp afterSet with clauses | ⟨_, _, last⟩
        · rcases Query.clauses_eq_error picked .update clauses with ⟨expr, member, own⟩ | refuses
          · exact .inl ⟨expr, List.mem_append_right _ member, own⟩
          · exact .inr refuses
        · cases last

end Update

namespace Delete

variable {grammar : Grammar} {delete : Delete}

/-- A deletion is written exactly if its rows can be bounded as it says and its clauses are
written. -/
theorem exists_render_eq_ok :
    (∃ fragment, delete.render grammar = .ok fragment) ↔
      grammar.AdmitsRows delete.rows ∧ ∃ fragment, delete.rows.clauses grammar = .ok fragment := by
  rw [← Form.checkRowLimits_eq_ok_iff_admitsRows]
  constructor
  · rintro ⟨fragment, given⟩
    obtain ⟨⟨⟩, checked, afterCheck⟩ := bind_eq_ok.mp given
    obtain ⟨rest, clauses, -⟩ := bind_eq_ok.mp afterCheck
    exact ⟨checked, rest, clauses⟩
  · rintro ⟨checked, rest, clauses⟩
    exact ⟨_, by rw [render, checked, clauses]; rfl⟩

private theorem render_eq_rowRefusal (violated : ¬ grammar.AdmitsRows delete.rows) :
    delete.render grammar = .error (grammar.rowRefusal .delete) := by
  rw [render, Form.checkRowLimits_eq_error violated]
  rfl

/-- A deletion is refused for one of the expressions that it picks rows by, or for itself. -/
private theorem render_eq_error {steps : List RowStep}
    (picked : delete.rows = ({} : Query).run (steps.map RowStep.toQueryStep)) {refusal : Refusal}
    (refused : delete.render grammar = .error refusal) :
    (∃ expr ∈ delete.rows.pickedBy, expr.render grammar .inner = .error refusal) ∨
      RowStatement.Refuses .delete refusal := by
  rcases bind_eq_error.mp refused with checked | ⟨_, _, afterCheck⟩
  · exact .inr (Form.refuses_of_checkRowLimits checked)
  · rcases bind_eq_error.mp afterCheck with clauses | ⟨_, _, last⟩
    · exact Query.clauses_eq_error picked .delete clauses
    · cases last

end Delete

namespace Dialect

variable {dialect : Dialect}

/-- Whatever calls build a change or a deletion, in every dialect: they only pick rows, so that no
clause of the statement itself is a join without a source; the statement compiles exactly if it
passes the guards and its parts compile; and it fails where it does not pass them, a change without
assignments before anything else and bounds on rows before all assignments. -/
theorem compile_guarded (dialect : Dialect) (table : Name) :
    (∀ steps : List Update.Step,
      let update := Update.run { table } steps
      update.rows.OnlyPicks ∧
        ((∃ compiled, dialect.compile (.update update) = .ok compiled) ↔
          update.Guarded dialect.grammar ∧
            (∀ entry ∈ update.assignments, ∃ compiled, dialect.compileExpr entry.2 = .ok compiled) ∧
            ∃ compiled, dialect.compileRows (steps.filterMap Update.Step.row?) = .ok compiled) ∧
        (¬ update.Guarded dialect.grammar →
          ∃ refusal, dialect.compile (.update update) = .error ⟨dialect.name, refusal⟩) ∧
        (update.assignments = [] →
          dialect.compile (.update update) = .error ⟨dialect.name, .unsupported .emptyUpdate⟩) ∧
        (update.assignments ≠ [] → ¬ dialect.grammar.AdmitsRows update.rows →
          dialect.compile (.update update) =
            .error ⟨dialect.name, dialect.grammar.rowRefusal .update⟩) ∧
        (dialect.compile (.update update) =
            .error ⟨dialect.name, .unsupported .joinWithoutSource⟩ →
          ∃ expr ∈ update.exprs,
            dialect.compileExpr expr = .error ⟨dialect.name, .unsupported .joinWithoutSource⟩)) ∧
      ∀ steps : List RowStep,
        let deletion := Delete.run { table } steps
        deletion.rows.OnlyPicks ∧
          ((∃ compiled, dialect.compile (.delete deletion) = .ok compiled) ↔
            dialect.grammar.AdmitsRows deletion.rows ∧
              ∃ compiled, dialect.compileRows steps = .ok compiled) ∧
          (¬ dialect.grammar.AdmitsRows deletion.rows →
            dialect.compile (.delete deletion) =
              .error ⟨dialect.name, dialect.grammar.rowRefusal .delete⟩) ∧
          (dialect.compile (.delete deletion) =
              .error ⟨dialect.name, .unsupported .joinWithoutSource⟩ →
            ∃ expr ∈ deletion.rows.pickedBy,
              dialect.compileExpr expr =
                .error ⟨dialect.name, .unsupported .joinWithoutSource⟩) := by
  constructor
  · intro steps update
    have run : update = _ := Update.run_eq { table } steps
    have picked : update.rows =
        ({} : Query).run ((steps.filterMap Update.Step.row?).map RowStep.toQueryStep) := by
      rw [run]
    have distinct : update.assignments.columns.Nodup := by
      rw [run]
      exact Assignments.nodup_columns_run _
    have succeeds : (∃ fragment, update.render dialect.grammar = .ok fragment) ↔ _ :=
      Update.exists_render_eq_ok distinct
    refine ⟨?_, ?_, ?_, ?_, ?_, ?_⟩
    · rw [picked]
      exact Query.onlyPicks_empty.run _
    · rw [compile, exists_appendRendering_eq_ok]
      simp only [compileExpr, compileRows, exists_appendRendering_eq_ok, ← picked]
      exact succeeds
    · intro violated
      cases rendered : update.render dialect.grammar with
      | ok fragment => exact absurd (succeeds.mp ⟨fragment, rendered⟩).1 violated
      | error refusal => exact ⟨refusal, appendRendering_eq_error.mpr rendered⟩
    · intro none
      apply appendRendering_eq_error.mpr
      rw [Statement.render, Update.render, none]
      rfl
    · intro some violated
      apply appendRendering_eq_error.mpr
      exact Update.render_eq_rowRefusal some violated
    · intro refused
      rcases Update.render_eq_error picked (appendRendering_eq_error.mp refused) with
        ⟨expr, member, own⟩ | refuses
      · exact ⟨expr, member, appendRendering_eq_error.mpr own⟩
      · cases refuses
  · intro steps deletion
    have picked : deletion.rows = ({} : Query).run (steps.map RowStep.toQueryStep) := by
      rw [show deletion = _ from Delete.run_eq { table } steps]
    refine ⟨?_, ?_, ?_, ?_⟩
    · rw [picked]
      exact Query.onlyPicks_empty.run _
    · rw [compile, compileRows, exists_appendRendering_eq_ok, exists_appendRendering_eq_ok, ← picked]
      exact Delete.exists_render_eq_ok
    · intro violated
      apply appendRendering_eq_error.mpr
      exact Delete.render_eq_rowRefusal violated
    · intro refused
      rcases Delete.render_eq_error picked (appendRendering_eq_error.mp refused) with
        ⟨expr, member, own⟩ | refuses
      · exact ⟨expr, member, appendRendering_eq_error.mpr own⟩
      · cases refuses

/-- A change of a table whose limit skips rows at first, and does not after the last call. -/
def relimitedChange (table : Name) : List Update.Step :=
  [.rows (.limit 9 3), .set (.qualified table "a") (.literal (.int 1)),
    .rows (.filter (.named (.qualified table "b"))),
    .set (.qualified table "a") (.named (.qualified table "b")), .rows (.limit 1 0)]

/-- Only the last limit counts: MySQL can bound the rows, and SQLite cannot bound them at all. -/
theorem compile_guarded_relimitedChange :
    let table : Name := .identifier "t"
    mysql.compile (.update (Update.run { table } (relimitedChange table))) =
        .ok ⟨"UPDATE t SET a = t.b WHERE t.b LIMIT ?", [.int 1]⟩ ∧
      (Update.run { table } (relimitedChange table)).Guarded mysql.grammar ∧
      sqlite.compile (.update (Update.run { table } (relimitedChange table))) =
        .error ⟨"sqlite", .unsupported (.rowLimit .update)⟩ := by
  intro table
  have compiles : mysql.compile (.update (Update.run { table } (relimitedChange table))) =
      .ok ⟨"UPDATE t SET a = t.b WHERE t.b LIMIT ?", [.int 1]⟩ := by
    decide +kernel
  obtain ⟨-, succeeds, -⟩ := (compile_guarded mysql table).1 (relimitedChange table)
  obtain ⟨-, -, -, -, limited, -⟩ := (compile_guarded sqlite table).1 (relimitedChange table)
  refine ⟨compiles, (succeeds.mp ⟨_, compiles⟩).1, limited nofun ?_⟩
  intro admitted
  exact admitted.unlimited rfl 1 0 List.mem_cons_self

end Dialect

end SqlTree
