import SqlTree.Compile
import SqlTree.Proofs.Alike.Form

/-! # Renderings of trees that differ in values only

Trees that differ in values only are refused alike or have fragments that do, as long as values in
the same place are both NULL or both not. The theorems recurse with the derivations of likeness,
which have a constructor for each form.
-/

namespace SqlTree

open Fragment

variable {function : String → Prop} {same : Value → Value → Prop} {grammar : Grammar}

/-- The parts of every clause of the queries are refused alike or have fragments that are alike. -/
structure Query.PartsAlike (function : String → Prop) (same : Value → Value → Prop)
    (grammar : Grammar) (query other : Query) : Prop where
  selection : Agree (List.Forall₂ (Fragment.Alike function same))
    (Expr.renderAll grammar .entry query.selection) (Expr.renderAll grammar .entry other.selection)
  source : Rendering.Alike function same (query.sourceClause grammar) (other.sourceClause grammar)
  filter : Rendering.Alike function same (query.filterClause grammar) (other.filterClause grammar)
  grouping : Rendering.Alike function same (query.groupingClause grammar)
    (other.groupingClause grammar)
  having : Rendering.Alike function same (query.havingClause grammar) (other.havingClause grammar)
  order : Rendering.Alike function same (query.orderClause grammar) (other.orderClause grammar)
  modifiers : Rendering.Alike function same (query.modifierClauses grammar)
    (other.modifierClauses grammar)
  unions : Rendering.Alike function same (query.unionClauses grammar) (other.unionClauses grammar)

namespace Query.PartsAlike

variable {query other : Query} (parts : query.PartsAlike function same grammar other)

include parts

/-- Clauses of parts that are alike are alike. -/
theorem clauses : Rendering.Alike function same (query.clauses grammar) (other.clauses grammar) := by
  refine parts.source.bind fun _ _ first => parts.filter.bind fun _ _ second => ?_
  refine parts.grouping.bind fun _ _ third => parts.having.bind fun _ _ fourth => ?_
  refine parts.order.bind fun _ _ fifth => parts.modifiers.bind fun _ _ sixth => ?_
  refine parts.unions.bind fun _ _ seventh => .ok ?_
  exact (((((first.append second).append third).append fourth).append fifth).append sixth).append
    seventh

/-- Queries of parts that are alike are alike. -/
theorem render : Rendering.Alike function same (query.render grammar) (other.render grammar) := by
  rw [Query.render_eq_selection_clauses, Query.render_eq_selection_clauses]
  refine parts.selection.bind fun _ _ entries => parts.clauses.bind fun _ _ rest => .ok ?_
  exact (Form.selection_alike entries).append rest

end Query.PartsAlike

private theorem Join.AlikeAll.isEmpty {joins others : List Join}
    (alike : Join.AlikeAll function same joins others) : joins.isEmpty = others.isEmpty := by
  cases alike <;> rfl

section

-- The theorems of the block need both hypotheses for one another.
set_option linter.unusedSectionVars false

variable (plain : grammar.Plain)
  (null : ∀ value other, same value other → value.isNull = other.isNull)

include plain null

mutual

/-- The renderings of alike expressions are alike. -/
theorem Expr.Alike.render (position : Position) :
    {expr other : Expr} → Expr.Alike function same expr other →
      Rendering.Alike function same (expr.render grammar position) (other.render grammar position)
  | _, _, .literal related => .ok (.value related)
  | _, _, .named name => .ok (.name name)
  | _, _, .binary op lefts rights => by
    have before := lefts.render .inner
    have after := rights.render .inner
    simp only [Expr.render, lefts.isNullLiteral null, rights.isNullLiteral null]
    split
    · exact Form.nullTest_alike op lefts before
    · split
      · exact Form.nullTest_alike op rights after
      · exact Form.binary_alike plain op lefts rights before after
  | _, _, .not operands =>
    (Form.operand_alike operands (operands.render .inner)).bind fun _ _ inner =>
      .ok (Fragment.Alike.cons_words (by decide) inner)
  | _, _, .isNull negated operands =>
    (Form.operand_alike operands (operands.render .inner)).bind fun _ _ inner =>
      .ok (inner.append (.words (by cases negated <;> decide)))
  | _, _, .inList negated operands listed =>
    Form.inList_alike negated operands listed (operands.render .inner)
  | _, _, .inQuery negated operands rows =>
    Form.inQuery_alike negated operands (operands.render .inner) rows.parts.render
  | _, _, .call named arguments =>
    (arguments.renderAll .inner).bind fun _ _ all => .ok (.call named all)
  | _, _, .countAll distinct => .ok (Form.count_alike distinct (.words (by decide)))
  | _, _, .count distinct operands =>
    (operands.render .inner).bind fun _ _ inner => .ok (Form.count_alike distinct inner)
  | _, _, .case target branches otherwise => by
    refine target.renderOption.bind fun _ _ first => ?_
    refine branches.renderAll.bind fun _ _ second => ?_
    refine otherwise.renderOption.bind fun _ _ third => .ok ?_
    exact ((Form.caseTarget_alike first).append second).append (Form.caseEnd_alike third)
  | _, _, .subquery rows => rows.parts.render.bind fun _ _ inner => .ok inner.parenthesised
  | _, _, .alias name exprs => by
    cases position with
    | entry =>
      exact (exprs.render .inner).bind fun _ _ inner =>
        .ok (inner.append (.cons_words (by decide) (.name name)))
    | inner => exact .ok (.name name)
  | _, _, .allColumns elements => by
    cases position with
    | entry => exact Form.allColumns_alike elements
    | inner => exact Agree.error _
  | _, _, .extension nodes => nodes.render

/-- The renderings of alike expressions are alike, one by one. -/
theorem Expr.AlikeAll.renderAll (position : Position) :
    {exprs others : List Expr} → Expr.AlikeAll function same exprs others →
      Agree (List.Forall₂ (Fragment.Alike function same)) (Expr.renderAll grammar position exprs)
        (Expr.renderAll grammar position others)
  | _, _, .nil => .ok .nil
  | _, _, .cons first tail => by
    refine (first.render position).bind fun _ _ head => ?_
    exact (tail.renderAll position).bind fun _ _ rest => .ok (.cons head rest)

/-- The renderings of alike expressions that may be missing are alike. -/
theorem Expr.AlikeOption.renderOption :
    {expr other : Option Expr} → Expr.AlikeOption function same expr other →
      Agree (Option.Rel (Fragment.Alike function same)) (Expr.renderOption grammar expr)
        (Expr.renderOption grammar other)
  | _, _, .none => .ok .none
  | _, _, .some inner => (inner.render .inner).bind fun _ _ alike => .ok (.some alike)

/-- The renderings of alike branches are alike. -/
theorem Branch.AlikeAll.renderAll :
    {branches others : List Branch} → Branch.AlikeAll function same branches others →
      Rendering.Alike function same (Branch.renderAll grammar branches)
        (Branch.renderAll grammar others)
  | _, _, .nil => .ok .nil
  | _, _, .cons conditions results tail => by
    refine (conditions.render .inner).bind fun _ _ first => ?_
    refine (results.render .inner).bind fun _ _ second => ?_
    exact tail.renderAll.bind fun _ _ third =>
      .ok ((Form.branch_alike first second).append third)

/-- The renderings of alike elements are alike. -/
theorem Element.Alike.render :
    {element other : Element} → Element.Alike function same element other →
      Rendering.Alike function same (element.render grammar) (other.render grammar)
  | _, _, .table name => .ok (.name name)
  | _, _, .labelled label elements =>
    elements.render.bind fun _ _ inner =>
      .ok (inner.append (.cons_words (by decide) (.name label)))
  | _, _, .subquery rows => rows.parts.render.bind fun _ _ inner => .ok inner.parenthesised

/-- The renderings of alike elements that may be missing are alike. -/
theorem Element.AlikeOption.renderOption :
    {element other : Option Element} → Element.AlikeOption function same element other →
      Agree (Option.Rel (Fragment.Alike function same)) (Element.renderOption grammar element)
        (Element.renderOption grammar other)
  | _, _, .none => .ok .none
  | _, _, .some inner => inner.render.bind fun _ _ alike => .ok (.some alike)

/-- The renderings of alike joins are alike. -/
theorem Join.AlikeAll.renderAll :
    {joins others : List Join} → Join.AlikeAll function same joins others →
      Rendering.Alike function same (Join.renderAll grammar joins) (Join.renderAll grammar others)
  | _, _, .nil => .ok .nil
  | _, _, .cons kind elements conditions tail => by
    refine elements.render.bind fun _ _ first => ?_
    refine (conditions.render .inner).bind fun _ _ second => ?_
    exact tail.renderAll.bind fun _ _ third =>
      .ok ((Form.join_alike kind first second).append third)

/-- The renderings of alike sort keys are alike, one by one. -/
theorem Order.AlikeAll.renderAll (style : NullOrder) :
    {order others : List Order} → Order.AlikeAll function same order others →
      Agree (List.Forall₂ (Fragment.Alike function same)) (Order.renderAll grammar style order)
        (Order.renderAll grammar style others)
  | _, _, .nil => .ok .nil
  | _, _, .cons descending keys tail => by
    refine (keys.render .inner).bind fun _ _ key => ?_
    exact (tail.renderAll style).bind fun _ _ rest =>
      .ok (.cons (Form.order_alike style descending key) rest)

/-- The renderings of alike modifiers are alike. -/
theorem Modifier.AlikeAll.renderAll :
    {modifiers others : List Modifier} → Modifier.AlikeAll function same modifiers others →
      Rendering.Alike function same (Modifier.renderAll grammar modifiers)
        (Modifier.renderAll grammar others)
  | _, _, .nil => .ok .nil
  | _, _, .limit count offset tail =>
    (Form.limit_alike count offset).bind fun _ _ first =>
      tail.renderAll.bind fun _ _ second => .ok (first.append second)
  | _, _, .extension nodes tail =>
    nodes.render.bind fun _ _ first =>
      tail.renderAll.bind fun _ _ second => .ok (first.append second)

/-- The renderings of alike unions are alike. -/
theorem Union.AlikeAll.renderAll :
    {unions others : List Union} → Union.AlikeAll function same unions others →
      Rendering.Alike function same (Union.renderAll grammar unions)
        (Union.renderAll grammar others)
  | _, _, .nil => .ok .nil
  | _, _, .cons kind rows tail =>
    rows.parts.render.bind fun _ _ first =>
      tail.renderAll.bind fun _ _ second =>
        .ok ((Form.union_alike plain kind first).append second)

/-- The parts of alike queries are alike. -/
theorem Query.Alike.parts :
    {query other : Query} → Query.Alike function same query other →
      query.PartsAlike function same grammar other
  | _, _, .clauses selection source joins filter grouping having order modifiers unions =>
    { selection := selection.renderAll .entry
      source := by
        rw [Query.sourceClause, Query.sourceClause, joins.isEmpty]
        exact Form.source_alike source.renderOption joins.renderAll
      filter := (filter.renderAll .inner).bind fun _ _ all =>
        .ok (Form.predicates_alike (by decide) filter all)
      grouping := (grouping.renderAll .inner).bind fun _ _ all =>
        .ok (Form.list_alike (by decide) all)
      having := (having.renderAll .inner).bind fun _ _ all =>
        .ok (Form.predicates_alike (by decide) having all)
      order := (order.renderAll _).bind fun _ _ all => .ok (Form.list_alike (by decide) all)
      modifiers := modifiers.renderAll
      unions := unions.renderAll }

/-- The renderings of alike nodes with a syntax of their own are alike. -/
theorem Extension.Alike.render :
    {node other : Extension} → Extension.Alike function same node other →
      Rendering.Alike function same (node.render grammar) (other.render grammar)
  | _, _, .interval unit amounts => Form.interval_alike unit (amounts.render .inner)
  | _, _, .extractedInterval unit offset dates =>
    Form.extractedInterval_alike unit offset (dates.render .inner)
  | _, _, .shift direction unit dates amounts =>
    Form.shift_alike direction (dates.render .inner)
      (Form.interval_alike unit (amounts.render .inner))
  | _, _, .truncate unit offset dates =>
    Form.truncation_alike plain unit offset (dates.render .inner)
  | _, _, .groupConcat distinct separator columns keys => by
    refine (columns.renderAll .inner).bind fun _ _ parts => ?_
    exact (keys.renderAll .unstated).bind fun _ _ sortKeys =>
      .ok (Form.groupConcat_alike distinct separator parts sortKeys)

end

end

/-! ## Statements -/

namespace Form

private theorem assignedColumn_alike (table column : Name) :
    Rendering.Alike function same (assignedColumn table column) (assignedColumn table column) := by
  unfold assignedColumn
  split
  · exact .ok (.name _)
  · exact Agree.error _

private theorem defaultRow_alike (style : DefaultRow) :
    Fragment.Alike function same [.text (defaultRow style)] [.text (defaultRow style)] := by
  cases style with
  | clause => exact .words (by decide)
  | emptyLists =>
    have lists : Fragment.Alike function same
        ([] ++ .text " (" :: .text (")" ++ " VALUES (") :: ([] ++ [.text ")"]))
        ([] ++ .text " (" :: .text (")" ++ " VALUES (") :: ([] ++ [.text ")"])) :=
      Fragment.Alike.enclosed_twice (by decide) (by decide) (by decide) (by decide) .nil .nil
    have opened : Fragment.Alike function same
        ([] ++ .text (" (" ++ (")" ++ " VALUES (")) :: .text ")" :: [])
        ([] ++ .text (" (" ++ (")" ++ " VALUES (")) :: .text ")" :: []) := lists.joined
    exact opened.joined

/-- Row limits are identical in alike modifiers, so the checks of them are. -/
private theorem forM_checkRowLimit (statement : RowStatement) {modifiers others : List Modifier}
    (alike : Modifier.AlikeAll function same modifiers others) :
    modifiers.forM (checkRowLimit grammar statement) =
      others.forM (checkRowLimit grammar statement) := by
  match alike with
  | .nil => rfl
  | .limit count offset tail =>
    rw [List.forM, List.forM, forM_checkRowLimit statement tail]
  | .extension nodes tail =>
    rw [List.forM, List.forM, forM_checkRowLimit statement tail]
    rfl

private theorem checkRowLimits_eq (statement : RowStatement) {rows other : Query}
    (alike : Query.Alike function same rows other) :
    checkRowLimits grammar statement rows = checkRowLimits grammar statement other := by
  match alike with
  | .clauses _ _ _ _ _ _ _ modifiers _ => exact forM_checkRowLimit statement modifiers

end Form

/-- The renderings of rows of values for the same columns are alike. -/
theorem Insert.render_alike (table : Name) {assignments others : Assignments Value}
    (assigned : List.Forall₂ (fun one another => one.1 = another.1 ∧ same one.2 another.2)
      assignments others) :
    Rendering.Alike function same (Insert.render grammar ⟨table, assignments⟩)
      (Insert.render grammar ⟨table, others⟩) := by
  have paired : List.Forall₂ Eq assignments.columns others.columns := by
    rw [Assignments.columns, Assignments.columns, List.forall₂_map_left_iff,
      List.forall₂_map_right_iff]
    exact assigned.imp fun _ _ both => both.1
  have names : Agree (List.Forall₂ (Fragment.Alike function same))
      (assignments.columns.mapM (Form.assignedColumn table))
      (others.columns.mapM (Form.assignedColumn table)) :=
    Agree.mapM paired fun column another equal => equal ▸ Form.assignedColumn_alike table column
  have values : List.Forall₂ (Fragment.Alike function same)
      (assignments.map fun assignment => [Piece.value assignment.2])
      (others.map fun assignment => [Piece.value assignment.2]) := by
    rw [List.forall₂_map_left_iff, List.forall₂_map_right_iff]
    exact assigned.imp fun _ _ both => .value both.2
  cases assigned with
  | nil => exact .ok (.cons_words (by decide) (.cons_name (Form.defaultRow_alike _)))
  | cons first tail =>
    refine names.bind fun _ _ columns => .ok ?_
    have lists := Fragment.Alike.enclosed_twice
      (by decide : structuralMarks " (" = ['(']) (by decide : structuralMarks ")" = [')'])
      (by decide : structuralMarks " VALUES (" = ['(']) (by decide : structuralMarks ")" = [')'])
      (Fragment.Alike.separated (by decide : structuralMarks ", " = []) columns)
      (Fragment.Alike.separated (by decide : structuralMarks ", " = []) values)
    have whole : Fragment.Alike function same (.text "INSERT INTO " :: .name table :: _)
        (.text "INSERT INTO " :: .name table :: _) :=
      .cons_words (by decide) (.cons_name lists)
    simpa using whole

section

variable (plain : grammar.Plain)
  (null : ∀ value other, same value other → value.isNull = other.isNull)

include plain null

theorem InsertQuery.render_alike (table : Name) {query other : Query}
    (rows : Query.Alike function same query other) :
    Rendering.Alike function same (InsertQuery.render grammar ⟨table, query⟩)
      (InsertQuery.render grammar ⟨table, other⟩) :=
  (rows.parts plain null).render.bind fun _ _ inner =>
    .ok (Fragment.Alike.cons_words (by decide) (Fragment.Alike.cons_name
      (Fragment.Alike.cons_words (by decide) inner)))

theorem Update.render_alike (table : Name) {assignments others : Assignments Expr}
    {query other : Query}
    (assigned : List.Forall₂
      (fun one another => one.1 = another.1 ∧ Expr.Alike function same one.2 another.2)
      assignments others)
    (rows : Query.Alike function same query other) :
    Rendering.Alike function same (Update.render grammar ⟨table, assignments, query⟩)
      (Update.render grammar ⟨table, others, other⟩) := by
  have each (one another : Name × Expr)
      (both : one.1 = another.1 ∧ Expr.Alike function same one.2 another.2) :
      Rendering.Alike function same (Update.renderAssignment grammar table one)
        (Update.renderAssignment grammar table another) := by
    obtain ⟨equal, exprs⟩ := both
    rw [Update.renderAssignment, Update.renderAssignment, equal]
    have columns : Rendering.Alike function same (Form.assignedColumn table another.1)
        (Form.assignedColumn table another.1) := Form.assignedColumn_alike table another.1
    refine columns.bind fun _ _ column => ?_
    exact (exprs.render plain null .inner).bind fun _ _ value =>
      .ok (column.append (.cons_words (by decide) value))
  have changes := Agree.mapM assigned each
  cases assigned with
  | nil => exact Agree.error _
  | cons first tail =>
    simp only [Update.render, Form.checkRowLimits_eq _ rows]
    refine Agree.check fun _ => changes.bind fun _ _ all => ?_
    refine (rows.parts plain null).clauses.bind fun _ _ rest => .ok ?_
    exact ((Fragment.Alike.cons_words (by decide) (Fragment.Alike.cons_name
      (.words (by decide)))).append (Fragment.Alike.separated (by decide) all)).append rest

theorem Delete.render_alike (table : Name) {query other : Query}
    (rows : Query.Alike function same query other) :
    Rendering.Alike function same (Delete.render grammar ⟨table, query⟩)
      (Delete.render grammar ⟨table, other⟩) := by
  simp only [Delete.render, Form.checkRowLimits_eq _ rows]
  refine Agree.check fun _ => (rows.parts plain null).clauses.bind fun _ _ rest => .ok ?_
  exact Fragment.Alike.cons_words (by decide) (Fragment.Alike.cons_name rest)

/-- The renderings of alike statements are alike. -/
theorem Statement.Alike.render {statement other : Statement}
    (alike : Statement.Alike function same statement other) :
    Rendering.Alike function same (statement.render grammar) (other.render grammar) := by
  cases alike with
  | query rows => exact (rows.parts plain null).render
  | insert table assigned => exact Insert.render_alike table assigned
  | insertQuery table rows => exact InsertQuery.render_alike plain null table rows
  | update table assigned rows => exact Update.render_alike plain null table assigned rows
  | delete table rows => exact Delete.render_alike plain null table rows

end

/-- The rendering of a statement of standard nodes is alike to itself. -/
theorem Statement.render_alike_self (plain : grammar.Plain) {statement : Statement}
    (standard : ∀ node ∈ statement.nodes, node.Standard function) :
    Rendering.Alike function Eq (statement.render grammar) (statement.render grammar) := by
  have alike := statement.alike_self (fun _ => rfl) standard
  exact alike.render plain fun _ _ equal => congrArg Value.isNull equal

end SqlTree
