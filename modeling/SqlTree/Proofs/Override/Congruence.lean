import SqlTree.Compile
import SqlTree.Proofs.Outcome
import SqlTree.Proofs.Site

/-! # Grammars that agree on the sites of a tree

What a grammar decides is looked up at a site: the spelling of an operator, the form of the sort
keys of a query, the keywords of its unions. If two grammars decide alike at every site of a tree,
they render it alike (`Query.render_congr`), however deep the site is, and refuse it alike.
-/

namespace SqlTree

open Form

/-- The grammars decide alike at the site itself. An operator is looked up unless it compares with
NULL, the form of sort keys where there are some, and subtraction where days are counted back to
the start of a unit. -/
def Site.SameIn (first second : Grammar) : Site → Prop
  | .expr _ (.binary op left right) =>
    left.isNullLiteral = false → right.isNullLiteral = false →
      first.operator? op = second.operator? op
  | .query rows =>
    (rows.order ≠ [] → first.nullOrder = second.nullOrder) ∧
      ∀ union ∈ rows.unions, unionKeywords first union.kind = unionKeywords second union.kind
  | .extension (.truncate _ unit _) =>
    unit ∈ [.weeks, .months, .years] → first.operator? .sub = second.operator? .sub
  | _ => True

namespace Form

variable {first second : Grammar}

private theorem binary_congr {op : BinaryOp} (same : first.operator? op = second.operator? op)
    (left right : Expr) (before after : Rendering) :
    binary first op left right before after = binary second op left right before after := by
  rw [binary, binary, operator, operator, same]

/-- The form of a membership test in the empty list does not depend on the operand. -/
private theorem inList_congr (negated : Bool) (expr : Expr) {values : List Value} {rendered other : Rendering}
    (same : values ≠ [] → rendered = other) :
    inList negated expr values rendered = inList negated expr values other := by
  cases values with
  | nil => rfl
  | cons value rest => rw [same (List.cons_ne_nil value rest)]

private theorem dayTruncation_congr (same : first.operator? .sub = second.operator? .sub)
    (function : String) (date : Fragment) :
    dayTruncation first function date = dayTruncation second function date := by
  rw [dayTruncation, dayTruncation, operator, operator, same]

private theorem truncation_congr {unit : TimeUnit}
    (same : unit ∈ [.weeks, .months, .years] → first.operator? .sub = second.operator? .sub)
    (offset : Int32) (date : Rendering) :
    truncation first unit offset date = truncation second unit offset date := by
  cases unit with
  | weeks | months | years =>
    have minus := same (by decide)
    simp only [truncation, dayTruncation_congr minus]
  | _ => rfl

end Form

section

variable {first second : Grammar}

mutual

theorem Expr.render_congr :
    (expr : Expr) → (position : Position) →
      (∀ site ∈ expr.sites 1 position, site.SameIn first second) →
      expr.render first position = expr.render second position
  | .literal _, _, _ => rfl
  | .named _, _, _ => rfl
  | .binary op left right, position, same => by
    obtain ⟨own, inside⟩ := List.forall_mem_cons.mp same
    obtain ⟨inLeft, inRight⟩ := List.forall_mem_append.mp inside
    rw [Expr.render, Expr.render, left.render_congr .inner inLeft,
      right.render_congr .inner inRight]
    split
    · rfl
    · split
      · rfl
      · rename_i present leftPresent
        exact binary_congr (own (by simpa using leftPresent) (by simpa using present)) ..
  | .not operand, _, same => by
    have inside := operand.render_congr .inner (List.forall_mem_cons.mp same).2
    rw [Expr.render, Expr.render, inside]
  | .isNull _ operand, _, same => by
    have inside := operand.render_congr .inner (List.forall_mem_cons.mp same).2
    rw [Expr.render, Expr.render, inside]
  | .inList negated operand values, _, same => by
    rw [Expr.render, Expr.render]
    refine inList_congr negated operand fun some => operand.render_congr .inner ?_
    have inside := (List.forall_mem_cons.mp same).2
    rw [if_neg (by simpa using some)] at inside
    exact (List.forall_mem_append.mp inside).1
  | .inQuery _ operand query, _, same => by
    obtain ⟨inOperand, inQuery⟩ := List.forall_mem_append.mp (List.forall_mem_cons.mp same).2
    rw [Expr.render, Expr.render, operand.render_congr .inner inOperand,
      query.render_congr inQuery]
  | .call _ arguments, _, same => by
    have inside := Expr.renderAll_congr arguments .inner (List.forall_mem_cons.mp same).2
    rw [Expr.render, Expr.render, inside]
  | .countAll _, _, _ => rfl
  | .count _ operand, _, same => by
    have inside := operand.render_congr .inner (List.forall_mem_cons.mp same).2
    rw [Expr.render, Expr.render, inside]
  | .case target branches otherwise, _, same => by
    obtain ⟨inTarget, others⟩ := List.forall_mem_append.mp (List.forall_mem_cons.mp same).2
    obtain ⟨inBranches, inOtherwise⟩ := List.forall_mem_append.mp others
    rw [Expr.render, Expr.render, Expr.renderOption_congr target inTarget,
      Branch.renderAll_congr branches inBranches, Expr.renderOption_congr otherwise inOtherwise]
  | .subquery query, _, same => by
    have inside := query.render_congr (List.forall_mem_cons.mp same).2
    rw [Expr.render, Expr.render, inside]
  | .alias expr _, .entry, same => by
    have inside := expr.render_congr .inner (List.forall_mem_cons.mp same).2
    rw [Expr.render, Expr.render, inside]
  | .alias _ _, .inner, _ => rfl
  | .allColumns _, .entry, _ => rfl
  | .allColumns _, .inner, _ => rfl
  | .extension node, _, same => by
    have inside := node.render_congr (List.forall_mem_cons.mp same).2
    rw [Expr.render, Expr.render, inside]

theorem Expr.renderAll_congr :
    (exprs : List Expr) → (position : Position) →
      (∀ site ∈ Expr.sitesOfAll 1 position exprs, site.SameIn first second) →
      Expr.renderAll first position exprs = Expr.renderAll second position exprs
  | [], _, _ => rfl
  | expr :: rest, position, same => by
    obtain ⟨inExpr, inRest⟩ := List.forall_mem_append.mp same
    rw [Expr.renderAll, Expr.renderAll, expr.render_congr position inExpr,
      Expr.renderAll_congr rest position inRest]

theorem Expr.renderOption_congr :
    (expr : Option Expr) →
      (∀ site ∈ Expr.sitesOfOption 1 expr, site.SameIn first second) →
      Expr.renderOption first expr = Expr.renderOption second expr
  | none, _ => rfl
  | some expr, same => by
    rw [Expr.renderOption, Expr.renderOption, expr.render_congr .inner same]

theorem Branch.renderAll_congr :
    (branches : List Branch) →
      (∀ site ∈ Branch.sitesOfAll 1 branches, site.SameIn first second) →
      Branch.renderAll first branches = Branch.renderAll second branches
  | [], _ => rfl
  | ⟨condition, result⟩ :: rest, same => by
    obtain ⟨inCondition, others⟩ := List.forall_mem_append.mp same
    obtain ⟨inResult, inRest⟩ := List.forall_mem_append.mp others
    rw [Branch.renderAll, Branch.renderAll, condition.render_congr .inner inCondition,
      result.render_congr .inner inResult, Branch.renderAll_congr rest inRest]

theorem Element.render_congr :
    (element : Element) →
      (∀ site ∈ element.sites 1, site.SameIn first second) →
      element.render first = element.render second
  | .table _, _ => rfl
  | .labelled element _, same => by
    rw [Element.render, Element.render, element.render_congr same]
  | .subquery query, same => by
    rw [Element.render, Element.render, query.render_congr same]

theorem Element.renderOption_congr :
    (element : Option Element) →
      (∀ site ∈ Element.sitesOfOption 1 element, site.SameIn first second) →
      Element.renderOption first element = Element.renderOption second element
  | none, _ => rfl
  | some element, same => by
    rw [Element.renderOption, Element.renderOption, element.render_congr same]

theorem Join.renderAll_congr :
    (joins : List Join) →
      (∀ site ∈ Join.sitesOfAll 1 joins, site.SameIn first second) →
      Join.renderAll first joins = Join.renderAll second joins
  | [], _ => rfl
  | ⟨_, element, condition⟩ :: rest, same => by
    obtain ⟨inElement, others⟩ := List.forall_mem_append.mp same
    obtain ⟨inCondition, inRest⟩ := List.forall_mem_append.mp others
    rw [Join.renderAll, Join.renderAll, element.render_congr inElement,
      condition.render_congr .inner inCondition, Join.renderAll_congr rest inRest]

theorem Order.renderAll_congr (style : NullOrder) :
    (order : List Order) →
      (∀ site ∈ Order.sitesOfAll 1 1 order, site.SameIn first second) →
      Order.renderAll first style order = Order.renderAll second style order
  | [], _ => rfl
  | ⟨expr, _⟩ :: rest, same => by
    obtain ⟨inExpr, inRest⟩ := List.forall_mem_append.mp same
    have inside := expr.render_congr .inner fun site member =>
      inExpr site ((Site.mem_repeated Nat.one_pos).mpr member)
    rw [Order.renderAll, Order.renderAll, inside, Order.renderAll_congr style rest inRest]

theorem Modifier.renderAll_congr :
    (modifiers : List Modifier) →
      (∀ site ∈ Modifier.sitesOfAll 1 modifiers, site.SameIn first second) →
      Modifier.renderAll first modifiers = Modifier.renderAll second modifiers
  | [], _ => rfl
  | .limit _ _ :: rest, same => by
    rw [Modifier.renderAll, Modifier.renderAll,
      Modifier.renderAll_congr rest (List.forall_mem_cons.mp same).2]
  | .extension node :: rest, same => by
    obtain ⟨inNode, inRest⟩ := List.forall_mem_append.mp same
    rw [Modifier.renderAll, Modifier.renderAll, node.render_congr inNode,
      Modifier.renderAll_congr rest inRest]

theorem Union.renderAll_congr :
    (unions : List Union) →
      (∀ union ∈ unions, unionKeywords first union.kind = unionKeywords second union.kind) →
      (∀ site ∈ Union.sitesOfAll 1 unions, site.SameIn first second) →
      Union.renderAll first unions = Union.renderAll second unions
  | [], _, _ => rfl
  | ⟨kind, query⟩ :: rest, keywords, same => by
    obtain ⟨own, others⟩ := List.forall_mem_cons.mp keywords
    obtain ⟨inQuery, inRest⟩ := List.forall_mem_append.mp same
    have words : Form.union first kind = Form.union second kind :=
      funext fun fragment => by rw [Form.union, Form.union, own]
    rw [Union.renderAll, Union.renderAll, words, query.render_congr inQuery,
      Union.renderAll_congr rest others inRest]

theorem Query.render_congr :
    (query : Query) → (∀ site ∈ query.sites 1, site.SameIn first second) →
      query.render first = query.render second
  | ⟨selection, source, joins, filter, grouping, having, order, modifiers, unions⟩, same => by
    have parts := Query.sitesFulfil same
    obtain ⟨keys, keywords⟩ := parts.own
    have sorted : Order.renderAll first first.nullOrder order =
        Order.renderAll second second.nullOrder order := by
      by_cases none : order = []
      · rw [none]
        rfl
      · rw [keys none, Order.renderAll_congr _ order parts.order]
    rw [Query.render, Query.render, sorted, Expr.renderAll_congr selection .entry parts.selection,
      Element.renderOption_congr source parts.source, Join.renderAll_congr joins parts.joins,
      Expr.renderAll_congr filter .inner parts.filter,
      Expr.renderAll_congr grouping .inner parts.grouping,
      Expr.renderAll_congr having .inner parts.having,
      Modifier.renderAll_congr modifiers parts.modifiers,
      Union.renderAll_congr unions keywords parts.unions]

theorem Extension.render_congr :
    (node : Extension) → (∀ site ∈ node.sites 1, site.SameIn first second) →
      node.render first = node.render second
  | .interval amount unit, same => by
    have inside := amount.render_congr .inner (List.forall_mem_cons.mp same).2
    rw [Extension.render, Extension.render, inside]
  | .extractedInterval date unit offset, same => by
    have inDate := (List.forall_mem_append.mp (List.forall_mem_cons.mp same).2).1
    rw [Extension.render, Extension.render, date.render_congr .inner inDate]
  | .shift direction date amount unit, same => by
    obtain ⟨inDate, inAmount⟩ := List.forall_mem_append.mp (List.forall_mem_cons.mp same).2
    rw [Extension.render, Extension.render, date.render_congr .inner inDate,
      amount.render_congr .inner inAmount]
  | .truncate date unit offset, same => by
    obtain ⟨own, others⟩ := List.forall_mem_cons.mp same
    have dates : 0 < Site.truncationDates unit := by cases unit <;> decide
    have inDate := date.render_congr .inner fun site member =>
      (List.forall_mem_append.mp others).1 site ((Site.mem_repeated dates).mpr member)
    rw [Extension.render, Extension.render, inDate, truncation_congr own]
  | .groupConcat distinct columns order separator, same => by
    obtain ⟨inColumns, others⟩ := List.forall_mem_append.mp (List.forall_mem_cons.mp same).2
    obtain ⟨inOrder, -⟩ := List.forall_mem_append.mp others
    rw [Extension.render, Extension.render, Expr.renderAll_congr columns .inner inColumns,
      Order.renderAll_congr .unstated order inOrder]
  | .custom parts, same => by
    have inside := Part.renderAll_congr parts (List.forall_mem_cons.mp same).2
    rw [Extension.render, Extension.render, inside]

theorem Part.renderAll_congr :
    (parts : List Part) → (∀ site ∈ Part.sitesOfAll 1 parts, site.SameIn first second) →
      Part.renderAll first parts = Part.renderAll second parts
  | [], _ => rfl
  | .expr expr :: rest, same => by
    obtain ⟨inExpr, inRest⟩ := List.forall_mem_append.mp same
    rw [Part.renderAll, Part.renderAll, expr.render_congr .inner inExpr,
      Part.renderAll_congr rest inRest]
  | .text _ :: rest, same | .literal _ :: rest, same | .argument _ :: rest, same
  | .dialectName :: rest, same => by
    have inside := Part.renderAll_congr rest (List.forall_mem_cons.mp same).2
    rw [Part.renderAll, Part.renderAll, inside]
  | .unsupported _ :: _, _ => rfl

end

/-! ## Statements -/

private theorem Query.clauses_congr {query : Query}
    (same : ∀ site ∈ query.clauseSites 1, site.SameIn first second) :
    clauses first query = clauses second query := by
  have whole := Query.render_congr { query with selection := [] } same
  -- The selection before the clauses is the same, so the clauses are.
  rw [render_unselected, render_unselected] at whole
  cases before : clauses first query <;> cases after : clauses second query <;>
    rw [before, after] at whole <;> cases whole
  · rfl
  · rfl

end

/-- The query that picks the rows which the statement changes. -/
def Statement.picked? : Statement → Option Query
  | .update change => some change.rows
  | .delete deletion => some deletion.rows
  | _ => none

/-- The grammars decide alike at every site of the statement, and what they decide for the statement
itself. -/
structure Statement.SameIn (first second : Grammar) (statement : Statement) : Prop where
  sites : ∀ site ∈ statement.sites 1, site.SameIn first second
  /-- The forms of a row of defaults. -/
  defaults (insertion : Insert) (inserts : statement = .insert insertion)
    (none : insertion.assignments = []) : first.defaultRow = second.defaultRow
  /-- What bounds on the rows that a statement changes are refused. -/
  limits (rows : Query) (picks : statement.picked? = some rows) (kind : RowStatement) :
    ∀ modifier ∈ rows.modifiers,
      checkRowLimit first kind modifier = checkRowLimit second kind modifier

theorem Statement.render_congr {first second : Grammar} {statement : Statement}
    (same : statement.SameIn first second) :
    statement.render first = statement.render second := by
  obtain ⟨sites, defaults, limits⟩ := same
  cases statement with
  | query selected => exact selected.render_congr sites
  | insert inserted =>
    rw [Statement.render, Statement.render, Insert.render, Insert.render]
    by_cases none : inserted.assignments = []
    · rw [defaults inserted rfl none]
    · rw [if_neg (by simpa using none), if_neg (by simpa using none)]
  | insertQuery inserted =>
    rw [Statement.render, Statement.render, InsertQuery.render, InsertQuery.render,
      inserted.query.render_congr sites]
  | update change =>
    obtain ⟨inAssignments, inRows⟩ := List.forall_mem_append.mp sites
    have checks : checkRowLimits first .update change.rows =
        checkRowLimits second .update change.rows := forM_congr (limits _ rfl .update)
    have assigned : change.assignments.mapM (Update.renderAssignment first change.table) =
        change.assignments.mapM (Update.renderAssignment second change.table) := by
      refine mapM_congr fun entry member => ?_
      have inExpr := entry.2.render_congr .inner fun site inSites =>
        inAssignments site (List.mem_flatMap.mpr ⟨entry, member, inSites⟩)
      rw [Update.renderAssignment, Update.renderAssignment, inExpr]
    rw [Statement.render, Statement.render, Update.render, Update.render, checks, assigned,
      Query.clauses_congr inRows]
  | delete deletion =>
    have checks : checkRowLimits first .delete deletion.rows =
        checkRowLimits second .delete deletion.rows := forM_congr (limits _ rfl .delete)
    rw [Statement.render, Statement.render, Delete.render, Delete.render, checks,
      Query.clauses_congr sites]

end SqlTree
