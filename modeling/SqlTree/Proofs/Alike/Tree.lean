import SqlTree.Proofs.Alike
import SqlTree.Proofs.Node

/-! # Trees that differ in values only

Two trees are alike if they are identical except for the values of literals, of membership lists
and of inserted rows, and `same` relates the values in each of these positions. Row counts, units,
offsets and separators are part of what is identical. Functions are named as `function` says, and
a custom node, which may write anything, is alike to none. A tree whose nodes are standard is alike
to itself (`Query.alike_self`).
-/

namespace SqlTree

/-- Functions are named as `function` says, and there are no custom nodes. -/
def Node.Standard (function : String → Prop) : Node → Prop
  | .expr (.call name _) => function name
  | .extension (.custom _) => False
  | _ => True

instance (function : String → Prop) [DecidablePred function] (node : Node) :
    Decidable (node.Standard function) := by
  unfold Node.Standard
  split <;> infer_instance

section

variable (function : String → Prop) (same : Value → Value → Prop)

mutual

/-- Expressions that differ in values only. -/
inductive Expr.Alike : Expr → Expr → Prop where
  | literal {value other : Value} (related : same value other) :
      Expr.Alike (.literal value) (.literal other)
  | named (name : Name) : Expr.Alike (.named name) (.named name)
  | binary (op : BinaryOp) {left otherLeft right otherRight : Expr}
      (before : Expr.Alike left otherLeft) (after : Expr.Alike right otherRight) :
      Expr.Alike (.binary op left right) (.binary op otherLeft otherRight)
  | not {operand other : Expr} (inner : Expr.Alike operand other) :
      Expr.Alike (.not operand) (.not other)
  | isNull (negated : Bool) {operand other : Expr} (inner : Expr.Alike operand other) :
      Expr.Alike (.isNull negated operand) (.isNull negated other)
  | inList (negated : Bool) {operand other : Expr} {values others : List Value}
      (inner : Expr.Alike operand other) (listed : List.Forall₂ same values others) :
      Expr.Alike (.inList negated operand values) (.inList negated other others)
  | inQuery (negated : Bool) {operand other : Expr} {query otherQuery : Query}
      (inner : Expr.Alike operand other) (rows : Query.Alike query otherQuery) :
      Expr.Alike (.inQuery negated operand query) (.inQuery negated other otherQuery)
  | call {name : String} {arguments others : List Expr} (named : function name)
      (inner : Expr.AlikeAll arguments others) :
      Expr.Alike (.call name arguments) (.call name others)
  | countAll (distinct : Bool) : Expr.Alike (.countAll distinct) (.countAll distinct)
  | count (distinct : Bool) {operand other : Expr} (inner : Expr.Alike operand other) :
      Expr.Alike (.count distinct operand) (.count distinct other)
  | case {target otherTarget : Option Expr} {branches others : List Branch}
      {otherwise otherOtherwise : Option Expr} (first : Expr.AlikeOption target otherTarget)
      (second : Branch.AlikeAll branches others)
      (third : Expr.AlikeOption otherwise otherOtherwise) :
      Expr.Alike (.case target branches otherwise) (.case otherTarget others otherOtherwise)
  | subquery {query other : Query} (rows : Query.Alike query other) :
      Expr.Alike (.subquery query) (.subquery other)
  | alias {expr other : Expr} (name : Name) (inner : Expr.Alike expr other) :
      Expr.Alike (.alias expr name) (.alias other name)
  | allColumns {element other : Element} (inner : Element.Alike element other) :
      Expr.Alike (.allColumns element) (.allColumns other)
  | extension {node other : Extension} (inner : Extension.Alike node other) :
      Expr.Alike (.extension node) (.extension other)

inductive Expr.AlikeAll : List Expr → List Expr → Prop where
  | nil : Expr.AlikeAll [] []
  | cons {expr other : Expr} {rest others : List Expr} (first : Expr.Alike expr other)
      (tail : Expr.AlikeAll rest others) : Expr.AlikeAll (expr :: rest) (other :: others)

inductive Expr.AlikeOption : Option Expr → Option Expr → Prop where
  | none : Expr.AlikeOption none none
  | some {expr other : Expr} (inner : Expr.Alike expr other) :
      Expr.AlikeOption (some expr) (some other)

inductive Branch.AlikeAll : List Branch → List Branch → Prop where
  | nil : Branch.AlikeAll [] []
  | cons {condition otherCondition result otherResult : Expr} {rest others : List Branch}
      (when : Expr.Alike condition otherCondition) (gives : Expr.Alike result otherResult)
      (tail : Branch.AlikeAll rest others) :
      Branch.AlikeAll (⟨condition, result⟩ :: rest) (⟨otherCondition, otherResult⟩ :: others)

inductive Element.Alike : Element → Element → Prop where
  | table (name : Name) : Element.Alike (.table name) (.table name)
  | labelled {element other : Element} (label : Name) (inner : Element.Alike element other) :
      Element.Alike (.labelled element label) (.labelled other label)
  | subquery {query other : Query} (rows : Query.Alike query other) :
      Element.Alike (.subquery query) (.subquery other)

inductive Element.AlikeOption : Option Element → Option Element → Prop where
  | none : Element.AlikeOption none none
  | some {element other : Element} (inner : Element.Alike element other) :
      Element.AlikeOption (some element) (some other)

inductive Join.AlikeAll : List Join → List Join → Prop where
  | nil : Join.AlikeAll [] []
  | cons (kind : JoinKind) {element otherElement : Element} {condition otherCondition : Expr}
      {rest others : List Join} (joined : Element.Alike element otherElement)
      (on : Expr.Alike condition otherCondition) (tail : Join.AlikeAll rest others) :
      Join.AlikeAll (⟨kind, element, condition⟩ :: rest)
        (⟨kind, otherElement, otherCondition⟩ :: others)

inductive Order.AlikeAll : List Order → List Order → Prop where
  | nil : Order.AlikeAll [] []
  | cons (descending : Bool) {expr other : Expr} {rest others : List Order}
      (key : Expr.Alike expr other) (tail : Order.AlikeAll rest others) :
      Order.AlikeAll (⟨expr, descending⟩ :: rest) (⟨other, descending⟩ :: others)

inductive Modifier.AlikeAll : List Modifier → List Modifier → Prop where
  | nil : Modifier.AlikeAll [] []
  | limit (count offset : UInt64) {rest others : List Modifier}
      (tail : Modifier.AlikeAll rest others) :
      Modifier.AlikeAll (.limit count offset :: rest) (.limit count offset :: others)
  | extension {node other : Extension} {rest others : List Modifier}
      (inner : Extension.Alike node other) (tail : Modifier.AlikeAll rest others) :
      Modifier.AlikeAll (.extension node :: rest) (.extension other :: others)

inductive Union.AlikeAll : List Union → List Union → Prop where
  | nil : Union.AlikeAll [] []
  | cons (kind : UnionKind) {query other : Query} {rest others : List Union}
      (rows : Query.Alike query other) (tail : Union.AlikeAll rest others) :
      Union.AlikeAll (⟨kind, query⟩ :: rest) (⟨kind, other⟩ :: others)

inductive Query.Alike : Query → Query → Prop where
  | clauses {query other : Query}
      (selection : Expr.AlikeAll query.selection other.selection)
      (source : Element.AlikeOption query.source other.source)
      (joins : Join.AlikeAll query.joins other.joins)
      (filter : Expr.AlikeAll query.filter other.filter)
      (grouping : Expr.AlikeAll query.grouping other.grouping)
      (having : Expr.AlikeAll query.having other.having)
      (order : Order.AlikeAll query.order other.order)
      (modifiers : Modifier.AlikeAll query.modifiers other.modifiers)
      (unions : Union.AlikeAll query.unions other.unions) : Query.Alike query other

inductive Extension.Alike : Extension → Extension → Prop where
  | interval {amount other : Expr} (unit : TimeUnit) (inner : Expr.Alike amount other) :
      Extension.Alike (.interval amount unit) (.interval other unit)
  | extractedInterval {date other : Expr} (unit : TimeUnit) (offset : Int32)
      (inner : Expr.Alike date other) :
      Extension.Alike (.extractedInterval date unit offset) (.extractedInterval other unit offset)
  | shift (direction : DateShift) {date otherDate amount otherAmount : Expr} (unit : TimeUnit)
      (dates : Expr.Alike date otherDate) (amounts : Expr.Alike amount otherAmount) :
      Extension.Alike (.shift direction date amount unit)
        (.shift direction otherDate otherAmount unit)
  | truncate {date other : Expr} (unit : TimeUnit) (offset : Int32)
      (inner : Expr.Alike date other) :
      Extension.Alike (.truncate date unit offset) (.truncate other unit offset)
  | groupConcat (distinct : Bool) {columns others : List Expr} {order otherOrder : List Order}
      (separator : String) (joined : Expr.AlikeAll columns others)
      (keys : Order.AlikeAll order otherOrder) :
      Extension.Alike (.groupConcat distinct columns order separator)
        (.groupConcat distinct others otherOrder separator)

end

/-- Statements that differ in values only. Inserted rows are for the same columns. -/
inductive Statement.Alike : Statement → Statement → Prop where
  | query {query other : Query} (rows : Query.Alike function same query other) :
      Statement.Alike (.query query) (.query other)
  | insert (table : Name) {assignments others : Assignments Value}
      (assigned : List.Forall₂ (fun one another => one.1 = another.1 ∧ same one.2 another.2)
        assignments others) :
      Statement.Alike (.insert ⟨table, assignments⟩) (.insert ⟨table, others⟩)
  | insertQuery (table : Name) {query other : Query} (rows : Query.Alike function same query other) :
      Statement.Alike (.insertQuery ⟨table, query⟩) (.insertQuery ⟨table, other⟩)
  | update (table : Name) {assignments others : Assignments Expr} {query other : Query}
      (assigned : List.Forall₂
        (fun one another => one.1 = another.1 ∧ Expr.Alike function same one.2 another.2)
        assignments others)
      (rows : Query.Alike function same query other) :
      Statement.Alike (.update ⟨table, assignments, query⟩) (.update ⟨table, others, other⟩)
  | delete (table : Name) {query other : Query} (rows : Query.Alike function same query other) :
      Statement.Alike (.delete ⟨table, query⟩) (.delete ⟨table, other⟩)

end

variable {function : String → Prop} {same : Value → Value → Prop}

/-! ## What a form sees of an operand -/

theorem Expr.Alike.isAtomic {expr other : Expr} (alike : expr.Alike function same other) :
    expr.isAtomic = other.isAtomic := by
  cases alike <;> rfl

theorem Expr.Alike.needsGrouping {expr other : Expr} (alike : expr.Alike function same other)
    (op : BinaryOp) (side : Side) : expr.needsGrouping op side = other.needsGrouping op side := by
  cases alike <;> rfl

theorem Expr.AlikeAll.map_needsGrouping {exprs others : List Expr} (op : BinaryOp) (side : Side) :
    Expr.AlikeAll function same exprs others →
      exprs.map (·.needsGrouping op side) = others.map (·.needsGrouping op side)
  | .nil => rfl
  | .cons first tail => by
    rw [List.map_cons, List.map_cons, first.needsGrouping, tail.map_needsGrouping]

private theorem Expr.isNullLiteral_literal (value : Value) :
    (Expr.literal value).isNullLiteral = value.isNull := by
  cases value <;> rfl

/-- Where values are NULL on both sides or on neither, so are literals. -/
theorem Expr.Alike.isNullLiteral {expr other : Expr}
    (null : ∀ value other, same value other → value.isNull = other.isNull)
    (alike : expr.Alike function same other) : expr.isNullLiteral = other.isNullLiteral := by
  cases alike with
  | literal related =>
    rw [Expr.isNullLiteral_literal, Expr.isNullLiteral_literal, null _ _ related]
  | _ => rfl

/-! ## Trees that are alike to themselves

A tree of standard nodes is alike to itself under every reflexive relation of values, so what is
shown of two runs of a renderer is in particular shown of one.
-/

section

-- The theorems of the block need the hypothesis for one another.
set_option linter.unusedSectionVars false

variable {function : String → Prop} {same : Value → Value → Prop} (refl : ∀ value, same value value)

include refl

mutual

theorem Expr.alike_self :
    (expr : Expr) → (∀ node ∈ expr.nodes, node.Standard function) →
      Expr.Alike function same expr expr
  | .literal value, _ => .literal (refl value)
  | .named name, _ => .named name
  | .binary op left right, standard => by
    simp only [Expr.nodes, List.forall_mem_append, List.forall_mem_cons] at standard
    exact .binary op (left.alike_self standard.1.2) (right.alike_self standard.2)
  | .not operand, standard => .not (operand.alike_self (List.forall_mem_cons.mp standard).2)
  | .isNull negated operand, standard =>
    .isNull negated (operand.alike_self (List.forall_mem_cons.mp standard).2)
  | .inList negated operand values, standard =>
    .inList negated (operand.alike_self (List.forall_mem_cons.mp standard).2)
      (List.forall₂_same.mpr fun value _ => refl value)
  | .inQuery negated operand query, standard => by
    simp only [Expr.nodes, List.forall_mem_append, List.forall_mem_cons] at standard
    exact .inQuery negated (operand.alike_self standard.1.2) (query.alike_self standard.2)
  | .call name arguments, standard => by
    obtain ⟨named, argumentsStandard⟩ := List.forall_mem_cons.mp standard
    exact .call named (Expr.alikeAll_self arguments argumentsStandard)
  | .countAll distinct, _ => .countAll distinct
  | .count distinct operand, standard =>
    .count distinct (operand.alike_self (List.forall_mem_cons.mp standard).2)
  | .case target branches otherwise, standard => by
    simp only [Expr.nodes, List.forall_mem_append, List.forall_mem_cons] at standard
    obtain ⟨⟨⟨-, targetStandard⟩, branchesStandard⟩, otherwiseStandard⟩ := standard
    exact .case (Expr.alikeOption_self target targetStandard)
      (Branch.alikeAll_self branches branchesStandard)
      (Expr.alikeOption_self otherwise otherwiseStandard)
  | .subquery query, standard =>
    .subquery (query.alike_self (List.forall_mem_cons.mp standard).2)
  | .alias expr name, standard =>
    .alias name (expr.alike_self (List.forall_mem_cons.mp standard).2)
  | .allColumns element, standard =>
    .allColumns (element.alike_self (List.forall_mem_cons.mp standard).2)
  | .extension node, standard =>
    .extension (node.alike_self (List.forall_mem_cons.mp standard).2)

theorem Expr.alikeAll_self :
    (exprs : List Expr) → (∀ node ∈ Expr.nodesOfAll exprs, node.Standard function) →
      Expr.AlikeAll function same exprs exprs
  | [], _ => .nil
  | expr :: rest, standard => by
    obtain ⟨first, others⟩ := List.forall_mem_append.mp standard
    exact .cons (expr.alike_self first) (Expr.alikeAll_self rest others)

theorem Expr.alikeOption_self :
    (expr : Option Expr) → (∀ node ∈ Expr.nodesOfOption expr, node.Standard function) →
      Expr.AlikeOption function same expr expr
  | none, _ => .none
  | some expr, standard => .some (expr.alike_self standard)

theorem Branch.alikeAll_self :
    (branches : List Branch) → (∀ node ∈ Branch.nodesOfAll branches, node.Standard function) →
      Branch.AlikeAll function same branches branches
  | [], _ => .nil
  | ⟨condition, result⟩ :: rest, standard => by
    simp only [Branch.nodesOfAll, List.forall_mem_append] at standard
    obtain ⟨⟨conditionStandard, resultStandard⟩, others⟩ := standard
    exact .cons (condition.alike_self conditionStandard) (result.alike_self resultStandard)
      (Branch.alikeAll_self rest others)

theorem Element.alike_self :
    (element : Element) → (∀ node ∈ element.nodes, node.Standard function) →
      Element.Alike function same element element
  | .table name, _ => .table name
  | .labelled element label, standard =>
    .labelled label (element.alike_self (List.forall_mem_cons.mp standard).2)
  | .subquery query, standard =>
    .subquery (query.alike_self (List.forall_mem_cons.mp standard).2)

theorem Element.alikeOption_self :
    (element : Option Element) →
      (∀ node ∈ Element.nodesOfOption element, node.Standard function) →
      Element.AlikeOption function same element element
  | none, _ => .none
  | some element, standard => .some (element.alike_self standard)

theorem Join.alikeAll_self :
    (joins : List Join) → (∀ node ∈ Join.nodesOfAll joins, node.Standard function) →
      Join.AlikeAll function same joins joins
  | [], _ => .nil
  | ⟨kind, element, condition⟩ :: rest, standard => by
    simp only [Join.nodesOfAll, List.forall_mem_append] at standard
    obtain ⟨⟨elementStandard, conditionStandard⟩, others⟩ := standard
    exact .cons kind (element.alike_self elementStandard)
      (condition.alike_self conditionStandard) (Join.alikeAll_self rest others)

theorem Order.alikeAll_self :
    (order : List Order) → (∀ node ∈ Order.nodesOfAll order, node.Standard function) →
      Order.AlikeAll function same order order
  | [], _ => .nil
  | ⟨expr, descending⟩ :: rest, standard => by
    obtain ⟨first, others⟩ := List.forall_mem_append.mp standard
    exact .cons descending (expr.alike_self first) (Order.alikeAll_self rest others)

theorem Modifier.alikeAll_self :
    (modifiers : List Modifier) →
      (∀ node ∈ Modifier.nodesOfAll modifiers, node.Standard function) →
      Modifier.AlikeAll function same modifiers modifiers
  | [], _ => .nil
  | .limit count offset :: rest, standard =>
    .limit count offset (Modifier.alikeAll_self rest standard)
  | .extension node :: rest, standard => by
    obtain ⟨first, others⟩ := List.forall_mem_append.mp standard
    exact .extension (node.alike_self first) (Modifier.alikeAll_self rest others)

theorem Union.alikeAll_self :
    (unions : List Union) → (∀ node ∈ Union.nodesOfAll unions, node.Standard function) →
      Union.AlikeAll function same unions unions
  | [], _ => .nil
  | ⟨kind, query⟩ :: rest, standard => by
    obtain ⟨first, others⟩ := List.forall_mem_append.mp standard
    exact .cons kind (query.alike_self first) (Union.alikeAll_self rest others)

theorem Query.alike_self :
    (query : Query) → (∀ node ∈ query.nodes, node.Standard function) →
      Query.Alike function same query query
  | ⟨selection, source, joins, filter, grouping, having, order, modifiers, unions⟩, standard => by
    simp only [Query.nodes, List.forall_mem_append, List.forall_mem_cons] at standard
    obtain ⟨⟨⟨⟨⟨⟨⟨⟨⟨-, inSelection⟩, inSource⟩, inJoins⟩, inFilter⟩, inGrouping⟩, inHaving⟩,
      inOrder⟩, inModifiers⟩, inUnions⟩ := standard
    exact .clauses (Expr.alikeAll_self selection inSelection)
      (Element.alikeOption_self source inSource) (Join.alikeAll_self joins inJoins)
      (Expr.alikeAll_self filter inFilter) (Expr.alikeAll_self grouping inGrouping)
      (Expr.alikeAll_self having inHaving) (Order.alikeAll_self order inOrder)
      (Modifier.alikeAll_self modifiers inModifiers) (Union.alikeAll_self unions inUnions)

theorem Extension.alike_self :
    (node : Extension) → (∀ inner ∈ node.nodes, inner.Standard function) →
      Extension.Alike function same node node
  | .interval amount unit, standard =>
    .interval unit (amount.alike_self (List.forall_mem_cons.mp standard).2)
  | .extractedInterval date unit offset, standard =>
    .extractedInterval unit offset (date.alike_self (List.forall_mem_cons.mp standard).2)
  | .shift direction date amount unit, standard => by
    simp only [Extension.nodes, List.forall_mem_append, List.forall_mem_cons] at standard
    exact .shift direction unit (date.alike_self standard.1.2) (amount.alike_self standard.2)
  | .truncate date unit offset, standard =>
    .truncate unit offset (date.alike_self (List.forall_mem_cons.mp standard).2)
  | .groupConcat distinct columns order separator, standard => by
    simp only [Extension.nodes, List.forall_mem_append, List.forall_mem_cons] at standard
    exact .groupConcat distinct separator (Expr.alikeAll_self columns standard.1.2)
      (Order.alikeAll_self order standard.2)
  | .custom _, standard => (List.forall_mem_cons.mp standard).1.elim

end

/-- A statement of standard nodes is alike to itself. -/
theorem Statement.alike_self (statement : Statement)
    (standard : ∀ node ∈ statement.nodes, node.Standard function) :
    Statement.Alike function same statement statement := by
  cases statement with
  | query selected => exact .query (selected.alike_self refl standard)
  | insert inserted =>
    exact .insert inserted.table (List.forall₂_same.mpr fun entry _ => ⟨rfl, refl entry.2⟩)
  | insertQuery inserted =>
    exact .insertQuery inserted.table (inserted.query.alike_self refl standard)
  | update change =>
    obtain ⟨assigned, rows⟩ := List.forall_mem_append.mp standard
    refine .update change.table (List.forall₂_same.mpr fun entry member => ⟨rfl, ?_⟩)
      (change.rows.alike_self refl rows)
    exact entry.2.alike_self refl fun node inside =>
      assigned node (List.mem_flatMap.mpr ⟨entry, member, inside⟩)
  | delete deletion => exact .delete deletion.table (deletion.rows.alike_self refl standard)

end

end SqlTree
