import SqlTree.Proofs.Node
import SqlTree.Proofs.Union.Form
import SqlTree.Render

/-! # The unions that a rendered query shows

A reader finds in the text of a query the unions of the query in the order of the text: each union
and then those of the query whose rows it adds. Queries inside expressions and elements stand
between parentheses and show none.
-/

namespace SqlTree

mutual

/-- The unions of a query, those of the queries whose rows it adds included. -/
def Query.unionKinds : Query → List UnionKind
  | ⟨_, _, _, _, _, _, _, _, unions⟩ => Union.kindsOfAll unions

/-- The unions, each followed by those of its query. -/
def Union.kindsOfAll : List Union → List UnionKind
  | [] => []
  | ⟨kind, query⟩ :: rest => kind :: query.unionKinds ++ Union.kindsOfAll rest

end

/-- The name of a function is a word other than UNION, and queries are modified by limits only. A
custom node may write anything. -/
def Node.Worded : Node → Prop
  | .expr (.call name _) =>
    name.toList.all Token.isWordChar = true ∧ isUnionWord name.toList = false
  | .query selected => ∀ modifier ∈ selected.modifiers, modifier.isLimit = true
  | .extension (.custom _) => False
  | _ => True

instance : DecidablePred Node.Worded
  | .expr (.call _ _) => instDecidableAnd
  | .query selected => List.decidableBAll _ selected.modifiers
  | .extension (.custom _) => .isFalse id
  | .expr (.literal _) | .expr (.named _) | .expr (.binary ..) | .expr (.not _) | .expr (.isNull ..)
  | .expr (.inList ..) | .expr (.inQuery ..) | .expr (.countAll _) | .expr (.count ..)
  | .expr (.case ..) | .expr (.subquery _) | .expr (.alias ..) | .expr (.allColumns _)
  | .expr (.extension _) | .element _ | .extension (.interval ..)
  | .extension (.extractedInterval ..) | .extension (.shift ..) | .extension (.truncate ..)
  | .extension (.groupConcat ..) => .isTrue trivial

open Form

section

-- The theorems of the block need the hypothesis for one another.
set_option linter.unusedSectionVars false

variable {dialect : Dialect} (standard : dialect.Standard)

include standard

theorem Modifier.followsAll (modifiers : List Modifier)
    (limits : ∀ modifier ∈ modifiers, modifier.isLimit = true) :
    Yields (fun fragment => fragment.Follows dialect [])
      (Modifier.renderAll dialect.grammar modifiers) := by
  induction modifiers with
  | nil => exact .ok .nil
  | cons modifier rest ih =>
    obtain ⟨first, others⟩ := List.forall_mem_cons.mp limits
    cases modifier with
    | limit count offset =>
      exact (limit_follows standard count offset).bind fun _ bound =>
        (ih others).bind fun _ after => .ok (bound.append after)
    | extension node => cases first

mutual

theorem Expr.shows :
    (expr : Expr) → (position : Position) → (∀ node ∈ expr.nodes, node.Worded) →
      (expr.render dialect.grammar position).Shows dialect []
  | .literal value, _, _ => .ok (.value standard.spelling value)
  | .named name, _, _ => .ok (.name standard.spelling name)
  | .binary op left right, _, worded => by
    simp only [Expr.nodes, List.forall_mem_append, List.forall_mem_cons] at worded
    have before := left.shows .inner worded.1.2
    have after := right.shows .inner worded.2
    rw [Expr.render]
    split
    · exact nullTest_shows op left before
    · split
      · exact nullTest_shows op right after
      · exact binary_shows standard op left right before after
  | .not operand, _, worded => by
    have inner := operand.shows .inner (List.forall_mem_cons.mp worded).2
    exact (operand_shows operand inner).bind fun _ silent => .ok (silent.cons fun _ _ => rfl)
  | .isNull negated operand, _, worded => by
    have inner := operand.shows .inner (List.forall_mem_cons.mp worded).2
    refine (operand_shows operand inner).bind fun _ silent => .ok ?_
    cases negated with
    | false =>
      exact silent.append (.text ⟨' ', _, rfl, by decide⟩ [])
        (.text (fun _ _ => rfl : Leads " IS NULL" 0 0 "NULL".toList) (by decide))
    | true =>
      exact silent.append (.text ⟨' ', _, rfl, by decide⟩ [])
        (.text (fun _ _ => rfl : Leads " IS NOT NULL" 0 0 "NULL".toList) (by decide))
  | .inList negated operand values, _, worded =>
    inList_shows standard negated operand values
      (operand.shows .inner (List.forall_mem_cons.mp worded).2)
  | .inQuery negated operand query, _, worded => by
    simp only [Expr.nodes, List.forall_mem_append, List.forall_mem_cons] at worded
    exact inQuery_shows negated operand (operand.shows .inner worded.1.2)
      (query.shows worded.2).unions
  | .call name arguments, _, worded => by
    obtain ⟨⟨word, apart⟩, argumentsWorded⟩ := List.forall_mem_cons.mp worded
    exact (Expr.showsAll arguments .inner argumentsWorded).bind fun _ all =>
      .ok (.call word apart all)
  | .countAll distinct, _, _ =>
    .ok (count_shows distinct (.text (fun _ _ => rfl : Leads "*" 0 0 []) (by decide)))
  | .count distinct operand, _, worded =>
    (operand.shows .inner (List.forall_mem_cons.mp worded).2).bind fun _ silent =>
      .ok (count_shows distinct silent)
  | .case target branches otherwise, _, worded => by
    simp only [Expr.nodes, List.forall_mem_append, List.forall_mem_cons] at worded
    obtain ⟨⟨⟨-, targetWorded⟩, branchesWorded⟩, otherwiseWorded⟩ := worded
    refine (Expr.showsOption target targetWorded).bind fun first firstSilent => ?_
    refine (Branch.followsAll branches branchesWorded).bind fun second secondFollows => ?_
    refine (Expr.showsOption otherwise otherwiseWorded).bind fun third thirdSilent => .ok ?_
    exact (caseEnd_follows thirdSilent).after (secondFollows.after (caseTarget_shows firstSilent))
  | .subquery query, _, worded =>
    (query.shows (List.forall_mem_cons.mp worded).2).unions.bind fun _ inner =>
      .ok inner.parenthesised
  | .alias expr name, .entry, worded => by
    have inner := expr.shows .inner (List.forall_mem_cons.mp worded).2
    have label : Fragment.Follows dialect [.text " AS ", .name name] [] :=
      .text ⟨fun _ _ => rfl, ' ', _, rfl, by decide⟩ (.name standard.spelling name)
    exact inner.bind fun _ silent => .ok (label.after silent)
  | .alias expr name, .inner, _ => .ok (.name standard.spelling name)
  | .allColumns element, .entry, _ => allColumns_shows standard element
  | .allColumns element, .inner, _ => .error _
  | .extension node, _, worded => node.shows (List.forall_mem_cons.mp worded).2

theorem Expr.showsAll :
    (exprs : List Expr) → (position : Position) → (∀ node ∈ Expr.nodesOfAll exprs, node.Worded) →
      SilentAll dialect (Expr.renderAll dialect.grammar position exprs)
  | [], _, _ => .ok (List.forall_mem_nil _)
  | expr :: rest, position, worded => by
    obtain ⟨first, others⟩ := List.forall_mem_append.mp worded
    exact (expr.shows position first).bind fun _ silent =>
      (Expr.showsAll rest position others).bind fun _ all =>
        .ok (List.forall_mem_cons.mpr ⟨silent, all⟩)

theorem Expr.showsOption :
    (expr : Option Expr) → (∀ node ∈ Expr.nodesOfOption expr, node.Worded) →
      Yields (fun shown => ∀ fragment ∈ shown, Fragment.Shows dialect fragment [])
        (Expr.renderOption dialect.grammar expr)
  | none, _ => .ok nofun
  | some expr, worded => by
    refine (expr.shows .inner worded).bind fun _ silent => .ok ?_
    rintro _ ⟨⟩
    exact silent

theorem Branch.followsAll :
    (branches : List Branch) → (∀ node ∈ Branch.nodesOfAll branches, node.Worded) →
      Yields (fun fragment => fragment.Follows dialect [])
        (Branch.renderAll dialect.grammar branches)
  | [], _ => .ok .nil
  | ⟨condition, result⟩ :: rest, worded => by
    simp only [Branch.nodesOfAll, List.forall_mem_append] at worded
    obtain ⟨⟨conditionWorded, resultWorded⟩, others⟩ := worded
    refine (condition.shows .inner conditionWorded).bind fun _ first => ?_
    refine (result.shows .inner resultWorded).bind fun _ second => ?_
    exact (Branch.followsAll rest others).bind fun _ after =>
      .ok ((branch_follows first second).append after)

theorem Element.shows :
    (element : Element) → (∀ node ∈ element.nodes, node.Worded) →
      (element.render dialect.grammar).Shows dialect []
  | .table name, _ => .ok (.name standard.spelling name)
  | .labelled element label, worded => by
    have name : Fragment.Follows dialect [.text " AS ", .name label] [] :=
      .text ⟨fun _ _ => rfl, ' ', _, rfl, by decide⟩ (.name standard.spelling label)
    exact (element.shows (List.forall_mem_cons.mp worded).2).bind fun _ silent =>
      .ok (name.after silent)
  | .subquery query, worded =>
    (query.shows (List.forall_mem_cons.mp worded).2).unions.bind fun _ inner =>
      .ok inner.parenthesised

theorem Element.showsOption :
    (element : Option Element) → (∀ node ∈ Element.nodesOfOption element, node.Worded) →
      Yields (fun shown => ∀ fragment ∈ shown, Fragment.Shows dialect fragment [])
        (Element.renderOption dialect.grammar element)
  | none, _ => .ok nofun
  | some element, worded => by
    refine (element.shows worded).bind fun _ silent => .ok ?_
    rintro _ ⟨⟩
    exact silent

theorem Join.followsAll :
    (joins : List Join) → (∀ node ∈ Join.nodesOfAll joins, node.Worded) →
      Yields (fun fragment => fragment.Follows dialect []) (Join.renderAll dialect.grammar joins)
  | [], _ => .ok .nil
  | ⟨kind, element, condition⟩ :: rest, worded => by
    simp only [Join.nodesOfAll, List.forall_mem_append] at worded
    obtain ⟨⟨elementWorded, conditionWorded⟩, others⟩ := worded
    refine (element.shows elementWorded).bind fun _ first => ?_
    refine (condition.shows .inner conditionWorded).bind fun _ second => ?_
    exact (Join.followsAll rest others).bind fun _ after =>
      .ok ((join_follows kind first second).append after)

theorem Order.showsAll :
    (order : List Order) → (style : NullOrder) → (∀ node ∈ Order.nodesOfAll order, node.Worded) →
      SilentAll dialect (Order.renderAll dialect.grammar style order)
  | [], _, _ => .ok (List.forall_mem_nil _)
  | ⟨expr, descending⟩ :: rest, style, worded => by
    obtain ⟨first, others⟩ := List.forall_mem_append.mp worded
    exact (expr.shows .inner first).bind fun _ silent =>
      (Order.showsAll rest style others).bind fun _ all =>
        .ok (List.forall_mem_cons.mpr ⟨order_shows style descending silent, all⟩)

theorem Union.followsAll :
    (unions : List Union) → (∀ node ∈ Union.nodesOfAll unions, node.Worded) →
      Yields (fun fragment => fragment.Follows dialect (Union.kindsOfAll unions))
        (Union.renderAll dialect.grammar unions)
  | [], _ => .ok .nil
  | ⟨kind, query⟩ :: rest, worded => by
    obtain ⟨first, others⟩ := List.forall_mem_append.mp worded
    refine (query.shows first).bind ?_
    rintro _ ⟨⟨tail, rfl⟩, shown⟩
    exact (Union.followsAll rest others).bind fun _ after =>
      .ok ((union_follows standard kind shown).append after)

theorem Query.shows :
    (query : Query) → (∀ node ∈ query.nodes, node.Worded) →
      (query.render dialect.grammar).ShowsQuery dialect query.unionKinds
  | ⟨selection, source, joins, filter, grouping, having, order, modifiers, unions⟩, worded => by
    simp only [Query.nodes, List.forall_mem_append, List.forall_mem_cons] at worded
    obtain ⟨⟨⟨⟨⟨⟨⟨⟨⟨limits, inSelection⟩, inSource⟩, inJoins⟩, inFilter⟩, inGrouping⟩, inHaving⟩,
      inOrder⟩, -⟩, inUnions⟩ := worded
    refine (Expr.showsAll selection .entry inSelection).bind fun _ selected => ?_
    refine (source_follows _ (Element.showsOption source inSource)
      (Join.followsAll joins inJoins)).bind fun _ taken => ?_
    refine (Expr.showsAll filter .inner inFilter).bind fun _ filtered => ?_
    refine (Expr.showsAll grouping .inner inGrouping).bind fun _ grouped => ?_
    refine (Expr.showsAll having .inner inHaving).bind fun _ kept => ?_
    refine (Order.showsAll order dialect.grammar.nullOrder inOrder).bind fun _ sorted => ?_
    refine (Modifier.followsAll standard modifiers limits).bind fun _ modified => ?_
    refine (Union.followsAll unions inUnions).bind fun _ added => .ok ⟨⟨_, rfl⟩, ?_⟩
    have filterClause := predicates_follows
      (⟨fun _ _ => rfl, ' ', _, rfl, by decide⟩ : Separates " WHERE ") filter filtered
    have groupingClause := list_follows
      (⟨fun _ _ => rfl, ' ', _, rfl, by decide⟩ : Separates " GROUP BY ") grouped
    have havingClause := predicates_follows
      (⟨fun _ _ => rfl, ' ', _, rfl, by decide⟩ : Separates " HAVING ") having kept
    have orderClause := list_follows
      (⟨fun _ _ => rfl, ' ', _, rfl, by decide⟩ : Separates " ORDER BY ") sorted
    exact added.after (modified.after (orderClause.after (havingClause.after
      (groupingClause.after (filterClause.after (taken.after (selection_shows selected)))))))

theorem Extension.shows :
    (node : Extension) → (∀ other ∈ node.nodes, other.Worded) →
      (node.render dialect.grammar).Shows dialect []
  | .interval amount unit, worded =>
    interval_shows unit (amount.shows .inner (List.forall_mem_cons.mp worded).2)
  | .extractedInterval date unit offset, worded =>
    extractedInterval_shows standard unit offset
      (date.shows .inner (List.forall_mem_cons.mp worded).2)
  | .shift direction date amount unit, worded => by
    simp only [Extension.nodes, List.forall_mem_append, List.forall_mem_cons] at worded
    exact shift_shows direction (date.shows .inner worded.1.2)
      (interval_shows unit (amount.shows .inner worded.2))
  | .truncate date unit offset, worded =>
    truncation_shows standard unit offset (date.shows .inner (List.forall_mem_cons.mp worded).2)
  | .groupConcat distinct columns order separator, worded => by
    simp only [Extension.nodes, List.forall_mem_append, List.forall_mem_cons] at worded
    refine (Expr.showsAll columns .inner worded.1.2).bind fun _ first => ?_
    exact (Order.showsAll order .unstated worded.2).bind fun _ second =>
      .ok (groupConcat_shows standard distinct separator first second)
  | .custom parts, worded => by
    cases (List.forall_mem_cons.mp worded).1

end

end

end SqlTree
