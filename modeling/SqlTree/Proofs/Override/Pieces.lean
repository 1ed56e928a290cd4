import SqlTree.Compile
import SqlTree.Proofs.Outcome
import SqlTree.Proofs.Site

/-! # Where the pieces of a fragment come from

Texts and values are written by forms of every kind. Every other piece of a rendering comes from a
site of the tree: a name from the site that mentions it, and the name of the dialect from a custom
node. A condition on pieces that all texts and values fulfil is therefore checked at the sites
(`Statement.render_all`).
-/

namespace SqlTree

/-- The names of an element, without those of a query in it. -/
def Element.names : Element → List Name
  | .table name => [name]
  | .labelled element label => element.names ++ [label]
  | .subquery _ => []

/-- The names that the site writes itself. A query writes those of the elements it takes rows
from. -/
def Site.names : Site → List Name
  | expr _ (.named name) | expr _ (.alias _ name) | expr _ (.allColumns (.table name))
  | expr _ (.allColumns (.labelled _ name)) => [name]
  | query rows =>
    (rows.source.toList ++ rows.joins.map Join.element).flatMap Element.names
  | _ => []

/-- The names that the statement writes outside of its sites: its table, and the columns that it
assigns to by their identifiers alone. -/
def Statement.ownNames : Statement → List Name
  | .query _ => []
  | .insert inserted =>
    inserted.table :: inserted.assignments.columns.map fun column => .identifier column.id
  | .insertQuery inserted => [inserted.table]
  | .update change =>
    change.table :: change.assignments.columns.map fun column => .identifier column.id
  | .delete deletion => [deletion.table]

def Statement.names (statement : Statement) : List Name :=
  statement.ownNames ++ (statement.sites 1).flatMap Site.names

/-- The condition is fulfilled by all texts and values. -/
structure FormPieces (holds : Piece → Prop) : Prop where
  text (text : String) : holds (.text text)
  value (value : Value) : holds (.value value)
  argument (value : Value) : holds (.argument value)

/-- The condition is fulfilled by what the site writes besides texts and values. -/
structure Site.Fulfils (holds : Piece → Prop) (site : Site) : Prop where
  names : ∀ name ∈ site.names, holds (.name name)
  custom (parts : List Part) (own : site = .extension (.custom parts)) : holds .dialectName

def Fragment.All (holds : Piece → Prop) (fragment : Fragment) : Prop :=
  ∀ piece ∈ fragment, holds piece

/-- All pieces of the rendering fulfil the condition, unless it is refused. -/
abbrev Rendering.All (holds : Piece → Prop) : Rendering → Prop :=
  Yields (Fragment.All holds)

namespace Fragment

variable {holds : Piece → Prop}

@[simp] theorem all_nil : All holds [] :=
  nofun

@[simp] theorem all_append {first second : Fragment} :
    All holds (first ++ second) ↔ All holds first ∧ All holds second :=
  List.forall_mem_append

@[simp] theorem all_cons {piece : Piece} {rest : Fragment} :
    All holds (piece :: rest) ↔ holds piece ∧ All holds rest :=
  List.forall_mem_cons

theorem all_parenthesised (form : FormPieces holds) {fragment : Fragment} :
    All holds fragment.parenthesised ↔ All holds fragment := by
  simp [parenthesised, form.text]

theorem all_grouped (form : FormPieces holds) (group : Bool) {fragment : Fragment} :
    All holds (grouped group fragment) ↔ All holds fragment := by
  cases group with
  | false => rfl
  | true => exact all_parenthesised form

theorem all_separated (form : FormPieces holds) (separator : String) {fragments : List Fragment} :
    All holds (separated separator fragments) ↔ ∀ fragment ∈ fragments, All holds fragment := by
  induction fragments with
  | nil => simp [separated]
  | cons first rest ih =>
    cases rest with
    | nil => simp [separated]
    | cons second others =>
      rw [separated, all_append, all_cons, ih]
      refine Iff.trans ?_ List.forall_mem_cons.symm
      exact and_congr_right fun _ => and_iff_right (form.text separator)

theorem all_call (form : FormPieces holds) (function : String) {arguments : List Fragment} :
    All holds (call function arguments) ↔ ∀ argument ∈ arguments, All holds argument := by
  simp [call, form.text, all_separated form]

end Fragment

/-! ## Forms -/

namespace Form

open Fragment

variable {holds : Piece → Prop} (form : FormPieces holds) {fragment other : Fragment}
  {fragments : List Fragment} {rendered otherRendered : Rendering}

include form

private theorem operand_all (expr : Expr) (inner : rendered.All holds) :
    (operand expr rendered).All holds :=
  inner.bind fun _ all => .ok ((all_grouped form _).mpr all)

private theorem nullTest_all (op : BinaryOp) (operand : Expr) (inner : rendered.All holds) :
    (nullTest op operand rendered).All holds := by
  unfold nullTest
  split
  · exact inner.bind fun _ all => .ok (by simp [all_grouped form, all, form.text])
  · exact .error _

private theorem binary_all (grammar : Grammar) (op : BinaryOp) (left right : Expr)
    (before : rendered.All holds) (after : otherRendered.All holds) :
    (binary grammar op left right rendered otherRendered).All holds := by
  refine before.bind fun _ first => .check fun _ => ?_
  exact after.bind fun _ second => .ok (by simp [all_grouped form, first, second, form.text])

private theorem inList_all (negated : Bool) (expr : Expr) (values : List Value)
    (inner : rendered.All holds) : (inList negated expr values rendered).All holds := by
  unfold inList
  split
  · exact .ok (by simp [form.text])
  · exact (operand_all form expr inner).bind fun _ all =>
      .ok (by simp [all, all_separated form, form.text, form.value])

private theorem inQuery_all (negated : Bool) (expr : Expr) (inner : rendered.All holds)
    (query : otherRendered.All holds) :
    (inQuery negated expr rendered otherRendered).All holds :=
  (operand_all form expr inner).bind fun _ first =>
    query.bind fun _ second => .ok (by simp [first, second, form.text])

private theorem count_all (distinct : Bool) (all : fragment.All holds) :
    (count distinct fragment).All holds := by
  simp [count, all, form.text]

private theorem caseTarget_all {target : Option Fragment} (all : ∀ fragment ∈ target, fragment.All holds) :
    (caseTarget target).All holds := by
  cases target with
  | none => simp [caseTarget, form.text]
  | some fragment => simp [caseTarget, form.text, all fragment rfl]

private theorem branch_all (first : fragment.All holds) (second : other.All holds) :
    (branch fragment other).All holds := by
  simp [branch, first, second, form.text]

private theorem caseEnd_all {otherwise : Option Fragment}
    (all : ∀ fragment ∈ otherwise, fragment.All holds) : (caseEnd otherwise).All holds := by
  cases otherwise with
  | none => simp [caseEnd, form.text]
  | some fragment => simp [caseEnd, form.text, all fragment rfl]

private theorem allColumns_all {position : Position} {element : Element}
    (own : (Site.expr position (.allColumns element)).Fulfils holds) :
    (allColumns element).All holds := by
  cases element with
  | table name => exact .ok (by simp [own.names name List.mem_cons_self, form.text])
  | labelled inner name => exact .ok (by simp [own.names name List.mem_cons_self, form.text])
  | subquery query => exact .error _

/-! ### Clauses -/

private theorem selection_all (all : ∀ fragment ∈ fragments, fragment.All holds) :
    (selection fragments).All holds := by
  unfold selection
  split
  · simp [form.text]
  · exact all_cons.mpr ⟨form.text _, (all_separated form ", ").mpr all⟩

private theorem source_all {element : Except Refusal (Option Fragment)} (hasJoins : Bool)
    (all : Yields (fun element => ∀ fragment ∈ element, Fragment.All holds fragment) element)
    (joins : rendered.All holds) : (source element hasJoins rendered).All holds := by
  refine all.bind fun element inElement => ?_
  cases element with
  | none =>
    cases hasJoins with
    | false => exact .ok all_nil
    | true => exact .error _
  | some fragment =>
    exact joins.bind fun _ inJoins => .ok (by simp [inElement fragment rfl, inJoins, form.text])

private theorem join_all (kind : JoinKind) (first : fragment.All holds) (second : other.All holds) :
    (join kind fragment other).All holds := by
  simp [join, first, second, form.text]

private theorem clause_all (keyword separator : String) (all : ∀ fragment ∈ fragments, fragment.All holds) :
    (clause keyword separator fragments).All holds := by
  unfold clause
  split
  · exact all_nil
  · exact all_cons.mpr ⟨form.text keyword, (all_separated form separator).mpr all⟩

private theorem predicates_all (keyword : String) (exprs : List Expr)
    (all : ∀ fragment ∈ fragments, fragment.All holds) :
    (predicates keyword exprs fragments).All holds := by
  refine clause_all form keyword " AND " fun fragment member => ?_
  obtain ⟨group, part, inParts, rfl⟩ := exists_of_mem_conjuncts member
  exact (all_grouped form group).mpr (all part inParts)

private theorem list_all (keyword : String) (all : ∀ fragment ∈ fragments, fragment.All holds) :
    (list keyword fragments).All holds :=
  clause_all form keyword ", " all

private theorem sortKey_all (key : SortKey) (all : fragment.All holds) :
    (sortKey fragment key).All holds := by
  cases key with
  | nullTest => simp [sortKey, all, form.text]
  | value descending nullsLast =>
    cases descending <;> cases nullsLast <;> simp [sortKey, all, form.text]

private theorem order_all (style : NullOrder) (descending : Bool) (all : fragment.All holds) :
    (order style descending fragment).All holds := by
  refine (all_separated form ", ").mpr fun key member => ?_
  obtain ⟨sort, -, rfl⟩ := List.mem_map.mp member
  exact sortKey_all form sort all

private theorem limit_all (count offset : UInt64) : (limit count offset).All holds := by
  refine .check fun bound => ?_
  split
  · exact .ok (by simp [form.text, form.value])
  · exact .check fun skipped => .ok (by simp [form.text, form.value])

private theorem union_all (grammar : Grammar) (kind : UnionKind) (all : fragment.All holds) :
    (union grammar kind fragment).All holds :=
  all_cons.mpr ⟨form.text _, all⟩

/-! ### Nodes with a syntax of their own -/

private theorem interval_all (unit : TimeUnit) (amount : rendered.All holds) :
    (interval unit rendered).All holds :=
  .check fun _ => amount.bind fun _ all => .ok (by simp [all, form.text])

private theorem extracted_all (word : String) (offset : Int32) (all : fragment.All holds) :
    (extracted word offset fragment).All holds := by
  unfold extracted
  split <;> simp [all, form.text, form.value]

private theorem extractedInterval_all (unit : TimeUnit) (offset : Int32) (date : rendered.All holds) :
    (extractedInterval unit offset rendered).All holds :=
  .check fun _ => date.bind fun _ all => .ok (extracted_all form _ _ all)

private theorem shift_all (direction : DateShift) (date : rendered.All holds)
    (amount : otherRendered.All holds) : (shift direction rendered otherRendered).All holds :=
  date.bind fun _ first => amount.bind fun _ second =>
    .ok ((all_call form _).mpr (by simp [first, second]))

private theorem clockTruncation_all (words : List String) (last : String) (offset : Int32)
    (all : fragment.All holds) : (clockTruncation words last offset fragment).All holds := by
  have day : (call "DATE" [fragment]).All holds :=
    (all_call form _).mpr (List.forall_mem_singleton.mpr all)
  refine (all_parenthesised form).mpr ((all_separated form _).mpr ?_)
  refine List.forall_mem_append.mpr ⟨List.forall_mem_cons.mpr ⟨day, fun part member => ?_⟩, ?_⟩
  · obtain ⟨word, -, rfl⟩ := List.mem_map.mp member
    exact extracted_all form word 0 all
  · exact List.forall_mem_singleton.mpr (extracted_all form last offset all)

private theorem dayTruncation_all (grammar : Grammar) (function : String) (all : fragment.All holds) :
    (dayTruncation grammar function fragment).All holds := by
  have called (name : String) : (call name [fragment]).All holds :=
    (all_call form _).mpr (List.forall_mem_singleton.mpr all)
  refine .check fun minus => shift_all form .earlier (.ok (called "DATE")) ?_
  exact interval_all form .days (.ok (by simp [called, form.text, form.value]))

private theorem truncation_all (grammar : Grammar) (unit : TimeUnit) (offset : Int32)
    (date : rendered.All holds) : (truncation grammar unit offset rendered).All holds := by
  cases unit with
  | seconds | minutes | hours =>
    exact date.bind fun _ all => .ok (clockTruncation_all form _ _ _ all)
  | days =>
    exact date.bind fun _ all => .ok ((all_call form _).mpr (List.forall_mem_singleton.mpr all))
  | weeks | months | years => exact date.bind fun _ all => dayTruncation_all form _ _ all
  | nanos | micros | millis | decades => exact .error _

private theorem groupConcat_all (distinct : Bool) {keys : List Fragment} (separator : String)
    (columns : ∀ fragment ∈ fragments, fragment.All holds)
    (order : ∀ fragment ∈ keys, fragment.All holds) :
    (groupConcat distinct fragments keys separator).All holds := by
  have word : Fragment.All holds (if distinct then [.text "DISTINCT "] else []) := by
    cases distinct <;> simp [form.text]
  have listed := (all_separated form ", ").mpr columns
  have sorted := list_all form " ORDER BY " order
  have ending : Fragment.All holds
      (if separator = "," then [] else [.text " SEPARATOR ", .value (.text separator)]) := by
    split <;> simp [form.text, form.value]
  simp [groupConcat, form.text, word, listed, sorted, ending]

end Form

/-! ## Trees -/

section

-- The theorems of the block need the hypothesis for one another.
set_option linter.unusedSectionVars false

variable {holds : Piece → Prop} (form : FormPieces holds) (grammar : Grammar)

include form

open Form Fragment

mutual

theorem Expr.render_all :
    (expr : Expr) → (position : Position) →
      (∀ site ∈ expr.sites 1 position, site.Fulfils holds) →
      (expr.render grammar position).All holds
  | .literal value, _, _ => .ok (by simp [form.value])
  | .named name, _, own => .ok (by
      have named := (List.forall_mem_cons.mp own).1.names name List.mem_cons_self
      simp [named])
  | .binary op left right, _, own => by
    obtain ⟨inLeft, inRight⟩ := List.forall_mem_append.mp (List.forall_mem_cons.mp own).2
    have before := left.render_all .inner inLeft
    have after := right.render_all .inner inRight
    rw [Expr.render]
    split
    · exact nullTest_all form op left before
    · split
      · exact nullTest_all form op right after
      · exact binary_all form grammar op left right before after
  | .not operand, _, own => by
    have inside := operand.render_all .inner (List.forall_mem_cons.mp own).2
    exact (operand_all form operand inside).bind fun _ all => .ok (by simp [all, form.text])
  | .isNull _ operand, _, own => by
    have inside := operand.render_all .inner (List.forall_mem_cons.mp own).2
    exact (operand_all form operand inside).bind fun _ all => .ok (by simp [all, form.text])
  | .inList negated operand values, _, own => by
    rw [Expr.render]
    by_cases none : values = []
    · rw [none]
      exact .ok (by simp [form.text])
    · have inside := (List.forall_mem_cons.mp own).2
      rw [if_neg (by simpa using none)] at inside
      exact inList_all form negated operand values
        (operand.render_all .inner (List.forall_mem_append.mp inside).1)
  | .inQuery negated operand query, _, own => by
    obtain ⟨inOperand, inRows⟩ := List.forall_mem_append.mp (List.forall_mem_cons.mp own).2
    exact inQuery_all form negated operand (operand.render_all .inner inOperand)
      (query.render_all inRows)
  | .call function arguments, _, own =>
    (Expr.renderAll_all arguments .inner (List.forall_mem_cons.mp own).2).bind fun _ all =>
      .ok ((all_call form function).mpr all)
  | .countAll distinct, _, _ => .ok (count_all form distinct (by simp [form.text]))
  | .count distinct operand, _, own =>
    (operand.render_all .inner (List.forall_mem_cons.mp own).2).bind fun _ all =>
      .ok (count_all form distinct all)
  | .case target branches otherwise, _, own => by
    obtain ⟨inTarget, others⟩ := List.forall_mem_append.mp (List.forall_mem_cons.mp own).2
    obtain ⟨inBranches, inOtherwise⟩ := List.forall_mem_append.mp others
    refine (Expr.renderOption_all target inTarget).bind fun _ first => ?_
    refine (Branch.renderAll_all branches inBranches).bind fun _ second => ?_
    refine (Expr.renderOption_all otherwise inOtherwise).bind fun _ third => .ok ?_
    simp [caseTarget_all form first, second, caseEnd_all form third]
  | .subquery query, _, own =>
    (query.render_all (List.forall_mem_cons.mp own).2).bind fun _ all =>
      .ok ((all_parenthesised form).mpr all)
  | .alias expr name, .entry, own => by
    obtain ⟨declared, inExpr⟩ := List.forall_mem_cons.mp own
    have named := declared.names name List.mem_cons_self
    exact (expr.render_all .inner inExpr).bind fun _ all =>
      .ok (by simp [all, named, form.text])
  | .alias expr name, .inner, own => .ok (by
      have named := (List.forall_mem_cons.mp own).1.names name List.mem_cons_self
      simp [named])
  | .allColumns element, .entry, own => allColumns_all form (List.forall_mem_cons.mp own).1
  | .allColumns element, .inner, _ => .error _
  | .extension node, _, own => node.render_all (List.forall_mem_cons.mp own).2

theorem Expr.renderAll_all :
    (exprs : List Expr) → (position : Position) →
      (∀ site ∈ Expr.sitesOfAll 1 position exprs, site.Fulfils holds) →
      Yields (fun fragments => ∀ fragment ∈ fragments, Fragment.All holds fragment)
        (Expr.renderAll grammar position exprs)
  | [], _, _ => .ok nofun
  | expr :: rest, position, own => by
    obtain ⟨inExpr, inRest⟩ := List.forall_mem_append.mp own
    exact (expr.render_all position inExpr).bind fun _ first =>
      (Expr.renderAll_all rest position inRest).bind fun _ others =>
        .ok (List.forall_mem_cons.mpr ⟨first, others⟩)

theorem Expr.renderOption_all :
    (expr : Option Expr) → (∀ site ∈ Expr.sitesOfOption 1 expr, site.Fulfils holds) →
      Yields (fun rendered => ∀ fragment ∈ rendered, Fragment.All holds fragment)
        (Expr.renderOption grammar expr)
  | none, _ => .ok nofun
  | some expr, own =>
    (expr.render_all .inner own).bind fun _ all => .ok fun _ given => by
      cases given
      exact all

theorem Branch.renderAll_all :
    (branches : List Branch) → (∀ site ∈ Branch.sitesOfAll 1 branches, site.Fulfils holds) →
      (Branch.renderAll grammar branches).All holds
  | [], _ => .ok all_nil
  | ⟨condition, result⟩ :: rest, own => by
    obtain ⟨inCondition, others⟩ := List.forall_mem_append.mp own
    obtain ⟨inResult, inRest⟩ := List.forall_mem_append.mp others
    refine (condition.render_all .inner inCondition).bind fun _ first => ?_
    refine (result.render_all .inner inResult).bind fun _ second => ?_
    exact (Branch.renderAll_all rest inRest).bind fun _ last =>
      .ok (all_append.mpr ⟨branch_all form first second, last⟩)

theorem Element.render_all :
    (element : Element) → (∀ name ∈ element.names, holds (.name name)) →
      (∀ site ∈ element.sites 1, site.Fulfils holds) → (element.render grammar).All holds
  | .table name, named, _ => .ok (by simp [named name List.mem_cons_self])
  | .labelled element label, named, own => by
    obtain ⟨inner, last⟩ := List.forall_mem_append.mp named
    have labelled := last label List.mem_cons_self
    exact (element.render_all inner own).bind fun _ all =>
      .ok (by simp [all, labelled, form.text])
  | .subquery query, _, own =>
    (query.render_all own).bind fun _ all => .ok ((all_parenthesised form).mpr all)

theorem Element.renderOption_all :
    (element : Option Element) →
      (∀ name ∈ element.toList.flatMap Element.names, holds (.name name)) →
      (∀ site ∈ Element.sitesOfOption 1 element, site.Fulfils holds) →
      Yields (fun rendered => ∀ fragment ∈ rendered, Fragment.All holds fragment)
        (Element.renderOption grammar element)
  | none, _, _ => .ok nofun
  | some element, named, own => by
    have inElement : ∀ name ∈ element.names, holds (.name name) := by simpa using named
    exact (element.render_all inElement own).bind fun _ all => .ok fun _ given => by
      cases given
      exact all

theorem Join.renderAll_all :
    (joins : List Join) →
      (∀ name ∈ (joins.map Join.element).flatMap Element.names, holds (.name name)) →
      (∀ site ∈ Join.sitesOfAll 1 joins, site.Fulfils holds) →
      (Join.renderAll grammar joins).All holds
  | [], _, _ => .ok all_nil
  | ⟨kind, element, condition⟩ :: rest, named, own => by
    obtain ⟨ownNames, otherNames⟩ := List.forall_mem_append.mp named
    obtain ⟨inElement, others⟩ := List.forall_mem_append.mp own
    obtain ⟨inCondition, inRest⟩ := List.forall_mem_append.mp others
    refine (element.render_all ownNames inElement).bind fun _ first => ?_
    refine (condition.render_all .inner inCondition).bind fun _ second => ?_
    exact (Join.renderAll_all rest otherNames inRest).bind fun _ last =>
      .ok (all_append.mpr ⟨join_all form kind first second, last⟩)

theorem Order.renderAll_all (style : NullOrder) :
    (order : List Order) → (∀ site ∈ Order.sitesOfAll 1 1 order, site.Fulfils holds) →
      Yields (fun fragments => ∀ fragment ∈ fragments, Fragment.All holds fragment)
        (Order.renderAll grammar style order)
  | [], _ => .ok nofun
  | ⟨expr, descending⟩ :: rest, own => by
    obtain ⟨inKey, inRest⟩ := List.forall_mem_append.mp own
    have inExpr (site : Site) (member : site ∈ expr.sites 1 .inner) : site.Fulfils holds :=
      inKey site ((Site.mem_repeated Nat.one_pos).mpr member)
    exact (expr.render_all .inner inExpr).bind fun _ all =>
      (Order.renderAll_all style rest inRest).bind fun _ others =>
        .ok (List.forall_mem_cons.mpr ⟨order_all form style descending all, others⟩)

theorem Modifier.renderAll_all :
    (modifiers : List Modifier) →
      (∀ site ∈ Modifier.sitesOfAll 1 modifiers, site.Fulfils holds) →
      (Modifier.renderAll grammar modifiers).All holds
  | [], _ => .ok all_nil
  | .limit count offset :: rest, own =>
    (limit_all form count offset).bind fun _ first =>
      (Modifier.renderAll_all rest (List.forall_mem_cons.mp own).2).bind fun _ last =>
        .ok (all_append.mpr ⟨first, last⟩)
  | .extension node :: rest, own => by
    obtain ⟨inNode, inRest⟩ := List.forall_mem_append.mp own
    exact (node.render_all inNode).bind fun _ first =>
      (Modifier.renderAll_all rest inRest).bind fun _ last => .ok (all_append.mpr ⟨first, last⟩)

theorem Union.renderAll_all :
    (unions : List Union) → (∀ site ∈ Union.sitesOfAll 1 unions, site.Fulfils holds) →
      (Union.renderAll grammar unions).All holds
  | [], _ => .ok all_nil
  | ⟨kind, query⟩ :: rest, own => by
    obtain ⟨inQuery, inRest⟩ := List.forall_mem_append.mp own
    exact (query.render_all inQuery).bind fun _ first =>
      (Union.renderAll_all rest inRest).bind fun _ last =>
        .ok (all_append.mpr ⟨union_all form grammar kind first, last⟩)

theorem Query.render_all :
    (query : Query) → (∀ site ∈ query.sites 1, site.Fulfils holds) →
      (query.render grammar).All holds
  | ⟨selection, source, joins, filter, grouping, having, order, modifiers, unions⟩, own => by
    have parts := Query.sitesFulfil own
    have named := parts.own.names
    rw [Site.names, List.flatMap_append] at named
    obtain ⟨sourceNames, joinNames⟩ := List.forall_mem_append.mp named
    refine (Expr.renderAll_all selection .entry parts.selection).bind fun _ first => ?_
    refine (source_all form (!joins.isEmpty)
      (Element.renderOption_all source sourceNames parts.source)
      (Join.renderAll_all joins joinNames parts.joins)).bind fun _ second => ?_
    refine (Expr.renderAll_all filter .inner parts.filter).bind fun _ third => ?_
    refine (Expr.renderAll_all grouping .inner parts.grouping).bind fun _ fourth => ?_
    refine (Expr.renderAll_all having .inner parts.having).bind fun _ fifth => ?_
    refine (Order.renderAll_all grammar.nullOrder order parts.order).bind fun _ sixth => ?_
    refine (Modifier.renderAll_all modifiers parts.modifiers).bind fun _ seventh => ?_
    refine (Union.renderAll_all unions parts.unions).bind fun _ eighth => .ok ?_
    simp only [all_append]
    exact ⟨⟨⟨⟨⟨⟨⟨selection_all form first, second⟩, predicates_all form _ filter third⟩,
      list_all form _ fourth⟩, predicates_all form _ having fifth⟩, list_all form _ sixth⟩,
      seventh⟩, eighth⟩

theorem Extension.render_all :
    (node : Extension) → (∀ site ∈ node.sites 1, site.Fulfils holds) →
      (node.render grammar).All holds
  | .interval amount unit, own =>
    interval_all form unit (amount.render_all .inner (List.forall_mem_cons.mp own).2)
  | .extractedInterval date unit offset, own => by
    have inDate := (List.forall_mem_append.mp (List.forall_mem_cons.mp own).2).1
    exact extractedInterval_all form unit offset (date.render_all .inner inDate)
  | .shift direction date amount unit, own => by
    obtain ⟨inDate, inAmount⟩ := List.forall_mem_append.mp (List.forall_mem_cons.mp own).2
    exact shift_all form direction (date.render_all .inner inDate)
      (interval_all form unit (amount.render_all .inner inAmount))
  | .truncate date unit offset, own => by
    have dates : 0 < Site.truncationDates unit := by cases unit <;> decide
    have inDates := (List.forall_mem_append.mp (List.forall_mem_cons.mp own).2).1
    have inDate (site : Site) (member : site ∈ date.sites 1 .inner) : site.Fulfils holds :=
      inDates site ((Site.mem_repeated dates).mpr member)
    exact truncation_all form grammar unit offset (date.render_all .inner inDate)
  | .groupConcat distinct columns order separator, own => by
    obtain ⟨inColumns, others⟩ := List.forall_mem_append.mp (List.forall_mem_cons.mp own).2
    obtain ⟨inOrder, -⟩ := List.forall_mem_append.mp others
    exact (Expr.renderAll_all columns .inner inColumns).bind fun _ first =>
      (Order.renderAll_all .unstated order inOrder).bind fun _ second =>
        .ok (groupConcat_all form distinct separator first second)
  | .custom parts, own => by
    obtain ⟨node, inParts⟩ := List.forall_mem_cons.mp own
    exact Part.renderAll_all (node.custom parts rfl) parts inParts

theorem Part.renderAll_all (named : holds .dialectName) :
    (parts : List Part) → (∀ site ∈ Part.sitesOfAll 1 parts, site.Fulfils holds) →
      (Part.renderAll grammar parts).All holds
  | [], _ => .ok all_nil
  | .expr expr :: rest, own => by
    obtain ⟨inExpr, inRest⟩ := List.forall_mem_append.mp own
    exact (expr.render_all .inner inExpr).bind fun _ first =>
      (Part.renderAll_all named rest inRest).bind fun _ last =>
        .ok (all_append.mpr ⟨first, last⟩)
  | .text text :: rest, own =>
    (Part.renderAll_all named rest (List.forall_mem_cons.mp own).2).bind fun _ all =>
      .ok (all_cons.mpr ⟨form.text text, all⟩)
  | .literal value :: rest, own =>
    (Part.renderAll_all named rest (List.forall_mem_cons.mp own).2).bind fun _ all =>
      .ok (all_cons.mpr ⟨form.value value, all⟩)
  | .argument value :: rest, own =>
    (Part.renderAll_all named rest (List.forall_mem_cons.mp own).2).bind fun _ all =>
      .ok (all_cons.mpr ⟨form.argument value, all⟩)
  | .dialectName :: rest, own =>
    (Part.renderAll_all named rest (List.forall_mem_cons.mp own).2).bind fun _ all =>
      .ok (all_cons.mpr ⟨named, all⟩)
  | .unsupported _ :: _, _ => .error _

end

/-! ## Statements -/

private theorem Query.clauses_all {query : Query}
    (own : ∀ site ∈ query.clauseSites 1, site.Fulfils holds) :
    (clauses grammar query).All holds := by
  intro fragment given
  have whole := Query.render_all form grammar { query with selection := [] } own
  have rendered : ({ query with selection := [] } : Query).render grammar =
      .ok (Form.selection [] ++ fragment) := by
    rw [render_unselected, given]
    rfl
  exact (all_append.mp (whole _ rendered)).2

private theorem Form.assignedColumn_all (table : Name) {column : Name}
    (named : holds (.name (.identifier column.id))) :
    (assignedColumn table column).All holds := by
  unfold assignedColumn
  split
  · exact .ok (by simp [named])
  · exact .error _

theorem Statement.render_all {statement : Statement}
    (named : ∀ name ∈ statement.ownNames, holds (.name name))
    (own : ∀ site ∈ statement.sites 1, site.Fulfils holds) :
    (statement.render grammar).All holds := by
  cases statement with
  | query selected => exact selected.render_all form grammar own
  | insert inserted =>
    obtain ⟨table, columns⟩ := List.forall_mem_cons.mp named
    rw [Statement.render, Insert.render]
    split
    · exact .ok (by simp [table, form.text])
    · have assigned : Yields (fun fragments => ∀ fragment ∈ fragments, Fragment.All holds fragment)
          (inserted.assignments.columns.mapM (assignedColumn inserted.table)) :=
        Yields.mapM fun column member =>
          assignedColumn_all form _ (columns _ (List.mem_map_of_mem member))
      have values : ∀ fragment ∈ inserted.assignments.map fun entry => [Piece.value entry.2],
          Fragment.All holds fragment := by
        intro fragment member
        obtain ⟨entry, -, rfl⟩ := List.mem_map.mp member
        exact all_cons.mpr ⟨form.value entry.2, all_nil⟩
      refine assigned.bind fun _ all => .ok ?_
      simp [table, (all_separated form ", ").mpr all, (all_separated form ", ").mpr values,
        form.text]
  | insertQuery inserted =>
    have table := named _ List.mem_cons_self
    exact (inserted.query.render_all form grammar own).bind fun _ all =>
      .ok (by simp [table, all, form.text])
  | update change =>
    obtain ⟨table, columns⟩ := List.forall_mem_cons.mp named
    obtain ⟨inAssignments, inRows⟩ := List.forall_mem_append.mp own
    have assigned : Yields (fun fragments => ∀ fragment ∈ fragments, Fragment.All holds fragment)
        (change.assignments.mapM (Update.renderAssignment grammar change.table)) := by
      refine Yields.mapM fun entry member => ?_
      have inExpr (site : Site) (inSites : site ∈ entry.2.sites 1 .inner) : site.Fulfils holds :=
        inAssignments site (List.mem_flatMap.mpr ⟨entry, member, inSites⟩)
      have inColumns : entry.1 ∈ change.assignments.columns := List.mem_map_of_mem member
      have column := assignedColumn_all form change.table
        (columns _ (List.mem_map_of_mem inColumns))
      exact column.bind fun _ first => (entry.2.render_all form grammar .inner inExpr).bind
        fun _ second => .ok (by simp [first, second, form.text])
    rw [Statement.render, Update.render]
    split
    · exact .error _
    · exact .check fun _ => assigned.bind fun _ first =>
        (Query.clauses_all form grammar inRows).bind fun _ second =>
          .ok (by simp [table, (all_separated form ", ").mpr first, second, form.text])
  | delete deletion =>
    have table := named _ List.mem_cons_self
    exact .check fun _ => (Query.clauses_all form grammar own).bind fun _ all =>
      .ok (by simp [table, all, form.text])

end

end SqlTree
