import SqlTree.Proofs.Override
import SqlTree.Proofs.Truncation

/-! # Refused operators

A dialect that refuses some operators refuses a statement exactly if one of them is written in it,
and compiles all other statements as before (`compile_refusing_iff`). For this, all of a statement
that is written has to be rendered, however deep it lies.
-/

namespace SqlTree

/-! ## What a rendering requires

A tree is rendered only if all of it is: a refusal anywhere in a part that would be written is the
refusal of the whole. If a statement is rendered, every expression, query and node among its sites
therefore has a rendering of its own (`Statement.requires`).
-/

section

/-- The expression, query or node of the site has a rendering of its own. -/
def Site.Rendered (grammar : Grammar) : Site → Prop
  | .expr position tree => ∃ fragment, tree.render grammar position = .ok fragment
  | .query rows => ∃ fragment, rows.render grammar = .ok fragment
  | .extension node => ∃ fragment, node.render grammar = .ok fragment
  | _ => True

/-- There is no result unless the sites are rendered. -/
def Requires {α : Type} (grammar : Grammar) (sites : List Site) (result : Except Refusal α) :
    Prop :=
  ∀ value, result = .ok value → ∀ site ∈ sites, site.Rendered grammar

namespace Requires

variable {α β : Type} {grammar : Grammar} {sites more : List Site} {site : Site}
  {result : Except Refusal α} {rest : α → Except Refusal β}

theorem nothing : Requires grammar [] result :=
  fun _ _ => nofun

/-- Values are rendered anyway. -/
theorem values {γ : Type} (members : List γ) (value : γ → Value) :
    Requires grammar (members.map fun member => .value (value member)) result := by
  intro _ _ site member
  obtain ⟨entry, -, rfl⟩ := List.mem_map.mp member
  trivial

/-- Settings are rendered anyway. -/
theorem settings (all : ∀ site ∈ sites, ∃ value, site = .setting value) :
    Requires grammar sites result := by
  intro _ _ site member
  obtain ⟨value, rfl⟩ := all site member
  trivial

theorem refused (refusal : Refusal) : Requires grammar sites (.error refusal : Except Refusal α) :=
  nofun

/-- A part without which there is no whole. -/
theorem part {whole : Except Refusal β} (inner : Requires grammar sites result)
    (needed : ∀ value, whole = .ok value → ∃ first, result = .ok first) :
    Requires grammar sites whole := by
  intro value given
  obtain ⟨first, isOk⟩ := needed value given
  exact inner first isOk

theorem append (first : Requires grammar sites result) (second : Requires grammar more result) :
    Requires grammar (sites ++ more) result := by
  intro value given site member
  rcases List.mem_append.mp member with inFirst | inSecond
  · exact first value given site inFirst
  · exact second value given site inSecond

/-- Sites of two parts, of which the second is looked at after the first. -/
theorem bind (first : Requires grammar sites result)
    (second : ∀ value, result = .ok value → Requires grammar more (rest value)) :
    Requires grammar (sites ++ more) (result >>= rest) := by
  intro value given site member
  obtain ⟨before, isOk, last⟩ := bind_eq_ok.mp given
  rcases List.mem_append.mp member with inFirst | inSecond
  · exact first before isOk site inFirst
  · exact second before isOk value last site inSecond

/-- Sites of the first part, after which there are no others. -/
theorem before (first : Requires grammar sites result) :
    Requires grammar sites (result >>= rest) := by
  intro value given
  obtain ⟨before, isOk, -⟩ := bind_eq_ok.mp given
  exact first before isOk

/-- Sites of what follows a part without any. -/
theorem after (second : ∀ value, Requires grammar sites (rest value)) :
    Requires grammar sites (result >>= rest) := by
  intro value given
  obtain ⟨before, -, last⟩ := bind_eq_ok.mp given
  exact second before value last

/-- The site of a tree and the sites of its parts. -/
theorem node (own : ∀ value, result = .ok value → site.Rendered grammar)
    (inner : Requires grammar sites result) : Requires grammar (site :: sites) result := by
  intro value given other member
  rcases List.mem_cons.mp member with rfl | inside
  · exact own value given
  · exact inner value given other inside

theorem expr {position : Position} {tree : Expr}
    (inner : Requires grammar sites (tree.render grammar position)) :
    Requires grammar (.expr position tree :: sites) (tree.render grammar position) :=
  node (fun fragment given => ⟨fragment, given⟩) inner

theorem extension {tree : Extension} (inner : Requires grammar sites (tree.render grammar)) :
    Requires grammar (.extension tree :: sites) (tree.render grammar) :=
  node (fun fragment given => ⟨fragment, given⟩) inner

theorem repeated (times : Nat) (inner : Requires grammar sites result) :
    Requires grammar (Site.repeated times sites) result := by
  intro value given site member
  obtain ⟨_, among, inside⟩ := List.mem_flatten.mp member
  rw [List.eq_of_mem_replicate among] at inside
  exact inner value given site inside

theorem mapM {γ : Type} {step : γ → Except Refusal α} {part : γ → List Site} {members : List γ}
    (each : ∀ member ∈ members, Requires grammar (part member) (step member)) :
    Requires grammar (members.flatMap part) (members.mapM step) := by
  induction members with
  | nil => exact nothing
  | cons first rest ih =>
    obtain ⟨own, others⟩ := List.forall_mem_cons.mp each
    rw [List.mapM_cons, List.flatMap_cons]
    exact own.bind fun _ _ => (ih others).before

end Requires

namespace Form

variable {grammar : Grammar} {sites more : List Site} {rendered other : Rendering}

private theorem nullTest_requires (op : BinaryOp) (expr : Expr) (inner : Requires grammar sites rendered) :
    Requires grammar sites (nullTest op expr rendered) := by
  unfold nullTest
  split
  · exact inner.before
  · exact .refused _

/-- Both operands are rendered, whatever they are separated by. -/
private theorem binary_requires (op : BinaryOp) (left right : Expr)
    (before : Requires grammar sites rendered) (after : Requires grammar more other) :
    Requires grammar (sites ++ more) (binary grammar op left right rendered other) :=
  before.bind fun _ _ => .after fun _ => after.before

/-- The operand of a membership test in the empty list is not looked at. -/
private theorem inList_requires (negated : Bool) (expr : Expr) (values : List Value)
    (inner : Requires grammar sites rendered) :
    Requires grammar (if values.isEmpty then [] else sites ++ values.map .value)
      (inList negated expr values rendered) := by
  unfold inList
  split
  · exact .nothing
  · exact (inner.before.append (.values values id)).before

/-- Joins are written only behind a source, and refused if there are some without one. -/
private theorem source_requires {source : Except Refusal (Option Fragment)} {joins : List Join}
    (first : Requires grammar sites source)
    (second : Requires grammar (Join.sitesOfAll 1 joins) rendered) :
    Requires grammar (sites ++ Join.sitesOfAll 1 joins)
      (Form.source source (!joins.isEmpty) rendered) := by
  refine first.bind fun element _ => ?_
  cases element with
  | some fragment => exact second.before
  | none =>
    cases joins with
    | nil => exact .nothing
    | cons join rest => exact .refused _

private theorem interval_requires (unit : TimeUnit) (inner : Requires grammar sites rendered) :
    Requires grammar sites (interval unit rendered) :=
  .after fun _ => inner.before

private theorem extractedInterval_requires (unit : TimeUnit) (offset : Int32)
    (inner : Requires grammar sites rendered) :
    Requires grammar sites (extractedInterval unit offset rendered) :=
  .after fun _ => inner.before

/-- The start of a unit needs the date, which is looked at once for all its places. -/
private theorem truncation_requires (unit : TimeUnit) (offset : Int32)
    (inner : Requires grammar sites rendered) :
    Requires grammar sites (truncation grammar unit offset rendered) := by
  cases unit with
  | nanos | micros | millis | decades => exact .refused _
  | _ => exact inner.before

end Form

open Form

section

variable {grammar : Grammar}

mutual

theorem Expr.requires :
    (expr : Expr) → (position : Position) →
      Requires grammar (expr.sites 1 position) (expr.render grammar position)
  | .literal value, _ =>
    .expr (.values [value] id)
  | .named _, _ => .expr .nothing
  | .binary op left right, _ => by
    refine .expr ?_
    have before := left.requires .inner
    have after := right.requires .inner
    rw [Expr.render]
    split
    · rename_i null
      have literal : right.render grammar .inner = .ok [.value .null] := by
        rw [Expr.eq_of_isNullLiteral null]
        rfl
      exact (nullTest_requires op left before).append (after.part fun _ _ => ⟨_, literal⟩)
    · split
      · rename_i null
        have literal : left.render grammar .inner = .ok [.value .null] := by
          rw [Expr.eq_of_isNullLiteral null]
          rfl
        have tested := nullTest_requires op right after
        exact Requires.append (before.part fun _ _ => ⟨_, literal⟩) tested
      · exact binary_requires op left right before after
  | .not operand, _ => .expr (operand.requires .inner).before.before
  | .isNull _ operand, _ => .expr (operand.requires .inner).before.before
  | .inList negated operand values, _ =>
    .expr (inList_requires negated operand values (operand.requires .inner))
  | .inQuery _ operand query, _ =>
    .expr ((operand.requires .inner).before.bind fun _ _ => query.requires.before)
  | .call _ arguments, _ => .expr (Expr.requiresAll arguments .inner).before
  | .countAll _, _ => .expr .nothing
  | .count _ operand, _ => .expr (operand.requires .inner).before
  | .case target branches otherwise, _ => by
    refine .expr ?_
    refine (Expr.requiresOption target).bind fun _ _ => ?_
    exact (Branch.requiresAll branches).bind fun _ _ => (Expr.requiresOption otherwise).before
  | .subquery query, _ => .expr query.requires.before
  | .alias expr _, .entry => .expr (expr.requires .inner).before
  | .alias _ _, .inner => .expr .nothing
  | .allColumns _, _ => .expr .nothing
  | .extension node, _ => .expr node.requires

theorem Expr.requiresAll :
    (exprs : List Expr) → (position : Position) →
      Requires grammar (Expr.sitesOfAll 1 position exprs) (Expr.renderAll grammar position exprs)
  | [], _ => .nothing
  | expr :: rest, position =>
    (expr.requires position).bind fun _ _ => (Expr.requiresAll rest position).before

theorem Expr.requiresOption :
    (expr : Option Expr) →
      Requires grammar (Expr.sitesOfOption 1 expr) (Expr.renderOption grammar expr)
  | none => .nothing
  | some expr => (expr.requires .inner).before

theorem Branch.requiresAll :
    (branches : List Branch) →
      Requires grammar (Branch.sitesOfAll 1 branches) (Branch.renderAll grammar branches)
  | [] => .nothing
  | ⟨condition, result⟩ :: rest => by
    refine (condition.requires .inner).bind fun _ _ => ?_
    exact (result.requires .inner).bind fun _ _ => (Branch.requiresAll rest).before

theorem Element.requires :
    (element : Element) → Requires grammar (element.sites 1) (element.render grammar)
  | .table _ => .nothing
  | .labelled element _ => element.requires.before
  | .subquery query => query.requires.before

theorem Element.requiresOption :
    (element : Option Element) →
      Requires grammar (Element.sitesOfOption 1 element) (Element.renderOption grammar element)
  | none => .nothing
  | some element => element.requires.before

theorem Join.requiresAll :
    (joins : List Join) → Requires grammar (Join.sitesOfAll 1 joins) (Join.renderAll grammar joins)
  | [] => .nothing
  | ⟨_, element, condition⟩ :: rest => by
    refine element.requires.bind fun _ _ => ?_
    exact (condition.requires .inner).bind fun _ _ => (Join.requiresAll rest).before

theorem Order.requiresAll (style : NullOrder) :
    (order : List Order) →
      Requires grammar (Order.sitesOfAll 1 1 order) (Order.renderAll grammar style order)
  | [] => .nothing
  | ⟨expr, _⟩ :: rest =>
    ((expr.requires .inner).repeated 1).bind fun _ _ => (Order.requiresAll style rest).before

theorem Modifier.requiresAll :
    (modifiers : List Modifier) →
      Requires grammar (Modifier.sitesOfAll 1 modifiers) (Modifier.renderAll grammar modifiers)
  | [] => .nothing
  | .limit _ _ :: rest =>
    .node (fun _ _ => trivial) (.after fun _ => (Modifier.requiresAll rest).before)
  | .extension node :: rest => node.requires.bind fun _ _ => (Modifier.requiresAll rest).before

theorem Union.requiresAll :
    (unions : List Union) →
      Requires grammar (Union.sitesOfAll 1 unions) (Union.renderAll grammar unions)
  | [] => .nothing
  | ⟨_, query⟩ :: rest => query.requires.bind fun _ _ => (Union.requiresAll rest).before

theorem Query.requires :
    (query : Query) → Requires grammar (query.sites 1) (query.render grammar)
  | ⟨selection, source, joins, filter, grouping, having, order, modifiers, unions⟩ => by
    refine .node (fun _ given => ⟨_, given⟩) ?_
    refine (Expr.requiresAll selection .entry).bind fun _ _ => ?_
    refine (source_requires (Element.requiresOption source) (Join.requiresAll joins)).bind
      fun _ _ => ?_
    refine (Expr.requiresAll filter .inner).bind fun _ _ => ?_
    refine (Expr.requiresAll grouping .inner).bind fun _ _ => ?_
    refine (Expr.requiresAll having .inner).bind fun _ _ => ?_
    refine (Order.requiresAll grammar.nullOrder order).bind fun _ _ => ?_
    exact (Modifier.requiresAll modifiers).bind fun _ _ => (Union.requiresAll unions).before

theorem Extension.requires :
    (node : Extension) → Requires grammar (node.sites 1) (node.render grammar)
  | .interval amount unit =>
    .extension (interval_requires unit (amount.requires .inner))
  | .extractedInterval date unit offset => by
    refine .extension ?_
    exact (extractedInterval_requires unit offset (date.requires .inner)).append
      (.settings (Site.exists_setting_of_mem_ite _))
  | .shift _ date amount unit => by
    have moved := interval_requires unit (amount.requires .inner)
    exact .extension ((date.requires .inner).bind fun _ _ => moved.before)
  | .truncate date unit offset => by
    refine .extension ?_
    exact (truncation_requires unit offset ((date.requires .inner).repeated _)).append
      (.settings (Site.exists_setting_of_mem_truncationConstant offset unit))
  | .groupConcat _ columns order _ => by
    refine .extension ?_
    refine (Expr.requiresAll columns .inner).bind fun _ _ => ?_
    exact ((Order.requiresAll .unstated order).append
      (.settings (Site.exists_setting_of_mem_ite _))).before
  | .custom parts => .extension (Part.requiresAll parts)

theorem Part.requiresAll :
    (parts : List Part) → Requires grammar (Part.sitesOfAll 1 parts) (Part.renderAll grammar parts)
  | [] => .nothing
  | .text _ :: rest => .node (fun _ _ => trivial) (Part.requiresAll rest).before
  | .expr expr :: rest =>
    (expr.requires .inner).bind fun _ _ => (Part.requiresAll rest).before
  | .literal _ :: rest => .node (fun _ _ => trivial) (Part.requiresAll rest).before
  | .argument _ :: rest => .node (fun _ _ => trivial) (Part.requiresAll rest).before
  | .dialectName :: rest => .node (fun _ _ => trivial) (Part.requiresAll rest).before
  | .unsupported _ :: _ => .refused _

end

end

/-! ### Statements -/

private theorem Query.requires_clauses (grammar : Grammar) (query : Query) :
    Requires grammar (query.clauseSites 1) (clauses grammar query) := by
  refine (Query.requires { query with selection := [] }).part fun rest given => ?_
  rw [render_unselected, given]
  exact ⟨_, rfl⟩

/-- A statement is rendered only if every site of it is. -/
theorem Statement.requires (grammar : Grammar) (statement : Statement) :
    Requires grammar (statement.sites 1) (statement.render grammar) := by
  cases statement with
  | query selected => exact selected.requires
  | insert inserted => exact .values inserted.assignments Prod.snd
  | insertQuery inserted => exact inserted.query.requires.before
  | update change =>
    rw [Statement.render, Update.render]
    split
    · exact .refused _
    · have assigned : Requires grammar
          (change.assignments.flatMap fun entry => entry.2.sites 1 .inner)
          (change.assignments.mapM (Update.renderAssignment grammar change.table)) :=
        .mapM fun entry _ => .after fun _ => (entry.2.requires .inner).before
      exact .after fun _ => assigned.bind fun _ _ => (change.rows.requires_clauses grammar).before
  | delete deletion => exact .after fun _ => (deletion.rows.requires_clauses grammar).before

end

/-! ## Written operators

An operator is written wherever a binary expression is, in the tree itself or in the expression that
a truncation stands for (`Statement.Writes`). Comparisons with NULL are written as tests and have no
operator, and the AND between the predicates of a clause belongs to the clause.
-/

/-- The expression is written in the statement: it is a site of the statement, or of the start of a
unit that a truncation of the statement stands for. -/
def Statement.Writes (statement : Statement) (written : Expr) : Prop :=
  (∃ position, .expr position written ∈ statement.sites 1) ∨
    ∃ date unit offset start, .extension (.truncate date unit offset) ∈ statement.sites 1 ∧
      date.start? offset unit = some start ∧
        ∃ position, .expr position written ∈ start.sites 1 .inner

def Statement.WritesOperator (statement : Statement) (op : BinaryOp) : Prop :=
  ∃ left right, statement.Writes (.binary op left right) ∧
    left.isNullLiteral = false ∧ right.isNullLiteral = false

/-- A dialect like this one that refuses some operators. -/
def Dialect.refusing (dialect : Dialect) (denied : List BinaryOp) : Dialect :=
  { dialect with grammar := dialect.grammar.refusing denied }

variable {grammar : Grammar} {denied : List BinaryOp} {statement : Statement}

/-- Where an operator is not refused, it is spelled as before. -/
private theorem Grammar.refusing_operator? {op : BinaryOp} (admitted : op ∉ denied) :
    (grammar.refusing denied).operator? op = grammar.operator? op :=
  if_neg admitted

/-- A binary expression without NULL is rendered only if its operator is not refused. -/
private theorem not_mem_of_rendered_binary {op : BinaryOp} {left right : Expr} {position : Position}
    (rendered : (Site.expr position (.binary op left right)).Rendered (grammar.refusing denied))
    (leftPresent : left.isNullLiteral = false) (rightPresent : right.isNullLiteral = false) :
    op ∉ denied := by
  intro member
  obtain ⟨fragment, given⟩ := rendered
  rw [Expr.render, if_neg (by simp [rightPresent]), if_neg (by simp [leftPresent])] at given
  obtain ⟨before, -, others⟩ := bind_eq_ok.mp given
  obtain ⟨text, spelled, -⟩ := bind_eq_ok.mp others
  have refused : (grammar.refusing denied).operator? op = none := if_pos member
  rw [Form.operator, refused] at spelled
  cases spelled

/-- A rendered statement writes no operator that is refused. -/
private theorem Statement.not_mem_of_render_refusing {fragment : Fragment}
    (rendered : statement.render (grammar.refusing denied) = .ok fragment) {op : BinaryOp}
    (writes : statement.WritesOperator op) : op ∉ denied := by
  obtain ⟨left, right, written, leftPresent, rightPresent⟩ := writes
  have sites := statement.requires (grammar.refusing denied) fragment rendered
  rcases written with ⟨position, member⟩ |
    ⟨date, unit, offset, start, truncated, stands, position, member⟩
  · exact not_mem_of_rendered_binary (sites _ member) leftPresent rightPresent
  · obtain ⟨inner, given⟩ := sites _ truncated
    rw [Expr.render_truncate stands] at given
    have parts := start.requires .inner inner given
    exact not_mem_of_rendered_binary (parts _ member) leftPresent rightPresent

/-- Days are counted back by a subtraction. -/
private theorem Statement.writesOperator_sub {date : Expr} {unit : TimeUnit} {offset : Int32}
    (long : unit ∈ [.weeks, .months, .years])
    (member : .extension (.truncate date unit offset) ∈ statement.sites 1) :
    statement.WritesOperator .sub := by
  have counted (number : DatePart)
      (stands : date.start? offset unit = some (date.dayStart number)) :
      statement.WritesOperator .sub := by
    refine ⟨date.datePart number, .literal (.int 1), .inr ?_, rfl, rfl⟩
    refine ⟨date, unit, offset, date.dayStart number, member, stands, .inner, ?_⟩
    simp [Expr.dayStart, Expr.shiftDate, Expr.sites, Extension.sites]
  cases unit with
  | weeks => exact counted .dayOfWeek rfl
  | months => exact counted .dayOfMonth rfl
  | years => exact counted .dayOfYear rfl
  | _ => exact absurd long (by decide)

/-- A grammar that refuses no operator of the statement decides as before everywhere in it. -/
private theorem Statement.sameIn_refusing
    (admitted : ∀ op, statement.WritesOperator op → op ∉ denied) :
    statement.SameIn (grammar.refusing denied) grammar where
  sites site member := by
    cases site with
    | expr position expr =>
      cases expr with
      | binary op left right =>
        intro leftPresent rightPresent
        exact Grammar.refusing_operator?
          (admitted op ⟨left, right, .inl ⟨position, member⟩, leftPresent, rightPresent⟩)
      | _ => trivial
    | query rows => exact ⟨fun _ => rfl, fun _ _ => rfl⟩
    | extension node =>
      cases node with
      | truncate date unit offset =>
        intro long
        exact Grammar.refusing_operator? (admitted .sub (writesOperator_sub long member))
      | _ => trivial
    | _ => trivial
  defaults _ _ _ := rfl
  limits _ _ _ _ _ := rfl

namespace Dialect

/-- Without its refused operators, a statement is compiled as if none were refused. -/
private theorem compile_refusing_of_admitted (dialect : Dialect)
    (admitted : ∀ op, statement.WritesOperator op → op ∉ denied) :
    (dialect.refusing denied).compile statement = dialect.compile statement := by
  have decided : statement.SameIn (dialect.refusing denied).grammar dialect.grammar :=
    Statement.sameIn_refusing admitted
  have values : (dialect.refusing denied).spelling.values = dialect.spelling.values := rfl
  rw [compile_eq_outcome, compile_eq_outcome,
    outcome_congr values (Statement.render_congr decided) (fun _ _ => rfl) (.inl rfl)]
  rfl

/-- A dialect that refuses some operators compiles a statement exactly if the dialect without the
refusals does and none of the operators is written in the statement, and compiles it alike. -/
theorem compile_refusing_iff (dialect : Dialect) (denied : List BinaryOp) (statement : Statement)
    (compiled : Compiled) :
    (dialect.refusing denied).compile statement = .ok compiled ↔
      dialect.compile statement = .ok compiled ∧
        ∀ op, statement.WritesOperator op → op ∉ denied := by
  constructor
  · intro compiles
    have admitted : ∀ op, statement.WritesOperator op → op ∉ denied := by
      intro op writes
      obtain ⟨fragment, rendered⟩ := exists_appendRendering_eq_ok.mp ⟨compiled, compiles⟩
      exact Statement.not_mem_of_render_refusing rendered writes
    exact ⟨(compile_refusing_of_admitted dialect admitted).symm.trans compiles, admitted⟩
  · rintro ⟨compiles, admitted⟩
    exact (compile_refusing_of_admitted dialect admitted).trans compiles

/-- The subtraction in a truncation is refused, but not an addition behind an alias. -/
example :
    let date := Expr.named (.identifier "d")
    let month : Query := { selection := [.extension (.truncate date .months 0)] }
    let sum := Expr.alias (.binary .add date (.literal (.int 1))) (.identifier "e")
    (generic.refusing [.sub]).compile (.query month) =
        .error ⟨"generic", .unsupported (.operator .sub)⟩ ∧
      (generic.refusing [.add]).compile (.query { month with filter := [sum] }) =
        generic.compile (.query { month with filter := [sum] }) := by
  decide +kernel

end Dialect

end SqlTree
