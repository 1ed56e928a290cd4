import SqlTree.Compile
import SqlTree.Proofs.Account.Form

/-! # Trees account for their sites

Rendering an expression, an element, a query or a node accounts for the sites of the tree. The
theorems follow the recursion of the renderer; every case puts the sites of the parts together as
the form of the case does.
-/

namespace SqlTree

open Form

private theorem Expr.length_of_renderAll {grammar : Grammar} {position : Position} {exprs : List Expr}
    {fragments : List Fragment}
    (rendered : Expr.renderAll grammar position exprs = .ok fragments) :
    fragments.length = exprs.length := by
  rw [Expr.renderAll_eq_mapM] at rendered
  exact length_of_mapM_eq_ok rendered

/-- A query of joins without a source is refused. -/
private theorem Query.exists_render_eq_error (grammar : Grammar) (query : Query)
    (unsupported : query.joins ≠ [] ∧ query.source.isNone = true) :
    ∃ refusal, query.render grammar = .error refusal := by
  obtain ⟨selection, source, joins, filter, grouping, having, order, modifiers, unions⟩ := query
  obtain ⟨some, none⟩ := unsupported
  have missing : source = .none := Option.isNone_iff_eq_none.mp none
  subst missing
  obtain ⟨first, rest, rfl⟩ := List.exists_cons_of_ne_nil some
  rw [Query.render]
  cases Expr.renderAll grammar .entry selection with
  | error refusal => exact ⟨refusal, rfl⟩
  | ok entries => exact ⟨_, rfl⟩

section

-- The theorems of the block need the hypotheses for one another.
set_option linter.unusedSectionVars false

variable {dialect : Dialect} {grammar : Grammar} {copies : Nat}
  (conventional : dialect.Conventional) (complete : grammar.Complete copies)

include conventional complete

mutual

theorem Expr.accounts :
    (expr : Expr) → (position : Position) →
      Accounts dialect.argumentsOf [] (expr.sites copies position) (expr.render grammar position)
  | .literal value, position =>
    .node id rfl (.cons id (.pure (conventional.argumentsOf_value_cons value [] |>.trans
      (List.append_nil _))))
  | .named name, position => .node id rfl (.pure rfl)
  | .binary op left right, position => by
    have before := left.accounts .inner
    have after := right.accounts .inner
    have silent : ∀ site ∈ (Expr.literal .null).sites copies .inner,
        ¬ site.Unsupported ∧ site.arguments = [] := by
      simp [Expr.sites, Site.Unsupported, Site.arguments, Value.isNull]
    rw [Expr.render, Expr.sites]
    split
    · rename_i null
      rw [Expr.eq_of_isNullLiteral null]
      exact nullTest_accounts (.inr rfl) (before.append_silent silent)
    · split
      · rename_i null
        rw [Expr.eq_of_isNullLiteral null]
        exact nullTest_accounts (.inl rfl) (.node id rfl (.node id rfl after))
      · rename_i present leftPresent
        have supported : ¬ (Site.expr position (.binary op left right)).Unsupported := by
          rintro ⟨null | null, -, -⟩
          · exact leftPresent null
          · exact present null
        exact .node supported rfl (binary_accounts complete before after)
  | .not operand, position =>
    .node id rfl ((operand_accounts operand (operand.accounts .inner)).map fun _ => by simp)
  | .isNull negated operand, position =>
    .node id rfl ((operand_accounts operand (operand.accounts .inner)).map fun _ => by simp)
  | .inList negated operand values, position =>
    .node id rfl (inList_accounts conventional negated operand values (operand.accounts .inner))
  | .inQuery negated operand query, position =>
    .node id rfl (inQuery_accounts negated operand (operand.accounts .inner) query.accounts)
  | .call function arguments, position =>
    .node id rfl ((Expr.accountsAll arguments .inner).map fun _ => by simp)
  | .countAll distinct, position => .node id rfl (.pure rfl)
  | .count distinct operand, position =>
    .node id rfl ((operand.accounts .inner).map fun _ => by simp [Form.count])
  | .case target branches otherwise, position => by
    refine .node id rfl ?_
    refine (Expr.accountsOption target).bind fun first _ => ?_
    refine (Branch.accountsAll branches).bind fun second _ => ?_
    exact (Expr.accountsOption otherwise).map fun third => by
      simp [argumentsOf_caseTarget, argumentsOf_caseEnd]
  | .subquery query, position => .node id rfl (query.accounts.map fun _ => by simp)
  | .alias expr name, .entry =>
    .node id rfl ((expr.accounts .inner).map fun _ => by simp)
  | .alias expr name, .inner => .node id rfl (.pure rfl)
  | .allColumns element, .entry => allColumns_accounts element
  | .allColumns element, .inner => .refused List.mem_cons_self trivial
  | .extension node, position => .node id rfl node.accounts

theorem Expr.accountsAll :
    (exprs : List Expr) → (position : Position) →
      Accounts (List.flatMap dialect.argumentsOf) [] (Expr.sitesOfAll copies position exprs)
        (Expr.renderAll grammar position exprs)
  | [], position => .pure rfl
  | expr :: rest, position =>
    (expr.accounts position).bind fun first _ =>
      (Expr.accountsAll rest position).map fun others => by simp

theorem Expr.accountsOption :
    (expr : Option Expr) →
      Accounts dialect.argumentsOfOption [] (Expr.sitesOfOption copies expr)
        (Expr.renderOption grammar expr)
  | none => .pure rfl
  | some expr => (expr.accounts .inner).map fun _ => rfl

theorem Branch.accountsAll :
    (branches : List Branch) →
      Accounts dialect.argumentsOf [] (Branch.sitesOfAll copies branches)
        (Branch.renderAll grammar branches)
  | [] => .pure rfl
  | ⟨condition, result⟩ :: rest => by
    refine (condition.accounts .inner).bind fun first _ => ?_
    refine (result.accounts .inner).bind fun second _ => ?_
    exact (Branch.accountsAll rest).map fun others => by simp [Form.branch]

theorem Element.accounts :
    (element : Element) →
      Accounts dialect.argumentsOf [] (element.sites copies) (element.render grammar)
  | .table name => .pure rfl
  | .labelled element label => element.accounts.map fun _ => by simp
  | .subquery query => query.accounts.map fun _ => by simp

theorem Element.accountsOption :
    (element : Option Element) →
      Accounts dialect.argumentsOfOption [] (Element.sitesOfOption copies element)
        (Element.renderOption grammar element)
  | none => .pure rfl
  | some element => element.accounts.map fun _ => rfl

theorem Join.accountsAll :
    (joins : List Join) →
      Accounts dialect.argumentsOf [] (Join.sitesOfAll copies joins) (Join.renderAll grammar joins)
  | [] => .pure rfl
  | ⟨kind, element, condition⟩ :: rest => by
    refine element.accounts.bind fun first _ => ?_
    refine (condition.accounts .inner).bind fun second _ => ?_
    exact (Join.accountsAll rest).map fun others => by simp [Form.join]

theorem Order.accountsAll (style : NullOrder) (times : Nat)
    (keys : ∀ descending, (style.keys descending).length = times) (positive : 0 < times) :
    (order : List Order) →
      Accounts (List.flatMap dialect.argumentsOf) [] (Order.sitesOfAll copies times order)
        (Order.renderAll grammar style order)
  | [] => .pure rfl
  | ⟨expr, descending⟩ :: rest =>
    ((expr.accounts .inner).repeated positive).bind fun first _ =>
      (Order.accountsAll style times keys positive rest).map fun others => by
        rw [List.flatMap_cons, argumentsOf_order, keys, List.nil_append]

theorem Modifier.accountsAll :
    (modifiers : List Modifier) →
      Accounts dialect.argumentsOf [] (Modifier.sitesOfAll copies modifiers)
        (Modifier.renderAll grammar modifiers)
  | [] => .pure rfl
  | .limit count offset :: rest =>
    (limit_accounts conventional count offset).bind fun first _ =>
      (Modifier.accountsAll rest).map fun others => by simp
  | .extension node :: rest =>
    node.accounts.bind fun first _ => (Modifier.accountsAll rest).map fun others => by simp

theorem Union.accountsAll :
    (unions : List Union) →
      Accounts dialect.argumentsOf [] (Union.sitesOfAll copies unions)
        (Union.renderAll grammar unions)
  | [] => .pure rfl
  | ⟨kind, query⟩ :: rest =>
    query.accounts.bind fun first _ =>
      (Union.accountsAll rest).map fun others => by simp [Form.union]

theorem Query.accounts :
    (query : Query) → Accounts dialect.argumentsOf [] (query.sites copies) (query.render grammar)
  | ⟨selection, source, joins, filter, grouping, having, order, modifiers, unions⟩ => by
    have entries := Expr.accountsAll selection .entry
    by_cases unsupported : joins ≠ [] ∧ source.isNone = true
    · obtain ⟨refusal, refused⟩ := Query.exists_render_eq_error grammar
        ⟨selection, source, joins, filter, grouping, having, order, modifiers, unions⟩ unsupported
      rw [refused]
      exact .refused List.mem_cons_self unsupported
    · refine .node unsupported rfl ?_
      refine entries.bind fun first _ => ?_
      refine (source_accounts unsupported (Element.accountsOption source)
        (Join.accountsAll joins)).bind fun second _ => ?_
      refine (Expr.accountsAll filter .inner).bind fun third filterOk => ?_
      refine (Expr.accountsAll grouping .inner).bind fun fourth _ => ?_
      refine (Expr.accountsAll having .inner).bind fun fifth havingOk => ?_
      refine (Order.accountsAll grammar.nullOrder copies complete.keys complete.positive
        order).bind fun sixth _ => ?_
      refine (Modifier.accountsAll modifiers).bind fun seventh _ => ?_
      refine (Union.accountsAll unions).map fun eighth => ?_
      simp [argumentsOf_selection, argumentsOf_predicates _ (Expr.length_of_renderAll filterOk),
        argumentsOf_predicates _ (Expr.length_of_renderAll havingOk), Form.list,
        argumentsOf_clause]

theorem Extension.accounts :
    (node : Extension) →
      Accounts dialect.argumentsOf [] (node.sites copies) (node.render grammar)
  | .interval amount unit => by
    by_cases missing : unit ∈ [.nanos, .millis, .decades]
    · rw [Extension.render, interval_eq_error missing]
      exact .refused List.mem_cons_self missing
    · exact .node missing rfl (interval_accounts missing (amount.accounts .inner))
  | .extractedInterval date unit offset => by
    by_cases missing : unit ∈ [.nanos, .millis, .decades]
    · rw [Extension.render, extractedInterval, intervalUnit_eq_error missing]
      exact .refused List.mem_cons_self missing
    · exact .node missing rfl
        (extractedInterval_accounts conventional missing offset (date.accounts .inner))
  | .shift direction date amount unit => by
    by_cases missing : unit ∈ [.nanos, .millis, .decades]
    · obtain ⟨refusal, refused⟩ := shift_eq_error direction (date.render grammar .inner)
        (.timeUnit unit .interval)
      rw [Extension.render, interval_eq_error missing, refused]
      exact .refused List.mem_cons_self missing
    · exact .node missing rfl
        (shift_accounts direction (date.accounts .inner)
          (interval_accounts missing (amount.accounts .inner)))
  | .truncate date unit offset =>
    truncation_accounts conventional complete date unit offset (date.accounts .inner)
  | .groupConcat distinct columns order separator => by
    refine .node id rfl ?_
    refine (Expr.accountsAll columns .inner).bind fun first _ => ?_
    refine (Order.accountsAll .unstated 1 (fun _ => rfl) Nat.one_pos order).append
      (setting_supported _ _) fun second => ?_
    rw [argumentsOf_groupConcat conventional, List.nil_append]
  | .custom parts => .node id rfl (Part.accountsAll parts)

theorem Part.accountsAll :
    (parts : List Part) →
      Accounts dialect.argumentsOf [] (Part.sitesOfAll copies parts) (Part.renderAll grammar parts)
  | [] => .pure rfl
  | .text text :: rest => .node id rfl ((Part.accountsAll rest).map fun _ => rfl)
  | .expr expr :: rest =>
    (expr.accounts .inner).bind fun first _ => (Part.accountsAll rest).map fun others => by simp
  | .literal value :: rest =>
    .cons id ((Part.accountsAll rest).map fun _ => conventional.argumentsOf_value_cons value _)
  | .argument value :: rest => .cons id ((Part.accountsAll rest).map fun _ => rfl)
  | .dialectName :: rest => .node id rfl ((Part.accountsAll rest).map fun _ => rfl)
  | .unsupported construct :: rest => .refused List.mem_cons_self trivial

end

end

namespace Dialect

variable {dialect : Dialect}

/-- How often the dialect writes a sort key of a query. -/
def keyCopies (dialect : Dialect) : Nat :=
  (dialect.grammar.nullOrder.keys false).length

theorem complete_of_builtIn (known : dialect ∈ builtIn) :
    dialect.grammar.Complete dialect.keyCopies := by
  rcases mem_builtIn.mp known with rfl | rfl | rfl | rfl
  all_goals exact ⟨fun op => ⟨op.text, rfl⟩, fun _ => rfl, by decide⟩

/-- In the dialects of the library, a query accounts for its sites. -/
theorem accounts_of_builtIn (known : dialect ∈ builtIn) (query : Query) :
    Accounts dialect.argumentsOf [] (query.sites dialect.keyCopies)
      (query.render dialect.grammar) :=
  query.accounts (conventional_of_builtIn known) (complete_of_builtIn known)

end Dialect

/-! ## Statements -/

/-- The arguments of the rendering, unless it is refused, are those of the sites. -/
abbrev Rendering.Binds (dialect : Dialect) (sites : List Site) : Rendering → Prop :=
  Yields fun fragment => dialect.argumentsOf fragment = sites.flatMap Site.arguments

private theorem Accounts.binds {dialect : Dialect} {sites : List Site} {rendered : Rendering}
    (accounted : Accounts dialect.argumentsOf [] sites rendered) : rendered.Binds dialect sites := by
  rintro fragment rfl
  exact accounted.2

/-- Members that are rendered one by one have the arguments of their sites one after the other. -/
private theorem Yields.mapM_binds {α : Type} {dialect : Dialect} {step : α → Rendering}
    {part : α → List Site} (each : ∀ member, (step member).Binds dialect (part member))
    (members : List α) :
    Yields (fun fragments => fragments.flatMap dialect.argumentsOf =
      (members.flatMap part).flatMap Site.arguments) (members.mapM step) := by
  induction members with
  | nil => exact .ok rfl
  | cons first rest ih =>
    rw [List.mapM_cons]
    refine (each first).bind fun fragment own => ih.bind fun fragments others => .ok ?_
    rw [List.flatMap_cons, List.flatMap_cons, List.flatMap_append, own, others]

namespace Dialect

variable {dialect : Dialect}

private theorem binds_clauses (known : dialect ∈ builtIn) (query : Query) :
    (query.clauses dialect.grammar).Binds dialect (query.clauseSites dialect.keyCopies) := by
  intro fragment given
  have whole := (accounts_of_builtIn known { query with selection := [] }).binds
  rw [Query.render_unselected, given] at whole
  exact whole (Form.selection [] ++ fragment) rfl

private theorem binds_assignedColumn (dialect : Dialect) (table column : Name) :
    (Form.assignedColumn table column).Binds dialect [] := by
  unfold Form.assignedColumn
  split
  · exact .ok rfl
  · exact .error _

/-- In the dialects of the library, a rendered statement has the arguments of its sites. -/
theorem binds_of_builtIn (known : dialect ∈ builtIn) (statement : Statement) :
    (statement.render dialect.grammar).Binds dialect (statement.sites dialect.keyCopies) := by
  have conventional := conventional_of_builtIn known
  have complete := complete_of_builtIn known
  cases statement with
  | query selected => exact (accounts_of_builtIn known selected).binds
  | insert inserted =>
    rw [Statement.render, Insert.render]
    split
    · rename_i none
      rw [Statement.sites, List.isEmpty_iff.mp none]
      exact .ok rfl
    · have columns := Yields.mapM_binds (binds_assignedColumn dialect inserted.table)
        inserted.assignments.columns
      refine columns.bind fun fragments silent => .ok ?_
      simp [silent, Statement.sites, List.flatMap_map, conventional.argumentsOf_value_cons]
  | insertQuery inserted =>
    exact (accounts_of_builtIn known inserted.query).binds.bind fun _ rows => .ok rows
  | update change =>
    have assigned : Yields (fun fragments => fragments.flatMap dialect.argumentsOf =
          (change.assignments.flatMap fun entry =>
            entry.2.sites dialect.keyCopies .inner).flatMap Site.arguments)
        (change.assignments.mapM (Update.renderAssignment dialect.grammar change.table)) := by
      refine .mapM_binds (fun entry => ?_) change.assignments
      refine (binds_assignedColumn dialect change.table entry.1).bind fun _ column => ?_
      exact (entry.2.accounts conventional complete .inner).binds.bind fun _ value => .ok (by
        simp [column, value])
    rw [Statement.render, Update.render]
    split
    · exact .error _
    · exact .check fun _ => assigned.bind fun _ first =>
        (binds_clauses known change.rows).bind fun _ second => .ok (by
          simp [Statement.sites, first, second])
  | delete deletion =>
    exact .check fun _ => (binds_clauses known deletion.rows).bind fun _ rows => .ok rows

/-! ## The order of arguments

The arguments of a compiled query are the values at its sites: clause by clause in a fixed order,
which is not the order of the calls that built the query, and from left to right inside
expressions. Values that are not written have no part in it, and MySQL writes sort keys twice.
-/

private theorem rowCount_eq_int {count : UInt64} (fits : ¬ Site.maxRowCount < count.toNat) :
    ∃ number : Int64, Site.rowCount count = .int number ∧ number.toInt = count.toNat :=
  ⟨_, rfl, Int64.toInt_ofNat_of_lt (Form.not_maxRowCount_lt.mp fits)⟩

/-- A query with values where they are written and where they are not: in the body of an alias, in
the operand of a test that is always false, beside NULL and as a sort key. -/
def scatteredValues : Query :=
  { selection :=
      [.alias (.literal (.int 1)) (.identifier "one"),
        .binary .eq (.literal .null) (.literal (.int 2)), .allColumns (.table (.identifier "t"))]
    source := some (.labelled (.subquery { selection := [.literal (.int 3)] }) (.identifier "t"))
    filter :=
      [.inList false (.literal (.int 98)) [],
        .inList true (.named (.identifier "a")) [.int 4, .null],
        .binary .lt (.alias (.literal (.int 99)) (.identifier "one")) (.literal (.text "five"))]
    order := [⟨.call "ABS" [.literal (.int 6)], true⟩]
    modifiers := [.limit 7 0]
    unions := [⟨.all, { selection := [.literal (.bool true)], modifiers := [.limit 8 9] }⟩] }

/-- The arguments of a compiled query are the values at its sites in order, where each row count is
the same number as an integer and sort keys are written once, or twice in MySQL. -/
theorem compile_arguments (known : dialect ∈ builtIn) {query : Query} {compiled : Compiled}
    (success : dialect.compile (.query query) = .ok compiled) :
    compiled.arguments = (query.sites dialect.keyCopies).flatMap Site.arguments ∧
      dialect.keyCopies = (if dialect.name = "mysql" then 2 else 1) ∧
      ∀ count offset, Site.limit count offset ∈ query.sites dialect.keyCopies →
        (∃ number : Int64, Site.rowCount count = .int number ∧ number.toInt = count.toNat) ∧
          (offset ≠ 0 → ∃ number : Int64, Site.rowCount offset = .int number ∧
            number.toInt = offset.toNat) := by
  have accounted := accounts_of_builtIn known query
  have copies : dialect.keyCopies = (if dialect.name = "mysql" then 2 else 1) := by
    simp only [builtIn, List.mem_cons, List.not_mem_nil, or_false] at known
    rcases known with rfl | rfl | rfl | rfl <;> rfl
  obtain ⟨fragment, rendered, rfl⟩ := appendRendering_eq_ok.mp success
  rw [Statement.render] at rendered
  rw [rendered] at accounted
  obtain ⟨supported, arguments⟩ := accounted
  refine ⟨arguments, copies, fun count offset member => ?_⟩
  obtain ⟨countFits, offsetFits⟩ := not_or.mp (supported _ member)
  exact ⟨rowCount_eq_int countFits,
    fun some => rowCount_eq_int fun large => offsetFits ⟨some, large⟩⟩

theorem compile_arguments_scatteredValues :
    ∃ compiled, mysql.compile (.query scatteredValues) = .ok compiled ∧
      compiled.arguments =
        [.int 1, .int 2, .int 3, .int 4, .text "five", .int 6, .int 6, .int 7, .bool true, .int 8,
          .int 9] := by
  obtain ⟨compiled, success⟩ : ∃ compiled, mysql.compile (.query scatteredValues) = .ok compiled :=
    ⟨_, rfl⟩
  obtain ⟨arguments, -, -⟩ := compile_arguments (by simp [builtIn] : mysql ∈ builtIn) success
  exact ⟨compiled, success, arguments.trans rfl⟩

/-! ## What the dialects refuse

A dialect of the library refuses a query, as a statement or as the source of an insertion, exactly
when a site of it is unsupported. No unsupported part is dropped silently, however deep it lies, and
nothing else is refused; what is not written may be anything.
-/

instance (site : Site) : Decidable site.Unsupported := by
  unfold Site.Unsupported
  split <;> infer_instance

private theorem refuse_isError_iff {sites : List Site} {bound : Fragment → List Value}
    {before : List Value} {rendering : Rendering}
    (accounted : Accounts bound before sites rendering) (compiled : Compiled) :
    (∃ error, dialect.appendRendering compiled rendering = .error error) ↔
      ∃ site ∈ sites, site.Unsupported := by
  cases rendering with
  | error refusal => exact ⟨fun _ => accounted, fun _ => ⟨_, rfl⟩⟩
  | ok fragment =>
    constructor
    · rintro ⟨error, refused⟩
      cases refused
    · rintro ⟨site, member, unsupported⟩
      exact absurd unsupported (accounted.1 site member)

/-- A query with `expr` in the condition of a join, in a sub-query that a union adds. -/
def joinedOn (expr : Expr) : Query :=
  { source := some (.table (.identifier "a"))
    unions :=
      [⟨.distinct,
        { source := some (.subquery
            { source := some (.table (.identifier "b"))
              joins := [⟨.leftOuter, .table (.identifier "c"), .not expr⟩] }) }⟩] }

/-- A query, or an insertion of its rows, is refused if and only if a site is unsupported. -/
theorem compile_eq_error_iff (known : dialect ∈ builtIn) (query : Query) :
    ((∃ error, dialect.compile (.query query) = .error error) ↔
        ∃ site ∈ query.sites dialect.keyCopies, site.Unsupported) ∧
      ∀ table, ((∃ error, dialect.compile (.insertQuery ⟨table, query⟩) = .error error) ↔
        ∃ site ∈ query.sites dialect.keyCopies, site.Unsupported) := by
  have accounted := accounts_of_builtIn known query
  refine ⟨refuse_isError_iff accounted _, fun table => ?_⟩
  have inserted : Accounts dialect.argumentsOf [] (query.sites dialect.keyCopies)
      (InsertQuery.render dialect.grammar ⟨table, query⟩) := accounted.map fun fragment => rfl
  exact refuse_isError_iff inserted _

theorem compile_eq_error_iff_joinedOn :
    (∃ error, sqlite.compile (.insertQuery ⟨.identifier "t",
        joinedOn (.binary .lt (.literal .null) (.named (.identifier "x")))⟩) = .error error) ∧
      ¬ ∃ error, sqlite.compile (.insertQuery ⟨.identifier "t",
        joinedOn (.inList false (.binary .lt (.literal .null) (.named (.identifier "x"))) [])⟩) =
          .error error := by
  have known : sqlite ∈ builtIn := by simp [builtIn]
  refine ⟨((compile_eq_error_iff known _).2 _).mpr (by decide), fun refused => ?_⟩
  exact absurd (((compile_eq_error_iff known _).2 _).mp refused) (by decide)

end Dialect

end SqlTree
