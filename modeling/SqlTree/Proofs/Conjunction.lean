import Mathlib.Control.Basic
import SqlTree.Proofs.Calls
import SqlTree.Proofs.Writer.Tree

/-! # Lists of predicates and conjunctions

The predicates of a clause stand beside AND just as the operands of a conjunction do: disjunctions
between parentheses and everything else without. A conjunction needs no parentheses beside another
AND, on neither side, so its association leaves no trace in the text. A query with a list of
predicates is therefore compiled like the query with one predicate that joins them
(`compile_conjunction`).

Only two rules of a dialect matter here, that of predicate clauses and that of conjunctions. A
dialect may write everything else in its own way, so all other steps of writing a query are writers
of which nothing is known (`QuerySteps`).
-/

namespace SqlTree

/-- The expression joins the predicates with AND in their order, with any association. -/
inductive Expr.Conjoins : List Expr → Expr → Prop where
  | single (predicate : Expr) : Conjoins [predicate] predicate
  | and {before after : List Expr} {left right : Expr} (first : Conjoins before left)
      (second : Conjoins after right) : Conjoins (before ++ after) (.binary .and left right)

namespace Expr.Conjoins

variable {predicates : List Expr} {combined : Expr}

private theorem ne_nil (conjoins : combined.Conjoins predicates) : predicates ≠ [] := by
  induction conjoins with
  | single predicate => exact List.cons_ne_nil predicate []
  | and _ _ ih _ => exact List.append_ne_nil_of_left_ne_nil ih _

private theorem isNullLiteral (conjoins : combined.Conjoins predicates)
    (present : ∀ predicate ∈ predicates, predicate.isNullLiteral = false) :
    combined.isNullLiteral = false := by
  cases conjoins with
  | single => exact present combined List.mem_cons_self
  | and => rfl

private theorem length_ne_one {before after : List Expr} {left right : Expr}
    (first : left.Conjoins before) (second : right.Conjoins after) :
    (before ++ after).length ≠ 1 := by
  have some := List.length_pos_iff.mpr first.ne_nil
  have more := List.length_pos_iff.mpr second.ne_nil
  rw [List.length_append]
  omega

end Expr.Conjoins

/-! ## Operands of AND -/

/-- Beside AND, an operand is grouped on both sides or on none. -/
theorem Expr.needsGrouping_and (expr : Expr) (side other : Side) :
    expr.needsGrouping .and side = expr.needsGrouping .and other := by
  cases expr with
  | binary op left right => cases op <;> cases side <;> cases other <;> rfl
  | _ => rfl

namespace Writer

variable (dialect : Dialect)

private theorem separated_append (separator : String) {first second : List Writer} (some : first ≠ [])
    (more : second ≠ []) :
    separated dialect separator (first ++ second) =
      separated dialect separator first >=> dialect.push (.text separator) >=>
        separated dialect separator second := by
  induction first with
  | nil => exact absurd rfl some
  | cons head tail ih =>
    cases tail with
    | nil =>
      obtain ⟨next, others, rfl⟩ := List.exists_cons_of_ne_nil more
      rfl
    | cons next others =>
      have rest := ih (List.cons_ne_nil next others)
      rw [List.cons_append] at rest
      rw [List.cons_append, List.cons_append, separated, separated, rest, fish_assoc, fish_assoc]

/-- Writers that are separated already can stand among others as they are. -/
private theorem separated_nested (separator : String) (first : List Writer) {middle : List Writer}
    (some : middle ≠ []) (last : List Writer) :
    separated dialect separator (first ++ separated dialect separator middle :: last) =
      separated dialect separator (first ++ (middle ++ last)) := by
  have front : separated dialect separator (separated dialect separator middle :: last) =
      separated dialect separator (middle ++ last) := by
    cases last with
    | nil => rw [List.append_nil, separated]
    | cons next others =>
      rw [separated_append dialect separator some (List.cons_ne_nil next others), separated]
  by_cases none : first = []
  · rw [none, List.nil_append, List.nil_append, front]
  · have more : middle ++ last ≠ [] := List.append_ne_nil_of_left_ne_nil some last
    rw [separated_append dialect separator none (List.cons_ne_nil _ _),
      separated_append dialect separator none more, front]

variable (write : Expr → Writer)

def operandsOfAnd (exprs : List Expr) : List Writer :=
  exprs.map fun expr => grouped dialect (expr.needsGrouping .and .left) (write expr)

private theorem operandsOfAnd_append (exprs more : List Expr) :
    operandsOfAnd dialect write (exprs ++ more) =
      operandsOfAnd dialect write exprs ++ operandsOfAnd dialect write more :=
  List.map_append

private theorem operandsOfAnd_cons (first : Expr) (rest : List Expr) :
    operandsOfAnd dialect write (first :: rest) =
      grouped dialect (first.needsGrouping .and .left) (write first) ::
        operandsOfAnd dialect write rest := rfl

private theorem operandsOfAnd_ne_nil {exprs : List Expr} (some : exprs ≠ []) :
    operandsOfAnd dialect write exprs ≠ [] :=
  mt List.map_eq_nil_iff.mp some

/-- The predicates as they stand in a clause, where a single one is not an operand. -/
def conjuncts (exprs : List Expr) : List Writer :=
  List.zipWith (grouped dialect) (conjunctGroups exprs) (exprs.map write)

private theorem conjuncts_eq_operandsOfAnd {exprs : List Expr} (several : exprs.length ≠ 1) :
    conjuncts dialect write exprs = operandsOfAnd dialect write exprs := by
  match exprs with
  | [] => rfl
  | [_] => exact absurd rfl several
  | first :: second :: rest =>
    have sides : (fun predicate : Expr => predicate.needsGrouping .and .right) =
        fun predicate => predicate.needsGrouping .and .left :=
      funext fun predicate => predicate.needsGrouping_and .right .left
    rw [conjuncts, conjunctGroups, sides]
    change List.zipWith (grouped dialect)
      ((first :: second :: rest).map fun predicate => predicate.needsGrouping .and .left)
      ((first :: second :: rest).map write) = _
    rw [List.zipWith_map, List.zipWith_self]
    rfl

private theorem predicates_eq_cons (keyword : String) {exprs : List Expr} (some : exprs ≠ []) :
    predicates dialect keyword exprs (exprs.map write) =
      dialect.push (.text keyword) >=>
        separated dialect " AND " (conjuncts dialect write exprs) := by
  match exprs with
  | [] => exact absurd rfl some
  | [_] => rfl
  | _ :: _ :: _ => rfl

/-- The rule for binary operators: a comparison with NULL is a test of the other operand, and
otherwise the operator stands between the operands. -/
def binaryOf (op : BinaryOp) (left right : Expr) : Writer :=
  if right.isNullLiteral then nullTest dialect op left (write left)
  else if left.isNullLiteral then nullTest dialect op right (write right)
  else binary dialect op left right (write left) (write right)

end Writer

/-! ## Clauses with a conjunction -/

namespace Expr.Conjoins

open Writer

variable {predicates : List Expr} {combined : Expr} {dialect : Dialect} {write : Expr → Writer}

/-- Beside AND, a conjunction is written like its predicates one after the other. -/
theorem grouped_conjuncts (conjoins : combined.Conjoins predicates) (side : Side) :
    grouped dialect (combined.needsGrouping .and side)
        (separated dialect " AND " (conjuncts dialect write predicates)) =
      separated dialect " AND " (operandsOfAnd dialect write predicates) := by
  cases conjoins with
  | single =>
    rw [combined.needsGrouping_and side .left]
    rfl
  | and first second =>
    rw [conjuncts_eq_operandsOfAnd dialect write (length_ne_one first second)]
    rfl

/-- A conjunction is written like the predicates of a clause. -/
theorem write_eq (spelled : dialect.grammar.operator? .and = some "AND")
    (rule : ∀ left right, write (.binary .and left right) = binaryOf dialect write .and left right)
    (conjoins : combined.Conjoins predicates)
    (present : ∀ predicate ∈ predicates, predicate.isNullLiteral = false) :
    write combined = separated dialect " AND " (conjuncts dialect write predicates) := by
  induction conjoins with
  | single predicate => rfl
  | @and before after left right first second leftIh rightIh =>
    obtain ⟨inBefore, inAfter⟩ := List.forall_mem_append.mp present
    have operator : Form.operator dialect.grammar .and = .ok "AND" := by
      rw [Form.operator, spelled]
    have spaced : " " ++ "AND" ++ " " = " AND " := by decide +kernel
    have between : (dialect.unlessRefused (Form.operator dialect.grammar .and) fun text =>
        dialect.push (.text (" " ++ text ++ " "))) = dialect.push (.text " AND ") := by
      rw [operator, ← spaced]
      rfl
    rw [rule, binaryOf, if_neg (by simp [second.isNullLiteral inAfter]),
      if_neg (by simp [first.isNullLiteral inBefore]), Writer.binary, between, leftIh inBefore,
      rightIh inAfter, first.grouped_conjuncts, second.grouped_conjuncts,
      conjuncts_eq_operandsOfAnd dialect write (length_ne_one first second), operandsOfAnd_append,
      separated_append dialect " AND " (operandsOfAnd_ne_nil dialect write first.ne_nil)
        (operandsOfAnd_ne_nil dialect write second.ne_nil)]

/-- In a clause, a conjunction takes the place of its predicates. -/
private theorem predicates_among (conjoins : combined.Conjoins predicates)
    (whole : write combined = separated dialect " AND " (conjuncts dialect write predicates))
    (keyword : String) (before after : List Expr) :
    Writer.predicates dialect keyword (before ++ (predicates ++ after))
        ((before ++ (predicates ++ after)).map write) =
      Writer.predicates dialect keyword (before ++ combined :: after)
        ((before ++ combined :: after).map write) := by
  have filled : predicates ++ after ≠ [] := List.append_ne_nil_of_left_ne_nil conjoins.ne_nil after
  rw [predicates_eq_cons dialect write keyword (List.append_ne_nil_of_right_ne_nil before filled),
    predicates_eq_cons dialect write keyword (by simp)]
  by_cases several : (before ++ combined :: after).length = 1
  · have none : before = [] ∧ after = [] := by
      simpa [List.length_append, ← Nat.add_assoc] using several
    obtain ⟨rfl, rfl⟩ := none
    rw [List.append_nil, List.nil_append, ← whole]
    rfl
  · have some := List.length_pos_iff.mpr conjoins.ne_nil
    have severalPredicates : (before ++ (predicates ++ after)).length ≠ 1 := by
      simp only [List.length_append, List.length_cons] at several ⊢
      omega
    have operands := operandsOfAnd_ne_nil dialect write conjoins.ne_nil
    rw [conjuncts_eq_operandsOfAnd dialect write severalPredicates,
      conjuncts_eq_operandsOfAnd dialect write several, operandsOfAnd_append, operandsOfAnd_append,
      operandsOfAnd_append, operandsOfAnd_cons, whole, conjoins.grouped_conjuncts,
      separated_nested dialect " AND " _ operands]

end Expr.Conjoins

namespace Query

/-- Calls leave the clauses of other calls as they are, whatever calls follow. -/
private theorem only_run_of_ne (query : Query) {steps : List Step} {clause : Clause}
    (other : ∀ step ∈ steps, step.clause ≠ clause) (later : List Step) :
    ((query.run steps).run later).only clause = (query.run later).only clause := by
  have absent : calls clause steps = [] :=
    List.filter_eq_nil_iff.mpr fun step member => by simpa using other step member
  have dropped : calls clause (steps ++ later) = calls clause later := by
    rw [calls, List.filter_append]
    exact congrArg (· ++ calls clause later) absent
  rw [← run_append, only_run, dropped, ← only_run]

def withPredicates (query : Query) (filter having : List Expr) : Query :=
  { query with filter, having }

variable {filter having : List Expr}

/-- Calls add predicates behind those from before and change nothing else. -/
private theorem run_predicates (query : Query) (later : List Step) :
    (query.run (filter.map .filter ++ having.map .having)).run later =
      (query.run later).withPredicates
        (query.filter ++ (filter ++ later.flatMap fun step => step.added.filter))
        (query.having ++ (having ++ later.flatMap fun step => step.added.having)) := by
  have own : ∀ step ∈ filter.map Step.filter ++ having.map Step.having,
      step.clause = .filter ∨ step.clause = .having := by
    intro step member
    rcases List.mem_append.mp member with inFilter | inHaving
    · obtain ⟨expr, -, rfl⟩ := List.mem_map.mp inFilter
      exact .inl rfl
    · obtain ⟨expr, -, rfl⟩ := List.mem_map.mp inHaving
      exact .inr rfl
  refine eq_of_only fun clause => ?_
  cases clause with
  | filter =>
    rw [only, ← run_append, (built_run query _).filter]
    simp [only, withPredicates, List.flatMap_map, Step.added]
  | having =>
    rw [only, ← run_append, (built_run query _).having]
    simp [only, withPredicates, List.flatMap_map, Step.added]
  | _ =>
    refine only_run_of_ne query (fun step member same => ?_) later
    rcases own step member with given | given <;> cases same.symm.trans given

end Query

/-! ## Queries with replaced steps -/

/-- The steps of writing a query that a dialect may replace, each any writer at all: the step of
expressions, and those of all clauses but the clauses of predicates. -/
structure QuerySteps where
  expr : Expr → Writer
  selection : List Expr → Writer
  source : Option Element → List Join → Writer
  grouping : List Expr → Writer
  order : List Order → Writer
  modifiers : List Modifier → Writer
  unions : List Union → Writer

namespace QuerySteps

variable (dialect : Dialect) (steps : QuerySteps)

def predicateClause (keyword : String) (exprs : List Expr) : Writer :=
  Writer.predicates dialect keyword exprs (exprs.map steps.expr)

def query (query : Query) : Writer :=
  steps.selection query.selection >=> steps.source query.source query.joins >=>
    steps.predicateClause dialect " WHERE " query.filter >=> steps.grouping query.grouping >=>
    steps.predicateClause dialect " HAVING " query.having >=> steps.order query.order >=>
    steps.modifiers query.modifiers >=> steps.unions query.unions

/-- Conjunctions are written by the rule for binary operators, whatever else is replaced. -/
def KeepsConjunction : Prop :=
  ∀ left right, steps.expr (.binary .and left right) =
    Writer.binaryOf dialect steps.expr .and left right

variable {dialect steps}

/-- Calls that add predicates can be exchanged for others if the clauses do not show it. -/
private theorem query_run_predicates (query : Query) (later : List Query.Step)
    {filter having otherFilter otherHaving : List Expr}
    (filters : ∀ before after,
      steps.predicateClause dialect " WHERE " (before ++ (filter ++ after)) =
        steps.predicateClause dialect " WHERE " (before ++ (otherFilter ++ after)))
    (havings : ∀ before after,
      steps.predicateClause dialect " HAVING " (before ++ (having ++ after)) =
        steps.predicateClause dialect " HAVING " (before ++ (otherHaving ++ after))) :
    steps.query dialect ((query.run (filter.map .filter ++ having.map .having)).run later) =
      steps.query dialect
        ((query.run (otherFilter.map .filter ++ otherHaving.map .having)).run later) := by
  rw [Query.run_predicates, Query.run_predicates, QuerySteps.query, QuerySteps.query]
  simp only [Query.withPredicates, filters, havings]

/-- A query with one call for each predicate is written like the query with one call for their
conjunction. -/
theorem query_conjunction (spelled : dialect.grammar.operator? .and = some "AND")
    (keeps : steps.KeepsConjunction dialect) {predicates : List Expr} {combined : Expr}
    (conjoins : combined.Conjoins predicates)
    (present : ∀ predicate ∈ predicates, predicate.isNullLiteral = false) (query : Query)
    (later : List Query.Step) :
    steps.query dialect ((query.run (predicates.map .filter)).run later) =
        steps.query dialect ((query.run [.filter combined]).run later) ∧
      steps.query dialect ((query.run (predicates.map .having)).run later) =
        steps.query dialect ((query.run [.having combined]).run later) := by
  have same (keyword : String) (before after : List Expr) :
      steps.predicateClause dialect keyword (before ++ (predicates ++ after)) =
        steps.predicateClause dialect keyword (before ++ ([combined] ++ after)) :=
    conjoins.predicates_among (conjoins.write_eq spelled keeps present) keyword before after
  have unchanged (keyword : String) (before after : List Expr) :
      steps.predicateClause dialect keyword (before ++ ([] ++ after)) =
        steps.predicateClause dialect keyword (before ++ ([] ++ after)) := rfl
  constructor
  · have filters := query_run_predicates query later (same " WHERE ") (unchanged " HAVING ")
    rwa [List.map_nil, List.append_nil, List.append_nil] at filters
  · have havings := query_run_predicates query later (unchanged " WHERE ") (same " HAVING ")
    rwa [List.map_nil, List.nil_append, List.nil_append] at havings

end QuerySteps

namespace Dialect

variable (dialect : Dialect)

/-- The steps that the dialect writes queries by. -/
def querySteps : QuerySteps where
  expr := Expr.write dialect .inner
  selection entries := Writer.selection dialect (Expr.writeAll dialect .entry entries)
  source element joins :=
    Writer.source dialect (Element.writeOption dialect element) (!joins.isEmpty)
      (Join.writeAll dialect joins)
  grouping exprs := Writer.clause dialect " GROUP BY " ", " (Expr.writeAll dialect .inner exprs)
  order keys :=
    Writer.clause dialect " ORDER BY " ", "
      (Order.writeAll dialect dialect.grammar.nullOrder keys)
  modifiers := Modifier.writeAll dialect
  unions := Union.writeAll dialect

private theorem keepsConjunction_querySteps : dialect.querySteps.KeepsConjunction dialect :=
  fun _ _ => rfl

theorem query_querySteps (query : Query) :
    dialect.querySteps.query dialect query = query.write dialect := by
  have written (exprs : List Expr) :
      exprs.map dialect.querySteps.expr = Expr.writeAll dialect .inner exprs := by
    rw [Expr.writeAll_eq_map]
    exact List.map_congr_left fun expr _ => expr.write_eq_spell dialect .inner
  rw [QuerySteps.query, QuerySteps.predicateClause, QuerySteps.predicateClause, written, written]
  cases query
  rw [Query.write]
  rfl

variable {dialect}

/-- A query with one call for each predicate is compiled like the query with one call for their
conjunction, with any association, and is refused like it. This holds for the predicates of rows
and for those of groups, whatever else the query has or gets, and whatever a dialect puts in the
place of the other steps. -/
theorem compile_conjunction (spelled : dialect.grammar.operator? .and = some "AND")
    {predicates : List Expr} {combined : Expr} (conjoins : combined.Conjoins predicates)
    (present : ∀ predicate ∈ predicates, predicate.isNullLiteral = false) (query : Query)
    (later : List Query.Step) :
    (∀ steps : QuerySteps, steps.KeepsConjunction dialect →
      steps.query dialect ((query.run (predicates.map .filter)).run later) =
          steps.query dialect ((query.run [.filter combined]).run later) ∧
        steps.query dialect ((query.run (predicates.map .having)).run later) =
          steps.query dialect ((query.run [.having combined]).run later)) ∧
      dialect.compile (.query ((query.run (predicates.map .filter)).run later)) =
        dialect.compile (.query ((query.run [.filter combined]).run later)) ∧
      dialect.compile (.query ((query.run (predicates.map .having)).run later)) =
        dialect.compile (.query ((query.run [.having combined]).run later)) := by
  have all {steps : QuerySteps} (keeps : steps.KeepsConjunction dialect) :=
    steps.query_conjunction spelled keeps conjoins present query later
  have own := all dialect.keepsConjunction_querySteps
  simp only [query_querySteps] at own
  refine ⟨fun _ => all, ?_, ?_⟩
  · rw [compile_eq_write, compile_eq_write]
    exact congrFun own.1 ⟨"", []⟩
  · rw [compile_eq_write, compile_eq_write]
    exact congrFun own.2 ⟨"", []⟩

/-- A disjunction, a comparison with an argument, and a conjunction. -/
def mixedPredicates : List Expr :=
  [.binary .or (.named (.identifier "a")) (.named (.identifier "b")),
    .binary .lt (.named (.identifier "c")) (.literal (.int 5)),
    .binary .and (.named (.identifier "d")) (.not (.named (.identifier "e")))]

/-- The first predicate, joined with the conjunction of the other two. -/
def mixedConjunction : Expr :=
  .binary .and (.binary .or (.named (.identifier "a")) (.named (.identifier "b")))
    (.binary .and (.binary .lt (.named (.identifier "c")) (.literal (.int 5)))
      (.binary .and (.named (.identifier "d")) (.not (.named (.identifier "e")))))

/-- Writes whatever is no conjunction as the argument of a function. -/
def tested : Expr → Writer
  | .binary .and left right =>
    if right.isNullLiteral then Writer.nullTest generic .and left (tested left)
    else if left.isNullLiteral then Writer.nullTest generic .and right (tested right)
    else Writer.binary generic .and left right (tested left) (tested right)
  | expr => Writer.call generic "TRUTH" [expr.write generic .inner]

theorem compile_conjunction_mixedPredicates :
    let query := ({} : Query).withSource (.table (.identifier "t"))
    let steps := { generic.querySteps with expr := tested }
    generic.compile (.query (query.run (mixedPredicates.map .filter))) =
        generic.compile (.query (query.run [.filter mixedConjunction])) ∧
      generic.compile (.query (query.run [.filter mixedConjunction])) =
        .ok ⟨"SELECT * FROM t WHERE (a OR b) AND c < ? AND d AND NOT e", [.int 5]⟩ ∧
      steps.query generic (query.run (mixedPredicates.map .having)) =
        steps.query generic (query.run [.having mixedConjunction]) ∧
      steps.query generic (query.run [.having mixedConjunction]) ⟨"", []⟩ =
        .ok {
          sql :=
            "SELECT * FROM t HAVING (TRUTH(a OR b)) AND TRUTH(c < ?) AND TRUTH(d) AND TRUTH(NOT e)"
          arguments := [.int 5] } := by
  intro query steps
  have spelled : generic.grammar.operator? .and = some "AND" := rfl
  have conjoins : mixedConjunction.Conjoins mixedPredicates :=
    .and (.single _) (.and (.single _) (.single _))
  have present : ∀ predicate ∈ mixedPredicates, predicate.isNullLiteral = false := by
    decide +kernel
  have keeps : steps.KeepsConjunction generic := fun _ _ => rfl
  obtain ⟨replaced, whole, -⟩ := compile_conjunction spelled conjoins present query []
  exact ⟨whole, by decide +kernel, (replaced steps keeps).2, by decide +kernel⟩

end Dialect

end SqlTree
