import SqlTree.Compile
import SqlTree.Proofs.Outcome
import SqlTree.Proofs.Reading.Spelled
import SqlTree.Proofs.Reading.Unique

/-! # Predicates are read back

The text of a predicate in the generic dialect, read with the grammar of SQL and with its arguments
in the places of the placeholders, is the predicate itself, except that comparisons with NULL are
read as the NULL tests that they stand for and that chains of one logical operator are read from
left to right. The printer may leave parentheses out because of this and may write too many, but
never changes what is read.
-/

namespace SqlTree

/-- Whether a comparison with NULL stands for a NULL test, and whether for a negated one. -/
def BinaryOp.nullNegated? : BinaryOp → Option Bool
  | .eq => some false
  | .notEq => some true
  | _ => none

namespace Expr

/-- Logical operators, comparisons, NULL tests and membership tests over names and literals. -/
inductive IsPredicate : Expr → Prop where
  | literal (value : Value) : IsPredicate (.literal value)
  | named (name : Name) : IsPredicate (.named name)
  | binary {op : BinaryOp} {left right : Expr}
      (kind : op.isLogical = true ∨ op.isComparison = true) (before : IsPredicate left)
      (after : IsPredicate right) : IsPredicate (.binary op left right)
  | not {operand : Expr} (inner : IsPredicate operand) : IsPredicate (.not operand)
  | isNull (negated : Bool) {operand : Expr} (inner : IsPredicate operand) :
      IsPredicate (.isNull negated operand)
  | inList (negated : Bool) {operand : Expr} (first : Value) (rest : List Value)
      (inner : IsPredicate operand) : IsPredicate (.inList negated operand (first :: rest))

/-- Applies a chaining operator so that a chain of it on the right is continued on the left. -/
def joinLeft (op : BinaryOp) (left : Expr) : Expr → Expr
  | .binary other middle right =>
    if other = op then .binary op (joinLeft op left middle) right
    else .binary op left (.binary other middle right)
  | right => .binary op left right

/-- The predicate with comparisons with NULL as NULL tests and with chains of AND or of OR applied
from left to right. -/
def normalised : Expr → Expr
  | .binary op left right =>
    if op.isLogical then joinLeft op left.normalised right.normalised
    else
      match op.nullNegated?, left.isNullLiteral, right.isNullLiteral with
      | some negated, _, true => .isNull negated left.normalised
      | some negated, true, false => .isNull negated right.normalised
      | _, _, _ => .binary op left.normalised right.normalised
  | .not operand => .not operand.normalised
  | .isNull negated operand => .isNull negated operand.normalised
  | .inList negated operand values => .inList negated operand.normalised values
  | expr => expr

/-! ## Chains of one operator -/

/-- Whether the expression is the operator applied to two operands. -/
def isBinary (op : BinaryOp) : Expr → Bool
  | .binary other _ _ => other == op
  | _ => false

private theorem joinLeft_of_not_isBinary {op : BinaryOp} {right : Expr} (apart : right.isBinary op = false)
    (left : Expr) : joinLeft op left right = .binary op left right := by
  cases right with
  | binary other middle last =>
    have different : other ≠ op := by simpa [isBinary] using apart
    rw [joinLeft, if_neg different]
  | _ => rfl

private theorem isBinary_joinLeft (op other : BinaryOp) (left right : Expr) :
    (joinLeft op left right).isBinary other = (op == other) := by
  cases right with
  | binary another middle last =>
    rw [joinLeft]
    split <;> rfl
  | _ => rfl

/-- Applying to a chain from the left is associative. -/
private theorem joinLeft_joinLeft (op : BinaryOp) (left middle right : Expr) :
    joinLeft op left (joinLeft op middle right) = joinLeft op (joinLeft op left middle) right := by
  cases right with
  | binary other first last =>
    by_cases same : other = op
    · rw [joinLeft, joinLeft, if_pos same, if_pos same, joinLeft, if_pos rfl,
        joinLeft_joinLeft op left middle first]
    · rw [joinLeft, joinLeft, if_neg same, if_neg same, joinLeft, if_pos rfl]
  | _ => simp [joinLeft]

/-- Normalising does not make or lose a logical operator at the root. -/
private theorem isBinary_normalised {op : BinaryOp} (logical : op.isLogical = true) (expr : Expr) :
    expr.normalised.isBinary op = expr.isBinary op := by
  cases expr with
  | binary other left right =>
    rw [normalised]
    split
    · exact isBinary_joinLeft other op _ _
    · rename_i notLogical
      have apart : (other == op) = false := by
        simp only [beq_eq_false_iff_ne]
        rintro rfl
        exact notLogical logical
      split <;> simp [isBinary, apart]
  | _ => rfl

/-! ## Where the printer leaves parentheses out -/

/-- The level that an expression is written at. -/
def level : Expr → Level
  | .binary op _ _ => op.level
  | .not _ => .negation
  | .isNull .. | .inList .. | .inQuery .. => .test
  | _ => .primary

private theorem rank_level_of_not_isLogical (op : BinaryOp) :
    op.isLogical = false → Level.negation.rank ≤ op.level.rank := by
  cases op <;> decide

private theorem rank_operand_of_isLogical (chain : Chain) (op : BinaryOp) :
    chain.links op = true → op.isLogical = true → chain.operand.rank ≤ Level.negation.rank := by
  cases chain <;> cases op <;> decide

/-- Beside a logical operator, everything bare but the operator itself is an operand of its
chain. -/
private theorem rank_operand_le {chain : Chain} {op : BinaryOp} (links : chain.links op = true)
    (logical : op.isLogical = true) {expr : Expr} {side : Side}
    (bare : expr.needsGrouping op side = false) (apart : expr.isBinary op = false) :
    chain.operand.rank ≤ expr.level.rank := by
  refine Nat.le_trans (rank_operand_of_isLogical chain op links logical) ?_
  cases expr with
  | binary other _ _ =>
    have different : (other != op) = true := by simpa [isBinary] using apart
    refine rank_level_of_not_isLogical other (Bool.eq_false_iff.mpr fun otherLogical => ?_)
    simp only [needsGrouping, otherLogical, logical, Bool.and_self, ↓reduceIte] at bare
    rw [bare] at different
    cases different
  | not _ => exact Nat.le_refl _
  | isNull _ _ | inList _ _ _ | inQuery _ _ _ =>
    exact (by decide : Level.negation.rank ≤ Level.test.rank)
  | _ => exact (by decide : Level.negation.rank ≤ Level.primary.rank)

/-- Beside a comparison, everything bare is a sum. -/
theorem rank_sum_le {op : BinaryOp} (compares : op.isComparison = true) {expr : Expr} {side : Side}
    (bare : expr.needsGrouping op side = false) :
    (Level.chain .sum).rank ≤ expr.level.rank := by
  have notLogical : op.isLogical = false := by cases op <;> first | rfl | cases compares
  have precedence : op.precedence = 3 := by cases op <;> first | rfl | cases compares
  cases expr with
  | binary other _ _ =>
    simp only [needsGrouping, notLogical, compares, precedence, Bool.and_false, Bool.and_true,
      Bool.false_eq_true, ↓reduceIte] at bare
    have tight : other.isComparison = false ∧ 3 ≤ other.precedence := by
      cases compared : other.isComparison with
      | false =>
        simp only [compared, Bool.false_eq_true, ↓reduceIte, Bool.or_eq_false_iff,
          decide_eq_false_iff_not] at bare
        exact ⟨rfl, Nat.le_of_not_lt bare.1⟩
      | true => simp [compared] at bare
    revert tight
    change _ → _ ≤ other.level.rank
    cases other <;> decide
  | not _ | isNull _ _ | inList _ _ _ | inQuery _ _ _ =>
    rw [needsGrouping, notLogical] at bare
    cases bare
  | _ => exact (by decide : (Level.chain .sum).rank ≤ Level.primary.rank)

theorem level_of_isBinary {chain : Chain} {op : BinaryOp} (links : chain.links op = true)
    {expr : Expr} (same : expr.isBinary op = true) : expr.level = .chain chain := by
  cases expr with
  | binary other _ _ =>
    have equal : other = op := by simpa [isBinary] using same
    exact equal ▸ Chain.level_of_links links
  | _ => cases same

/-- What is atomic is a primary expression. -/
private theorem level_of_isAtomic {expr : Expr} (atomic : expr.isAtomic = true) :
    expr.level = .primary := by
  cases expr with
  | binary _ _ _ | not _ | isNull _ _ | inList _ _ _ | inQuery _ _ _ => cases atomic
  | _ => rfl

end Expr

/-! ## Reading what the printer writes -/

/-- What the operator with the tokens after it makes of a chain before it: the chain goes on. -/
def Joins (chain : Chain) (op : BinaryOp) (tokens : List Token) (right : Expr) : Prop :=
  ∀ before left, Derives (.chain chain) before left →
    Derives (.chain chain) (before ++ .operator op :: tokens) (Expr.joinLeft op left right)

/-- An operand that is not a chain of the operator itself becomes the last one of the chain. -/
private theorem Joins.of_operand {chain : Chain} {op : BinaryOp} (links : chain.links op = true)
    {tokens : List Token} {right : Expr} (operand : Derives chain.operand tokens right)
    (apart : right.isBinary op = false) : Joins chain op tokens right := by
  intro before left derivation
  rw [Expr.joinLeft_of_not_isBinary apart]
  exact derivation.link links operand

/-- A chain on both sides of the operator is one chain. -/
private theorem Joins.chain {chain : Chain} {op : BinaryOp} {tokens more : List Token} {left right : Expr}
    (first : Joins chain op tokens left) (second : Joins chain op more right) :
    Joins chain op (tokens ++ .operator op :: more) (Expr.joinLeft op left right) := by
  intro before start derivation
  have whole := second _ _ (first before start derivation)
  rw [Expr.joinLeft_joinLeft]
  simpa using whole

/-- The tokens are read as the expression in its normal form, and as the continuation of a chain if
the expression is a chain itself. -/
structure Expr.ReadFrom (expr : Expr) (tokens : List Token) : Prop where
  derives : Derives expr.level tokens expr.normalised
  joins {chain : Chain} {op : BinaryOp} (links : chain.links op = true)
    (logical : op.isLogical = true) (same : expr.isBinary op = true) :
    Joins chain op tokens expr.normalised

namespace Expr.ReadFrom

variable {expr : Expr} {fragment : Fragment} {tokens : List Token}

private theorem of_not_isLogical (derives : Derives expr.level tokens expr.normalised)
    (apart : ∀ op, op.isLogical = true → expr.isBinary op = false) : expr.ReadFrom tokens where
  derives := derives
  joins _ logical same := by
    rw [apart _ logical] at same
    cases same

private theorem grouped (read : expr.ReadFrom tokens) (spelled : fragment.Spelled .generic tokens)
    (group : Bool) {level : Level} (fits : group = false → level.rank ≤ expr.level.rank) :
    ∃ tokens, (Fragment.grouped group fragment).Spelled .generic tokens ∧
      Derives level tokens expr.normalised :=
  spelled.grouped read.derives group fits

/-- An operand of a logical operator, on its own or after the operator. -/
private theorem grouped_joins (read : expr.ReadFrom tokens) (spelled : fragment.Spelled .generic tokens)
    {chain : Chain} {op : BinaryOp} (links : chain.links op = true) (logical : op.isLogical = true)
    (side : Side) :
    ∃ tokens, (Fragment.grouped (expr.needsGrouping op side) fragment).Spelled .generic tokens ∧
      Derives (.chain chain) tokens expr.normalised ∧ Joins chain op tokens expr.normalised := by
  cases same : expr.isBinary op with
  | true =>
    have bare : expr.needsGrouping op side = false := by
      cases expr with
      | binary other _ _ =>
        have equal : other = op := by simpa [isBinary] using same
        simp [needsGrouping, equal, logical]
      | _ => cases same
    rw [bare]
    have derives := read.derives
    rw [level_of_isBinary links same] at derives
    exact ⟨tokens, spelled, derives, read.joins links logical same⟩
  | false =>
    have fits (bare : expr.needsGrouping op side = false) : chain.operand.rank ≤ expr.level.rank :=
      rank_operand_le links logical bare same
    obtain ⟨tokens, spelled, derives⟩ := read.grouped spelled _ fits
    refine ⟨tokens, spelled, derives.toChain, Joins.of_operand links derives ?_⟩
    rw [isBinary_normalised logical, same]

end Expr.ReadFrom

/-! ## Forms that were rendered -/

namespace Form

variable {op : BinaryOp} {expr left right : Expr} {rendered before after : Rendering}
  {fragment : Fragment}

private theorem nullTest_eq_ok (given : nullTest op expr rendered = .ok fragment) :
    ∃ negated inner, op.nullNegated? = some negated ∧ rendered = .ok inner ∧
      fragment = Fragment.grouped (expr.needsGrouping op .left) inner ++
        [.text (if negated then " IS NOT NULL" else " IS NULL")] := by
  cases op with
  | eq =>
    obtain ⟨inner, isOk, equal⟩ := bind_eq_ok.mp given
    cases equal
    exact ⟨false, inner, rfl, isOk, rfl⟩
  | notEq =>
    obtain ⟨inner, isOk, equal⟩ := bind_eq_ok.mp given
    cases equal
    exact ⟨true, inner, rfl, isOk, rfl⟩
  | _ => cases given

private theorem binary_eq_ok
    (given : binary Dialect.generic.grammar op left right before after = .ok fragment) :
    ∃ first second, before = .ok first ∧ after = .ok second ∧
      fragment = Fragment.grouped (left.needsGrouping op .left) first ++
        .text (" " ++ op.text ++ " ") :: Fragment.grouped (right.needsGrouping op .right) second := by
  obtain ⟨first, firstOk, rest⟩ := bind_eq_ok.mp given
  obtain ⟨text, spelled, last⟩ := bind_eq_ok.mp rest
  obtain ⟨second, secondOk, equal⟩ := bind_eq_ok.mp last
  cases spelled
  cases equal
  exact ⟨first, second, firstOk, secondOk, by simp⟩

private theorem operand_eq_ok (given : operand expr rendered = .ok fragment) :
    ∃ inner, rendered = .ok inner ∧ fragment = Fragment.grouped (!expr.isAtomic) inner := by
  obtain ⟨inner, isOk, equal⟩ := bind_eq_ok.mp given
  cases equal
  exact ⟨inner, isOk, rfl⟩

end Form

namespace Expr

variable {op : BinaryOp} {left right expr : Expr} {tokens more : List Token}
  {fragment other : Fragment}

private theorem normalised_logical (logical : op.isLogical = true) :
    (binary op left right).normalised = joinLeft op left.normalised right.normalised := by
  rw [normalised, if_pos logical]

private theorem normalised_comparison (compares : op.isComparison = true)
    (leftPresent : left.isNullLiteral = false) (rightPresent : right.isNullLiteral = false) :
    (binary op left right).normalised = .binary op left.normalised right.normalised := by
  have notLogical : ¬ op.isLogical = true := by cases op <;> first | decide | cases compares
  rw [normalised, if_neg notLogical, leftPresent, rightPresent]
  cases op.nullNegated? <;> rfl

/-- A comparison with NULL on either side is a NULL test of the other side. -/
private theorem normalised_null {negated : Bool} (test : op.nullNegated? = some negated) :
    (right.isNullLiteral = true →
      (binary op left right).normalised = .isNull negated left.normalised) ∧
    (left.isNullLiteral = true → right.isNullLiteral = false →
      (binary op left right).normalised = .isNull negated right.normalised) := by
  have notLogical : ¬ op.isLogical = true := by cases op <;> first | decide | cases test
  constructor
  · intro null
    rw [normalised, if_neg notLogical, test, null]
  · intro null present
    rw [normalised, if_neg notLogical, test, null, present]

private theorem isBinary_of_isComparison (compares : op.isComparison = true) {other : BinaryOp}
    (logical : other.isLogical = true) : (binary op left right).isBinary other = false := by
  refine Bool.eq_false_iff.mpr fun same => ?_
  have equal : op = other := by simpa [isBinary] using same
  subst equal
  revert compares logical
  cases op <;> decide

private theorem level_of_isComparison (compares : op.isComparison = true) : op.level = .test := by
  revert compares
  cases op <;> decide

/-- A NULL test written for a comparison is read as one. -/
private theorem ReadFrom.nullTest {operand : Expr} {negated : Bool}
    (test : op.nullNegated? = some negated)
    (equal : (binary op left right).normalised = .isNull negated operand.normalised)
    (read : operand.ReadFrom tokens) (spelled : fragment.Spelled .generic tokens) :
    ∃ tokens, Fragment.Spelled .generic (Fragment.grouped (operand.needsGrouping op .left) fragment ++
        [.text (if negated then " IS NOT NULL" else " IS NULL")]) tokens ∧
      (binary op left right).ReadFrom tokens := by
  have compares : op.isComparison = true := by cases op <;> first | rfl | cases test
  obtain ⟨tested, spelledTest, derives⟩ := read.grouped spelled _ (rank_sum_le compares)
  refine ⟨_, spelledTest.nullTest negated,
    .of_not_isLogical ?_ fun _ logical => isBinary_of_isComparison compares logical⟩
  rw [equal, Expr.level, level_of_isComparison compares]
  exact .test derives (.isNull negated _)

/-- Two operands of a logical operator are read as one chain. -/
private theorem ReadFrom.logical (logical : op.isLogical = true) (before : left.ReadFrom tokens)
    (after : right.ReadFrom more) (spelled : fragment.Spelled .generic tokens)
    (spelledOther : other.Spelled .generic more) :
    ∃ tokens, Fragment.Spelled .generic (Fragment.grouped (left.needsGrouping op .left) fragment ++
        .text (" " ++ op.text ++ " ") :: Fragment.grouped (right.needsGrouping op .right) other)
        tokens ∧
      (binary op left right).ReadFrom tokens := by
  obtain ⟨chain, links⟩ : ∃ chain : Chain, chain.links op = true := by
    cases op with
    | and => exact ⟨.conjunction, rfl⟩
    | or => exact ⟨.disjunction, rfl⟩
    | _ => cases logical
  obtain ⟨first, spelledFirst, firstDerives, firstJoins⟩ :=
    before.grouped_joins spelled links logical .left
  obtain ⟨second, spelledSecond, _, secondJoins⟩ :=
    after.grouped_joins spelledOther links logical .right
  refine ⟨_, spelledFirst.append_open (delimits_operator op) (opens_operator op) spelledSecond,
    ?_, ?_⟩
  · rw [normalised_logical logical, Expr.level, Chain.level_of_links links]
    exact secondJoins first _ firstDerives
  · intro otherChain otherOp otherLinks _ same
    have equal : op = otherOp := by simpa [isBinary] using same
    subst equal
    have sameChain : otherChain = chain := by
      have levels := Chain.level_of_links links
      rw [Chain.level_of_links otherLinks, Level.chain.injEq] at levels
      exact levels
    subst sameChain
    rw [normalised_logical logical]
    exact firstJoins.chain secondJoins

/-- Two operands of a comparison are read as the sums it compares. -/
private theorem ReadFrom.comparison (compares : op.isComparison = true)
    (leftPresent : left.isNullLiteral = false) (rightPresent : right.isNullLiteral = false)
    (before : left.ReadFrom tokens) (after : right.ReadFrom more)
    (spelled : fragment.Spelled .generic tokens) (spelledOther : other.Spelled .generic more) :
    ∃ tokens, Fragment.Spelled .generic (Fragment.grouped (left.needsGrouping op .left) fragment ++
        .text (" " ++ op.text ++ " ") :: Fragment.grouped (right.needsGrouping op .right) other)
        tokens ∧
      (binary op left right).ReadFrom tokens := by
  obtain ⟨first, spelledFirst, firstDerives⟩ := before.grouped spelled _ (rank_sum_le compares)
  obtain ⟨second, spelledSecond, secondDerives⟩ :=
    after.grouped spelledOther _ (rank_sum_le compares)
  refine ⟨_, spelledFirst.append_open (delimits_operator op) (opens_operator op) spelledSecond,
    .of_not_isLogical ?_ fun _ logical => isBinary_of_isComparison compares logical⟩
  rw [normalised_comparison compares leftPresent rightPresent, Expr.level,
    level_of_isComparison compares]
  exact .test firstDerives (.comparison _ compares secondDerives)

/-- The operand of a NOT or of a test is read as a primary expression. -/
private theorem ReadFrom.operand (read : expr.ReadFrom tokens) (spelled : fragment.Spelled .generic tokens) :
    ∃ tokens, (Fragment.grouped (!expr.isAtomic) fragment).Spelled .generic tokens ∧
      Derives .primary tokens expr.normalised := by
  refine read.grouped spelled _ fun bare => ?_
  have atomic : expr.isAtomic = true := by simpa using bare
  exact Nat.le_of_eq (congrArg Level.rank (level_of_isAtomic atomic)).symm

/-- What the printer writes for a predicate is read as its normal form. -/
theorem IsPredicate.readFrom (predicate : expr.IsPredicate) {position : Position}
    (rendered : expr.render Dialect.generic.grammar position = .ok fragment) :
    ∃ tokens, fragment.Spelled .generic tokens ∧ expr.ReadFrom tokens := by
  have standard : Dialect.generic.spelling = {} := rfl
  induction predicate generalizing position fragment with
  | literal value =>
    cases rendered
    obtain ⟨token, literal, spelled⟩ := Fragment.Spelled.value standard value
    exact ⟨_, spelled, .of_not_isLogical (.literal literal) fun _ _ => rfl⟩
  | named name =>
    cases rendered
    exact ⟨_, .name standard name, .of_not_isLogical (.named name) fun _ _ => rfl⟩
  | @binary op left right kind _ _ leftRead rightRead =>
    rw [Expr.render] at rendered
    split at rendered
    · rename_i null
      obtain ⟨negated, inner, test, innerOk, rfl⟩ := Form.nullTest_eq_ok rendered
      obtain ⟨tokens, spelled, read⟩ := leftRead innerOk
      exact ReadFrom.nullTest test ((normalised_null test).1 null) read spelled
    · rename_i rightPresent
      rw [Bool.not_eq_true] at rightPresent
      split at rendered
      · rename_i null
        obtain ⟨negated, inner, test, innerOk, rfl⟩ := Form.nullTest_eq_ok rendered
        obtain ⟨tokens, spelled, read⟩ := rightRead innerOk
        exact ReadFrom.nullTest test ((normalised_null test).2 null rightPresent) read spelled
      · rename_i leftPresent
        rw [Bool.not_eq_true] at leftPresent
        obtain ⟨first, second, firstOk, secondOk, rfl⟩ := Form.binary_eq_ok rendered
        obtain ⟨tokens, spelled, before⟩ := leftRead firstOk
        obtain ⟨more, spelledOther, after⟩ := rightRead secondOk
        rcases kind with logical | compares
        · exact ReadFrom.logical logical before after spelled spelledOther
        · exact ReadFrom.comparison compares leftPresent rightPresent before after spelled
            spelledOther
  | not _ innerRead =>
    obtain ⟨operand, operandOk, equal⟩ := bind_eq_ok.mp rendered
    obtain ⟨inner, innerOk, rfl⟩ := Form.operand_eq_ok operandOk
    cases equal
    obtain ⟨tokens, spelled, read⟩ := innerRead innerOk
    obtain ⟨tokens, spelled, derives⟩ := read.operand spelled
    exact ⟨_, spelled.open_cons opens_not,
      .of_not_isLogical (.not (derives.loosen (by decide))) fun _ _ => rfl⟩
  | isNull negated _ innerRead =>
    obtain ⟨operand, operandOk, equal⟩ := bind_eq_ok.mp rendered
    obtain ⟨inner, innerOk, rfl⟩ := Form.operand_eq_ok operandOk
    cases equal
    obtain ⟨tokens, spelled, read⟩ := innerRead innerOk
    obtain ⟨tokens, spelled, derives⟩ := read.operand spelled
    exact ⟨_, spelled.nullTest negated,
      .of_not_isLogical (.test (derives.loosen (by decide)) (.isNull negated _)) fun _ _ => rfl⟩
  | inList negated first rest _ innerRead =>
    obtain ⟨operand, operandOk, equal⟩ := bind_eq_ok.mp rendered
    obtain ⟨inner, innerOk, rfl⟩ := Form.operand_eq_ok operandOk
    cases equal
    obtain ⟨tokens, spelled, read⟩ := innerRead innerOk
    obtain ⟨tokens, spelled, derives⟩ := read.operand spelled
    obtain ⟨listed, isListed, spelledList⟩ := Fragment.Spelled.values standard first rest
    have closed := spelledList.append_text ⟨')', [], rfl, by decide⟩ (.open_cons opens_closing .nil)
    have test := spelled.append_open (delimits_membership negated) (opens_membership negated) closed
    refine ⟨_, by simpa using test, .of_not_isLogical ?_ fun _ _ => rfl⟩
    simpa [level, normalised] using
      Derives.test (derives.loosen (by decide)) (.inList negated _ isListed)

end Expr

/-! ## The reading of a compiled text -/

/-- The compiled text with its arguments is read as the expression. -/
def Compiled.Reads (compiled : Compiled) (expr : Expr) : Prop :=
  ∃ tokens, lex compiled.arguments compiled.sql.toList = some tokens ∧
    Derives (.chain .disjunction) tokens expr

/-- A predicate with a chain on the right, a comparison with NULL and a list. -/
def mixedPredicate : Expr :=
  .binary .and (.named (.identifier "a b"))
    (.binary .and
      (.binary .or (.named (.identifier "c?"))
        (.not (.binary .notEq (.literal .null) (.named (.identifier "d\"")))))
      (.inList true (.named (.qualified (.identifier "e-") "in ")) [.int 3, .null]))

/-- The text of a predicate is read as its normal form, and as nothing else. -/
theorem Dialect.reads_predicate_iff {expr : Expr} (predicate : expr.IsPredicate)
    {position : Position} {compiled : Compiled}
    (success : generic.appendRendering ⟨"", []⟩ (expr.render generic.grammar position) =
      .ok compiled) (tree : Expr) :
    compiled.Reads tree ↔ tree = expr.normalised := by
  obtain ⟨fragment, rendered, rfl⟩ := appendRendering_eq_ok.mp success
  obtain ⟨tokens, spelled, read⟩ := predicate.readFrom rendered
  have lexed := spelled 0 [] [] delimited_nil
  rw [List.append_nil, List.append_nil, lex_nil, Option.map_some, List.append_nil] at lexed
  have derives := read.derives.loosen expr.level.rank_loosest
  constructor
  · rintro ⟨others, otherLexed, other⟩
    have same : tokens = others := Option.some.inj (lexed.symm.trans otherLexed)
    subst same
    exact other.eq derives
  · rintro rfl
    exact ⟨tokens, lexed, derives⟩

theorem Dialect.reads_predicate_iff_mixedPredicate :
    ∃ compiled : Compiled,
      compiled.sql = "\"a b\" AND (\"c?\" OR NOT (\"d\"\"\" IS NOT NULL)) AND " ++
        "\"e-\".\"in \" NOT IN (?, NULL)" ∧
      compiled.arguments = [.int 3] ∧
      compiled.Reads (.binary .and
        (.binary .and (.named (.identifier "a b"))
          (.binary .or (.named (.identifier "c?"))
            (.not (.isNull true (.named (.identifier "d\""))))))
        (.inList true (.named (.qualified (.identifier "e-") "in ")) [.int 3, .null])) ∧
      ¬ compiled.Reads mixedPredicate := by
  have predicate : mixedPredicate.IsPredicate :=
    .binary (.inl rfl) (.named _)
      (.binary (.inl rfl)
        (.binary (.inl rfl) (.named _) (.not (.binary (.inr rfl) (.literal _) (.named _))))
        (.inList true _ _ (.named _)))
  have success : generic.appendRendering ⟨"", []⟩ (mixedPredicate.render generic.grammar .inner) =
      .ok ⟨"\"a b\" AND (\"c?\" OR NOT (\"d\"\"\" IS NOT NULL)) AND " ++
        "\"e-\".\"in \" NOT IN (?, NULL)", [.int 3]⟩ := rfl
  refine ⟨_, rfl, rfl, (reads_predicate_iff predicate success _).mpr rfl, fun read => ?_⟩
  cases (reads_predicate_iff predicate success _).mp read

end SqlTree
