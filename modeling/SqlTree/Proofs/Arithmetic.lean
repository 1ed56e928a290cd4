import SqlTree.Proofs.Alike
import SqlTree.Proofs.Predicate

/-! # Arithmetic is read back

The text of an arithmetic expression, read with products before sums and each level from left to
right, is the expression itself, except that a sum or a product that stands bare on the right goes
on with the chain before it. Every value survives this for sums. For products it does unless the
product on the right starts with a quotient: `a * (b / c * d)` loses its parentheses, and rounds
`a * b / c` where it should round `b / c`.
-/

namespace SqlTree

namespace BinaryOp

def isArithmetic : BinaryOp → Bool
  | add | sub | mul | div => true
  | _ => false

/-- The operator applied to integers. A quotient loses its fraction, and by zero there is none. -/
def onIntegers? : BinaryOp → Int → Int → Option Int
  | add, x, y => some (x + y)
  | sub, x, y => some (x - y)
  | mul, x, y => some (x * y)
  | div, x, y => if y = 0 then none else some (x.tdiv y)
  | _, _, _ => none

/-- The operator applied to operands that may have no value. -/
def applied? (op : BinaryOp) (left right : Option Int) : Option Int := do
  op.onIntegers? (← left) (← right)

end BinaryOp

namespace Expr

/-- Sums, differences, products and quotients over names and literals other than NULL. -/
inductive IsArithmetic : Expr → Prop where
  | named (name : Name) : IsArithmetic (.named name)
  | literal {value : Value} (present : value.isNull = false) : IsArithmetic (.literal value)
  | binary {op : BinaryOp} {left right : Expr} (kind : op.isArithmetic = true)
      (before : IsArithmetic left) (after : IsArithmetic right) :
      IsArithmetic (.binary op left right)

/-- The value of the expression if its leaves have the values and no division in it is by zero. -/
def value? (leaf : Expr → Int) : Expr → Option Int
  | .binary op left right => op.applied? (left.value? leaf) (right.value? leaf)
  | expr => some (leaf expr)

/-! ## The expression that a text is read as -/

/-- Applies an operator so that a chain of its level on the right is continued on the left. -/
def splice (op : BinaryOp) (left : Expr) : Expr → Expr
  | .binary other middle right =>
    if other.level = op.level then .binary other (splice op left middle) right
    else .binary op left (.binary other middle right)
  | right => .binary op left right

/-- Applies an operator to an operand on the right that may be grouped. -/
def attach (group : Bool) (op : BinaryOp) (left right : Expr) : Expr :=
  if group then .binary op left right else splice op left right

/-- The expression with its bare operands on the right as the continuation of a chain. -/
def spliced : Expr → Expr
  | .binary op left right =>
    attach (right.needsGrouping op .right) op left.spliced right.spliced
  | expr => expr

/-- Whether going down the left operands of products leads to a quotient. -/
def startsDivided : Expr → Bool
  | .binary .div _ _ => true
  | .binary .mul left _ => left.startsDivided
  | _ => false

/-- Whether no product has an operand on its right that is bare and starts with a quotient. -/
def keepsQuotients : Expr → Bool
  | .binary op left right =>
    left.keepsQuotients && right.keepsQuotients &&
      !(op == .mul && !right.needsGrouping op .right && right.startsDivided)
  | _ => true

/-! ## Splicing -/

variable {op other : BinaryOp} {left right : Expr}

private theorem splice_of_level_ne (apart : right.level ≠ op.level) :
    splice op left right = .binary op left right := by
  cases right with
  | binary other middle last =>
    rw [splice, if_neg]
    exact apart
  | _ => rfl

private theorem attach_of_level_ne (apart : right.level ≠ op.level) (group : Bool) :
    attach group op left right = .binary op left right := by
  cases group with
  | true => rfl
  | false => exact splice_of_level_ne apart

/-- Operators of one level reassociate when they are applied from the left. -/
private theorem splice_splice (same : op.level = other.level) (first second third : Expr) :
    splice op first (splice other second third) = splice other (splice op first second) third := by
  cases third with
  | binary another middle last =>
    by_cases linked : another.level = other.level
    · rw [splice, splice, if_pos linked, if_pos linked, splice, if_pos (linked.trans same.symm),
        splice_splice same first second middle]
    · rw [splice, splice, if_neg linked, if_neg linked, splice, if_pos same.symm]
  | _ => simp only [splice, if_pos same.symm]

private theorem splice_attach (same : op.level = other.level) (group : Bool) (first second third : Expr) :
    splice op first (attach group other second third) =
      attach group other (splice op first second) third := by
  cases group with
  | true =>
    rw [attach, attach, if_pos rfl, if_pos rfl, splice, if_pos same.symm]
  | false => exact splice_splice same first second third

private theorem level_splice : (splice op left right).level = op.level := by
  cases right with
  | binary other middle last =>
    rw [splice]
    split
    · assumption
    · rfl
  | _ => rfl

private theorem level_spliced (expr : Expr) : expr.spliced.level = expr.level := by
  cases expr with
  | binary op left right =>
    rw [spliced, attach]
    split
    · rfl
    · exact level_splice
  | _ => rfl

/-! ## Where the printer leaves parentheses out -/

private theorem IsArithmetic.isNullLiteral {expr : Expr} (arithmetic : expr.IsArithmetic) :
    expr.isNullLiteral = false := by
  cases arithmetic with
  | @literal value present =>
    cases value with
    | null => cases present
    | _ => rfl
  | _ => rfl

/-- An operator of arithmetic is an operator of a chain, of sums or of products. -/
theorem exists_links_of_isArithmetic (kind : op.isArithmetic = true) :
    ∃ chain : Chain, chain.links op = true := by
  cases op with
  | add | sub => exact ⟨.sum, rfl⟩
  | mul | div => exact ⟨.product, rfl⟩
  | _ => cases kind

/-- On the left of an operator, what is bare binds at least as tightly, and what is grouped is not
a chain of its level. -/
private theorem IsArithmetic.needsGrouping_left (arithmetic : left.IsArithmetic)
    (kind : op.isArithmetic = true) :
    (left.needsGrouping op .left = false → op.level.rank ≤ left.level.rank) ∧
      (left.needsGrouping op .left = true → left.level ≠ op.level) := by
  cases arithmetic with
  | named name => exact ⟨fun _ => op.level.rank_tightest, nofun⟩
  | literal present => exact ⟨fun _ => op.level.rank_tightest, nofun⟩
  | @binary other _ _ otherKind _ _ =>
    simp only [needsGrouping, level]
    revert kind otherKind
    cases op <;> cases other <;> decide

/-- On the right of an operator, what is bare is a chain of the operator itself or an operand of
its level. -/
theorem IsArithmetic.needsGrouping_right (arithmetic : right.IsArithmetic) {chain : Chain}
    (links : chain.links op = true) (kind : op.isArithmetic = true)
    (bare : right.needsGrouping op .right = false) :
    right.isBinary op = true ∨ chain.operand.rank ≤ right.level.rank := by
  cases arithmetic with
  | named name => exact .inr chain.operand.rank_tightest
  | literal present => exact .inr chain.operand.rank_tightest
  | @binary other _ _ otherKind _ _ =>
    simp only [needsGrouping, level, isBinary] at bare ⊢
    revert links kind otherKind bare
    cases chain <;> cases op <;> cases other <;> decide

end Expr

/-! ## Reading what the printer writes -/

/-- The operator with the tokens after it makes a chain go on with the operand. -/
def Continues (chain : Chain) (group : Bool) (op : BinaryOp) (tokens : List Token)
    (right : Expr) : Prop :=
  ∀ before left, Derives (.chain chain) before left →
    Derives (.chain chain) (before ++ .operator op :: tokens) (Expr.attach group op left right)

namespace Continues

variable {chain : Chain} {group : Bool} {op other : BinaryOp} {tokens more : List Token}
  {left right : Expr}

/-- An operand that is not a chain of the level becomes the last one of the chain. -/
theorem of_operand (links : chain.links op = true) (operand : Derives chain.operand tokens right)
    (apart : group = true ∨ right.level ≠ .chain chain) :
    Continues chain group op tokens right := by
  intro before left derivation
  have last : Expr.attach group op left right = .binary op left right := by
    rcases apart with grouped | apart
    · rw [grouped]
      rfl
    · rw [← Chain.level_of_links links] at apart
      exact Expr.attach_of_level_ne apart group
  rw [last]
  exact derivation.link links operand

/-- An operand that is a chain of the level makes the chain go on with all its operands. -/
private theorem extend (links : chain.links op = true) (otherLinks : chain.links other = true)
    (first : Continues chain false op tokens left)
    (second : Continues chain group other more right) :
    Continues chain false op (tokens ++ .operator other :: more)
      (Expr.attach group other left right) := by
  intro before start derivation
  have whole := second _ _ (first before start derivation)
  have same : op.level = other.level :=
    (Chain.level_of_links links).trans (Chain.level_of_links otherLinks).symm
  have reassociated : Expr.attach false op start (Expr.attach group other left right) =
      Expr.attach group other (Expr.attach false op start left) right :=
    Expr.splice_attach same group start left right
  rw [reassociated]
  simpa using whole

end Continues

/-- The tokens are read as the spliced expression, and as the continuation of a chain if the
expression is a chain itself. -/
structure Expr.SplicedFrom (expr : Expr) (tokens : List Token) : Prop where
  derives : Derives expr.level tokens expr.spliced
  continues {chain : Chain} {op : BinaryOp} (links : chain.links op = true)
    (same : expr.level = .chain chain) : Continues chain false op tokens expr.spliced

namespace Expr.SplicedFrom

variable {dialect : Dialect} {expr left right : Expr} {fragment other : Fragment}
  {tokens more : List Token} {chain : Chain} {op : BinaryOp}

/-- What is no chain has nothing that goes on. -/
private theorem of_primary (derives : Derives .primary tokens expr.spliced)
    (primary : expr.level = .primary) : expr.SplicedFrom tokens where
  derives := primary ▸ derives
  continues _ same := by
    rw [primary] at same
    cases same

/-- The operand on the left begins the chain of the operator, or goes on with one. -/
private theorem left_operand (read : left.SplicedFrom tokens) (arithmetic : left.IsArithmetic)
    (spelled : fragment.Spelled dialect tokens) (links : chain.links op = true)
    (kind : op.isArithmetic = true) :
    ∃ tokens, (fragment.grouped (left.needsGrouping op .left)).Spelled dialect tokens ∧
      Derives (.chain chain) tokens left.spliced ∧
      ∀ other, chain.links other = true → Continues chain false other tokens left.spliced := by
  have opLevel := Chain.level_of_links links
  obtain ⟨tight, loose⟩ := arithmetic.needsGrouping_left kind
  rw [opLevel] at tight loose
  by_cases same : left.level = .chain chain
  · have bare : left.needsGrouping op .left = false :=
      Bool.eq_false_iff.mpr fun grouped => loose grouped same
    have derives := read.derives
    rw [same] at derives
    rw [bare]
    exact ⟨tokens, spelled, derives, fun _ otherLinks => read.continues otherLinks same⟩
  · have fits (bare : left.needsGrouping op .left = false) :
        chain.operand.rank ≤ left.level.rank := by
      have atLeast := tight bare
      have different : (Level.chain chain).rank ≠ left.level.rank :=
        fun ranks => same (Level.rank_injective ranks).symm
      rw [chain.rank_operand_eq]
      omega
    obtain ⟨tokens, spelled, derives⟩ := spelled.grouped read.derives _ fits
    refine ⟨tokens, spelled, derives.toChain, fun other otherLinks => ?_⟩
    rw [← level_spliced] at same
    exact .of_operand otherLinks derives (.inr same)

/-- A chain goes on with the operand on the right, be it grouped or bare. -/
private theorem right_operand (read : right.SplicedFrom tokens) (arithmetic : right.IsArithmetic)
    (spelled : fragment.Spelled dialect tokens) (links : chain.links op = true)
    (kind : op.isArithmetic = true) :
    ∃ tokens, (fragment.grouped (right.needsGrouping op .right)).Spelled dialect tokens ∧
      Continues chain (right.needsGrouping op .right) op tokens right.spliced := by
  cases group : right.needsGrouping op .right with
  | true =>
    obtain ⟨tokens, spelled, derives⟩ := spelled.grouped read.derives true nofun
    exact ⟨tokens, spelled, .of_operand links derives (.inl rfl)⟩
  | false =>
    rcases arithmetic.needsGrouping_right links kind group with same | tight
    · exact ⟨tokens, spelled, read.continues links (level_of_isBinary links same)⟩
    · have apart : right.spliced.level ≠ .chain chain := by
        intro same
        rw [← level_spliced, same, chain.rank_operand_eq] at tight
        omega
      exact ⟨tokens, spelled, .of_operand links (read.derives.loosen tight) (.inr apart)⟩

/-- Two operands with an operator of arithmetic between them are read as one chain. -/
private theorem binary (before : left.SplicedFrom tokens) (after : right.SplicedFrom more)
    (arithmetic : left.IsArithmetic) (otherArithmetic : right.IsArithmetic)
    (spelled : fragment.Spelled dialect tokens) (spelledOther : other.Spelled dialect more)
    (kind : op.isArithmetic = true) :
    ∃ tokens, Fragment.Spelled dialect (fragment.grouped (left.needsGrouping op .left) ++
        .text (" " ++ op.text ++ " ") :: other.grouped (right.needsGrouping op .right)) tokens ∧
      (Expr.binary op left right).SplicedFrom tokens := by
  obtain ⟨chain, links⟩ := exists_links_of_isArithmetic kind
  obtain ⟨first, spelledFirst, firstDerives, firstContinues⟩ :=
    before.left_operand arithmetic spelled links kind
  obtain ⟨second, spelledSecond, secondContinues⟩ :=
    after.right_operand otherArithmetic spelledOther links kind
  refine ⟨_, spelledFirst.append_open (delimits_operator op) (opens_operator op) spelledSecond,
    ?_, ?_⟩
  · rw [Expr.level, Chain.level_of_links links]
    exact secondContinues first _ firstDerives
  · intro otherChain otherOp otherLinks same
    have sameChain : otherChain = chain := by
      rw [Expr.level, Chain.level_of_links links, Level.chain.injEq] at same
      exact same.symm
    subst sameChain
    exact (firstContinues _ otherLinks).extend otherLinks links secondContinues

end Expr.SplicedFrom

/-- Whatever arithmetic is written as, it is read as the spliced expression. -/
theorem Expr.IsArithmetic.splicedFrom {dialect : Dialect} (standard : dialect.Standard)
    {expr : Expr} (arithmetic : expr.IsArithmetic) (position : Position) :
    ∃ fragment tokens, expr.render dialect.grammar position = .ok fragment ∧
      fragment.Spelled dialect tokens ∧ expr.SplicedFrom tokens := by
  induction arithmetic generalizing position with
  | named name => exact ⟨_, _, rfl, .name standard.spelling name, .of_primary (.named name) rfl⟩
  | @literal value _ =>
    obtain ⟨token, literal, spelled⟩ := Fragment.Spelled.value standard.spelling value
    exact ⟨_, _, rfl, spelled, .of_primary (.literal literal) rfl⟩
  | @binary op left right kind leftArithmetic rightArithmetic leftRead rightRead =>
    obtain ⟨first, tokens, firstOk, spelled, before⟩ := leftRead .inner
    obtain ⟨second, more, secondOk, spelledOther, after⟩ := rightRead .inner
    obtain ⟨tokens, spelled, read⟩ :=
      before.binary after leftArithmetic rightArithmetic spelled spelledOther kind
    refine ⟨_, tokens, ?_, spelled, read⟩
    rw [Expr.render, rightArithmetic.isNullLiteral, leftArithmetic.isNullLiteral, firstOk, secondOk,
      Form.binary, Form.operator, standard.operator]
    simp only [Bool.false_eq_true, ↓reduceIte, List.append_assoc, List.singleton_append]
    rfl

/-! ## The value of what is read -/

/-- A sum takes in a sum or a difference on its right, and a product takes in a product. -/
private theorem BinaryOp.applied?_applied? {op other : BinaryOp}
    (pair : op = .add ∧ (other = .add ∨ other = .sub) ∨ op = .mul ∧ other = .mul)
    (first second third : Option Int) :
    other.applied? (op.applied? first second) third =
      op.applied? first (other.applied? second third) := by
  rcases first with _ | first
  · rfl
  rcases second with _ | second
  · rfl
  rcases third with _ | third
  · rcases pair with ⟨rfl, rfl | rfl⟩ | ⟨rfl, rfl⟩ <;> rfl
  rcases pair with ⟨rfl, rfl | rfl⟩ | ⟨rfl, rfl⟩
  · exact congrArg some (Int.add_assoc first second third)
  · exact congrArg some (Int.add_sub_assoc first second third)
  · exact congrArg some (Int.mul_assoc first second third)

namespace Expr

variable {op : BinaryOp} {expr left right : Expr}

/-- The expression may follow the operator without parentheses and keep its value. -/
def Reassociates (op : BinaryOp) (expr : Expr) : Prop :=
  op = .add ∨ op = .mul ∧ expr.startsDivided = false ∨ expr.level ≠ op.level

/-- What the printer leaves bare on the right keeps its value, unless it is part of a product and
starts with a quotient. -/
private theorem IsArithmetic.reassociates (arithmetic : right.IsArithmetic) (kind : op.isArithmetic = true)
    (bare : right.needsGrouping op .right = false)
    (undivided : op = .mul → right.startsDivided = false) : Reassociates op right := by
  obtain ⟨chain, links⟩ := exists_links_of_isArithmetic kind
  rcases arithmetic.needsGrouping_right links kind bare with same | tight
  · cases right with
    | binary other first last =>
      have equal : other = op := by simpa [isBinary] using same
      subst equal
      cases other with
      | add => exact .inl rfl
      | mul => exact .inr (.inl ⟨rfl, undivided rfl⟩)
      | sub | div => cases bare
      | _ => cases kind
    | _ => cases same
  · refine .inr (.inr fun same => ?_)
    rw [same, Chain.level_of_links links, chain.rank_operand_eq] at tight
    omega

/-- An operator that may be moved in front of a chain of its level reassociates with the last
operator of the chain, and may be moved in front of what comes before. -/
private theorem Reassociates.of_binary {other : BinaryOp}
    (reassociates : Reassociates op (.binary other left right)) (same : other.level = op.level) :
    (op = .add ∧ (other = .add ∨ other = .sub) ∨ op = .mul ∧ other = .mul) ∧
      Reassociates op left := by
  rcases reassociates with rfl | ⟨rfl, undivided⟩ | apart
  · refine ⟨.inl ⟨rfl, ?_⟩, .inl rfl⟩
    revert same
    cases other <;> decide
  · cases other with
    | mul => exact ⟨.inr ⟨rfl, rfl⟩, .inr (.inl ⟨rfl, undivided⟩)⟩
    | div => cases undivided
    | _ => cases same
  · exact absurd same apart

/-- Splicing keeps the value of arithmetic in which no bare operand of a product starts with a
quotient, and so does splicing the expression into a chain that it reassociates with. -/
theorem IsArithmetic.value?_spliced (arithmetic : expr.IsArithmetic)
    (keeps : expr.keepsQuotients = true) (leaf : Expr → Int) :
    expr.spliced.value? leaf = expr.value? leaf ∧
      ∀ op left, Reassociates op expr →
        (splice op left expr.spliced).value? leaf =
          op.applied? (left.value? leaf) (expr.value? leaf) := by
  induction arithmetic with
  | named name => exact ⟨rfl, fun _ _ _ => rfl⟩
  | literal present => exact ⟨rfl, fun _ _ _ => rfl⟩
  | @binary other first last kind firstArithmetic lastArithmetic firstValue lastValue =>
    simp only [keepsQuotients, Bool.and_eq_true] at keeps
    obtain ⟨⟨keepsFirst, keepsLast⟩, undivided⟩ := keeps
    obtain ⟨firstEq, firstSplice⟩ := firstValue keepsFirst
    obtain ⟨lastEq, lastSplice⟩ := lastValue keepsLast
    -- Whatever stands on the left, the operand on the right counts as it is.
    have attached (start : Expr) :
        (attach (last.needsGrouping other .right) other start last.spliced).value? leaf =
          other.applied? (start.value? leaf) (last.value? leaf) := by
      cases group : last.needsGrouping other .right with
      | true => exact congrArg (other.applied? _) lastEq
      | false =>
        refine lastSplice other start (lastArithmetic.reassociates kind group fun product => ?_)
        rw [product] at group undivided
        simpa [group] using undivided
    have whole : (Expr.binary other first last).spliced.value? leaf =
        (Expr.binary other first last).value? leaf := by
      rw [spliced, attached, firstEq, value?]
    refine ⟨whole, fun op left reassociates => ?_⟩
    by_cases same : other.level = op.level
    · obtain ⟨pair, reassociatesFirst⟩ := reassociates.of_binary same
      rw [spliced, splice_attach same.symm, attached, firstSplice op left reassociatesFirst,
        BinaryOp.applied?_applied? pair, value?]
    · have apart : (Expr.binary other first last).spliced.level ≠ op.level := by
        rw [level_spliced]
        exact same
      rw [splice_of_level_ne apart, value?, whole]

end Expr

namespace Dialect

/-- The compiled text of an arithmetic expression is read as the spliced expression, and as nothing
else. -/
theorem Standard.reads_spliced {dialect : Dialect} (standard : dialect.Standard) {expr : Expr}
    (arithmetic : expr.IsArithmetic) (position : Position) :
    ∃ compiled : Compiled,
      dialect.appendRendering ⟨"", []⟩ (expr.render dialect.grammar position) = .ok compiled ∧
      ∀ tree, compiled.Reads tree ↔ tree = expr.spliced := by
  obtain ⟨fragment, tokens, rendered, spelled, read⟩ :=
    arithmetic.splicedFrom standard position
  have lexed := spelled 0 [] [] delimited_nil
  rw [List.append_nil, List.append_nil, lex_nil, Option.map_some, List.append_nil] at lexed
  have derives := read.derives.loosen expr.level.rank_loosest
  refine ⟨dialect.append ⟨"", []⟩ fragment, by rw [rendered, appendRendering_ok], fun tree => ?_⟩
  constructor
  · rintro ⟨others, otherLexed, other⟩
    have same : tokens = others := Option.some.inj (lexed.symm.trans otherLexed)
    subst same
    exact other.eq derives
  · rintro rfl
    exact ⟨tokens, lexed, derives⟩

/-- The text of an arithmetic expression is read as one expression, the spliced one, and that one
has the value of the expression for every assignment to the leaves, provided that no product has an
operand on its right that is bare and starts with a quotient. -/
theorem reads_arithmetic {dialect : Dialect} (member : dialect ∈ [generic, sqlite]) {expr : Expr}
    (arithmetic : expr.IsArithmetic) (position : Position) :
    ∃ compiled : Compiled,
      dialect.appendRendering ⟨"", []⟩ (expr.render dialect.grammar position) = .ok compiled ∧
      (∀ tree, compiled.Reads tree ↔ tree = expr.spliced) ∧
      (expr.keepsQuotients = true → ∀ tree, compiled.Reads tree →
        ∀ leaf, tree.value? leaf = expr.value? leaf) := by
  obtain ⟨compiled, success, reads⟩ := (standard_of_mem member).reads_spliced arithmetic position
  refine ⟨compiled, success, reads, fun keeps tree read leaf => ?_⟩
  rw [(reads tree).mp read]
  exact (arithmetic.value?_spliced keeps leaf).1

/-- Sums and products on the right, a grouped difference, and a quotient that ends a product. -/
def nestedArithmetic : Expr :=
  .binary .add (.named (.identifier "a"))
    (.binary .add
      (.binary .sub (.literal (.int 7))
        (.binary .sub (.named (.identifier "b")) (.named (.identifier "c"))))
      (.binary .mul (.named (.identifier "a"))
        (.binary .mul (.named (.identifier "d"))
          (.binary .div (.named (.identifier "e")) (.literal (.int 2))))))

theorem reads_arithmetic_nestedArithmetic :
    nestedArithmetic.keepsQuotients = true ∧ ∃ compiled : Compiled,
      compiled.sql = "a + ? - (b - c) + a * d * (e / ?)" ∧ compiled.arguments = [.int 7, .int 2] ∧
      compiled.Reads nestedArithmetic.spliced ∧
      ∀ tree, compiled.Reads tree → ∀ leaf, tree.value? leaf = nestedArithmetic.value? leaf := by
  have arithmetic : nestedArithmetic.IsArithmetic :=
    .binary rfl (.named _)
      (.binary rfl (.binary rfl (.literal rfl) (.binary rfl (.named _) (.named _)))
        (.binary rfl (.named _)
          (.binary rfl (.named _) (.binary rfl (.named _) (.literal rfl)))))
  have keeps : nestedArithmetic.keepsQuotients = true := by decide
  obtain ⟨compiled, success, reads, value⟩ :=
    reads_arithmetic (by simp : sqlite ∈ [generic, sqlite]) arithmetic .inner
  cases success
  exact ⟨keeps, _, by decide +kernel, rfl, (reads _).mpr rfl, value keeps⟩

/-- A product that starts with a quotient, on the right of a product. -/
def scaledQuotient : Expr :=
  .binary .mul (.named (.identifier "a"))
    (.binary .mul (.binary .div (.named (.identifier "b")) (.named (.identifier "c")))
      (.named (.identifier "d")))

/-- With 2 for `a`, 1 for `b`, 2 for `c` and 1 for `d` the expression is 0, as half of 1 is 0 in
integers, and its text is 1. -/
theorem scaledQuotient_loses_value :
    ∃ (compiled : Compiled) (tree : Expr) (leaf : Expr → Int),
      generic.appendRendering ⟨"", []⟩ (scaledQuotient.render generic.grammar .inner) =
        .ok compiled ∧
      sqlite.appendRendering ⟨"", []⟩ (scaledQuotient.render sqlite.grammar .inner) =
        .ok compiled ∧
      compiled.sql = "a * b / c * d" ∧
      (∀ other, compiled.Reads other ↔ other = tree) ∧
      scaledQuotient.value? leaf = some 0 ∧ tree.value? leaf = some 1 := by
  have arithmetic : scaledQuotient.IsArithmetic :=
    .binary rfl (.named _) (.binary rfl (.binary rfl (.named _) (.named _)) (.named _))
  obtain ⟨compiled, success, reads⟩ :=
    (standard_of_mem (by simp : generic ∈ [generic, sqlite])).reads_spliced arithmetic .inner
  let leaf : Expr → Int
    | .named (.identifier "a") | .named (.identifier "c") => 2
    | _ => 1
  refine ⟨compiled, scaledQuotient.spliced, leaf, success, ?_, ?_, reads, rfl, rfl⟩
  · exact success
  · cases success
    decide +kernel

end Dialect

end SqlTree
