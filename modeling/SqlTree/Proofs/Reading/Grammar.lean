import SqlTree.Proofs.Reading.Token

/-! # The grammar of expressions

How tokens are read as an expression. OR is looser than AND, AND than NOT, NOT than the tests; a
test compares two sums, or is a single NULL test or membership test of one, and tests do not chain.
Sums and products bind tighter, and anything may stand between parentheses. A chain of operators of
one level is applied from left to right.
-/

namespace SqlTree

/-- A level of operators that are applied from left to right. -/
inductive Chain where
  | disjunction | conjunction | sum | product
deriving DecidableEq, Repr

/-- A level of the grammar. -/
inductive Level where
  | chain (chain : Chain)
  | negation | test | primary
deriving DecidableEq, Repr

namespace Chain

def operand : Chain → Level
  | disjunction => .chain conjunction
  | conjunction => .negation
  | sum => .chain product
  | product => .primary

def links : Chain → BinaryOp → Bool
  | disjunction, op => op == .or
  | conjunction, op => op == .and
  | sum, op => op == .add || op == .sub
  | product, op => op == .mul || op == .div

end Chain

def BinaryOp.level : BinaryOp → Level
  | .or => .chain .disjunction
  | .and => .chain .conjunction
  | .eq | .notEq | .lt | .ltEq | .gt | .gtEq | .like => .test
  | .add | .sub => .chain .sum
  | .mul | .div => .chain .product

namespace Chain

theorem level_of_links {chain : Chain} {op : BinaryOp} (links : chain.links op = true) :
    op.level = .chain chain := by
  cases chain <;> cases op <;> first | rfl | cases links

end Chain

namespace Token

/-- The value that a token is on its own. -/
def literal? : Token → Option Value
  | .value given => some given
  | .null => some .null
  | _ => none

/-- The tokens of NOT, if it is there. -/
def negation (negated : Bool) : List Token :=
  if negated then [not] else []

/-- The identifiers of a name with dots between them. -/
def ofName : Name → List Token
  | .identifier id => [identifier id]
  | .qualified parent id => ofName parent ++ [dot, identifier id]

end Token

/-- The tokens are values with commas between them. -/
inductive Listed : List Token → List Value → Prop where
  | last {token : Token} {value : Value} (literal : token.literal? = some value) :
      Listed [token] [value]
  | more {token : Token} {value : Value} {tokens : List Token} {values : List Value}
      (literal : token.literal? = some value) (rest : Listed tokens values) :
      Listed (token :: .comma :: tokens) (value :: values)

mutual

/-- The tokens are an expression of the level. -/
inductive Derives : Level → List Token → Expr → Prop where
  | chain (chain : Chain) {tokens more : List Token} {first expr : Expr}
      (operand : Derives chain.operand tokens first) (rest : Linked chain first more expr) :
      Derives (.chain chain) (tokens ++ more) expr
  | not {tokens : List Token} {expr : Expr} (operand : Derives .negation tokens expr) :
      Derives .negation (.not :: tokens) (.not expr)
  | positive {tokens : List Token} {expr : Expr} (test : Derives .test tokens expr) :
      Derives .negation tokens expr
  | test {tokens more : List Token} {operand expr : Expr}
      (tested : Derives (.chain .sum) tokens operand) (rest : Tested operand more expr) :
      Derives .test (tokens ++ more) expr
  | literal {token : Token} {value : Value} (literal : token.literal? = some value) :
      Derives .primary [token] (.literal value)
  | named (name : Name) : Derives .primary (Token.ofName name) (.named name)
  | parenthesised {tokens : List Token} {expr : Expr}
      (inner : Derives (.chain .disjunction) tokens expr) :
      Derives .primary (.opening :: tokens ++ [.closing]) expr

/-- The tokens go on with a chain, which was `first` so far, and make it the whole expression. -/
inductive Linked : Chain → Expr → List Token → Expr → Prop where
  | done (chain : Chain) (expr : Expr) : Linked chain expr [] expr
  | link {chain : Chain} {op : BinaryOp} {first operand expr : Expr} {tokens more : List Token}
      (links : chain.links op = true) (next : Derives chain.operand tokens operand)
      (rest : Linked chain (.binary op first operand) more expr) :
      Linked chain first (.operator op :: tokens ++ more) expr

/-- The tokens are what a test says of the operand. -/
inductive Tested : Expr → List Token → Expr → Prop where
  | bare (operand : Expr) : Tested operand [] operand
  | comparison {op : BinaryOp} (left : Expr) {right : Expr} {tokens : List Token}
      (compares : op.isComparison = true) (next : Derives (.chain .sum) tokens right) :
      Tested left (.operator op :: tokens) (.binary op left right)
  | isNull (negated : Bool) (operand : Expr) :
      Tested operand (.is :: Token.negation negated ++ [.null]) (.isNull negated operand)
  | inList (negated : Bool) (operand : Expr) {tokens : List Token} {values : List Value}
      (listed : Listed tokens values) :
      Tested operand (Token.negation negated ++ .within :: .opening :: tokens ++ [.closing])
        (.inList negated operand values)

end

/-! ## Putting derivations together -/

/-- An operand added to a chain is applied to the whole chain. -/
private theorem Linked.snoc {chain : Chain} {op : BinaryOp} (links : chain.links op = true)
    {first left right : Expr} {tokens more : List Token} (before : Linked chain first tokens left)
    (next : Derives chain.operand more right) :
    Linked chain first (tokens ++ .operator op :: more) (.binary op left right) := by
  match before with
  | .done _ _ => simpa using Linked.link links next (.done chain _)
  | .link linked operand rest =>
    simpa using Linked.link linked operand (rest.snoc links next)

/-- A chain with one more operand is a chain. -/
theorem Derives.link {chain : Chain} {op : BinaryOp} (links : chain.links op = true)
    {left right : Expr} {tokens more : List Token} (before : Derives (.chain chain) tokens left)
    (next : Derives chain.operand more right) :
    Derives (.chain chain) (tokens ++ .operator op :: more) (.binary op left right) := by
  cases before with
  | chain _ operand rest =>
    rw [List.append_assoc]
    exact .chain chain operand (rest.snoc links next)

namespace Level

/-- How tightly a level binds. -/
def rank : Level → Nat
  | chain .disjunction => 1
  | chain .conjunction => 2
  | negation => 3
  | test => 4
  | chain .sum => 5
  | chain .product => 6
  | primary => 7

theorem rank_injective {first second : Level} (same : first.rank = second.rank) :
    first = second := by
  rcases first with (_ | _ | _ | _) | _ | _ | _ <;>
    rcases second with (_ | _ | _ | _) | _ | _ | _ <;> first | rfl | cases same

theorem rank_loosest (level : Level) : (chain .disjunction).rank ≤ level.rank := by
  rcases level with (_ | _ | _ | _) | _ | _ | _ <;> decide

theorem rank_tightest (level : Level) : level.rank ≤ primary.rank := by
  rcases level with (_ | _ | _ | _) | _ | _ | _ <;> decide

end Level

theorem Chain.rank_operand_eq (chain : Chain) :
    chain.operand.rank = (Level.chain chain).rank + 1 := by
  cases chain <;> rfl

theorem Derives.toChain (chain : Chain) {tokens : List Token} {expr : Expr}
    (operand : Derives chain.operand tokens expr) : Derives (.chain chain) tokens expr := by
  simpa using Derives.chain chain operand (.done chain expr)

private theorem Derives.toTest {tokens : List Token} {expr : Expr}
    (operand : Derives (.chain .sum) tokens expr) : Derives .test tokens expr := by
  simpa using Derives.test operand (.bare expr)

/-- Every level but the loosest is part of the level before it. -/
private theorem Level.exists_looser {level : Level} (tighter : 1 < level.rank) :
    ∃ looser : Level, looser.rank + 1 = level.rank ∧
      ∀ tokens expr, Derives level tokens expr → Derives looser tokens expr := by
  rcases level with (_ | _ | _ | _) | _ | _ | _
  · exact absurd tighter (by decide)
  · exact ⟨.chain .disjunction, rfl, fun _ _ => Derives.toChain .disjunction⟩
  · exact ⟨.test, rfl, fun _ _ => Derives.toTest⟩
  · exact ⟨.chain .sum, rfl, fun _ _ => Derives.toChain .sum⟩
  · exact ⟨.chain .conjunction, rfl, fun _ _ => Derives.toChain .conjunction⟩
  · exact ⟨.negation, rfl, fun _ _ => Derives.positive⟩
  · exact ⟨.chain .product, rfl, fun _ _ => Derives.toChain .product⟩

/-- An expression of a level is an expression of every looser level. -/
theorem Derives.loosen {level looser : Level} {tokens : List Token} {expr : Expr}
    (derivation : Derives level tokens expr) (ranks : looser.rank ≤ level.rank) :
    Derives looser tokens expr := by
  induction gap : level.rank - looser.rank generalizing level with
  | zero =>
    have same : level = looser := Level.rank_injective (by omega)
    exact same ▸ derivation
  | succ n ih =>
    have loosest : 1 ≤ looser.rank := looser.rank_loosest
    obtain ⟨next, rank, step⟩ := Level.exists_looser (by omega : 1 < level.rank)
    exact ih (step _ _ derivation) (by omega) (by omega)

end SqlTree
