import SqlTree.Proofs.Reading.Grammar

/-! # Every text has one reading

No list of tokens is two different expressions. Two derivations are compared from left to right:
if neither stops before a token that would continue it, they stop at the same place and have read
the same.
-/

namespace SqlTree

namespace Token

/-- The rank of the tightest level that the token can continue; 0 if it continues none. -/
def reach : Token → Nat
  | dot => 7
  | operator .mul | operator .div => 6
  | operator .add | operator .sub => 5
  | operator .and => 2
  | operator .or => 1
  | operator _ | is | not | within => 4
  | _ => 0

private theorem reach_links {chain : Chain} {op : BinaryOp} (links : chain.links op = true) :
    (operator op).reach = (Level.chain chain).rank := by
  cases chain <;> cases op <;> first | rfl | cases links

private theorem reach_isComparison {op : BinaryOp} (compares : op.isComparison = true) :
    (operator op).reach = 4 := by
  cases op <;> first | rfl | cases compares

end Token

/-- The text does not begin with a token that would continue an expression of the level. -/
def Quiet (level : Level) (rest : List Token) : Prop :=
  ∀ token ∈ rest.head?, token.reach < level.rank

private theorem Quiet.tighten {level tighter : Level} {rest : List Token} (quiet : Quiet level rest)
    (ranks : level.rank ≤ tighter.rank) : Quiet tighter rest :=
  fun token head => Nat.lt_of_lt_of_le (quiet token head) ranks

private theorem quiet_cons {level : Level} {token : Token} {rest : List Token} :
    Quiet level (token :: rest) ↔ token.reach < level.rank := by
  simp [Quiet]

private theorem Chain.rank_operand (chain : Chain) :
    (Level.chain chain).rank < chain.operand.rank := by
  rw [chain.rank_operand_eq]
  exact Nat.lt_succ_self _

/-- What links to a chain does not continue its operand. -/
theorem Linked.quiet {chain : Chain} {first expr : Expr} {tokens rest : List Token}
    (linked : Linked chain first tokens expr) (quiet : Quiet (.chain chain) rest) :
    Quiet chain.operand (tokens ++ rest) := by
  cases linked with
  | done => exact quiet.tighten (Nat.le_of_lt chain.rank_operand)
  | link links _ _ =>
    refine quiet_cons.mpr ?_
    rw [Token.reach_links links]
    exact chain.rank_operand

/-- What a test says does not continue its operand. -/
theorem Tested.quiet {operand expr : Expr} {tokens rest : List Token}
    (tested : Tested operand tokens expr) (quiet : Quiet .test rest) :
    Quiet (.chain .sum) (tokens ++ rest) := by
  cases tested with
  | bare => exact quiet.tighten (by decide)
  | comparison _ compares _ =>
    refine quiet_cons.mpr ?_
    rw [Token.reach_isComparison compares]
    decide
  | isNull negated _ => exact quiet_cons.mpr (by decide)
  | inList negated _ _ => cases negated <;> exact quiet_cons.mpr (by decide)

/-! ## Names and lists -/

namespace Token

/-- The identifiers with a dot before each. -/
def dotted : List String → List Token
  | [] => []
  | id :: rest => dot :: identifier id :: dotted rest

private theorem dotted_append (first second : List String) :
    dotted (first ++ second) = dotted first ++ dotted second := by
  induction first with
  | nil => rfl
  | cons id rest ih => simp [dotted, ih]

private theorem exists_ofName (name : Name) :
    ∃ outermost inner, name.parts = outermost :: inner ∧
      ofName name = identifier outermost :: dotted inner := by
  induction name with
  | identifier id => exact ⟨id, [], rfl, rfl⟩
  | qualified parent id ih =>
    obtain ⟨outermost, inner, parts, tokens⟩ := ih
    refine ⟨outermost, inner ++ [id], ?_, ?_⟩
    · rw [Name.parts, parts, List.cons_append]
    · rw [ofName, tokens, dotted_append]
      rfl

private theorem dotted_unique {first second : List String} {rest other : List Token}
    (same : dotted first ++ rest = dotted second ++ other) (quiet : Quiet .primary rest)
    (otherQuiet : Quiet .primary other) : rest = other ∧ first = second := by
  induction first generalizing second with
  | nil =>
    cases second with
    | nil => exact ⟨same, rfl⟩
    | cons id ids =>
      subst same
      exact absurd (quiet_cons.mp quiet) (by decide)
  | cons id ids ih =>
    cases second with
    | nil =>
      subst same
      exact absurd (quiet_cons.mp otherQuiet) (by decide)
    | cons otherId otherIds =>
      simp only [dotted, List.cons_append, List.cons.injEq, true_and, identifier.injEq] at same
      obtain ⟨sameId, sameRest⟩ := same
      obtain ⟨rests, ids⟩ := ih sameRest
      exact ⟨rests, by rw [sameId, ids]⟩

private theorem ofName_unique {name another : Name} {rest other : List Token}
    (same : ofName name ++ rest = ofName another ++ other) (quiet : Quiet .primary rest)
    (otherQuiet : Quiet .primary other) : rest = other ∧ name = another := by
  obtain ⟨outermost, inner, parts, tokens⟩ := exists_ofName name
  obtain ⟨otherOutermost, otherInner, otherParts, otherTokens⟩ := exists_ofName another
  rw [tokens, otherTokens, List.cons_append, List.cons_append, List.cons.injEq,
    identifier.injEq] at same
  obtain ⟨rests, inners⟩ := dotted_unique same.2 quiet otherQuiet
  exact ⟨rests, Name.eq_of_parts_eq (by rw [parts, otherParts, same.1, inners])⟩

end Token

theorem Listed.unique {tokens others : List Token} {values otherValues : List Value}
    {rest other : List Token} (listed : Listed tokens values) (otherListed : Listed others otherValues)
    (same : tokens ++ .closing :: rest = others ++ .closing :: other) :
    rest = other ∧ values = otherValues := by
  induction listed generalizing others otherValues with
  | last literal =>
    cases otherListed with
    | last otherLiteral =>
      simp only [List.singleton_append, List.cons.injEq, true_and] at same
      obtain ⟨rfl, rests⟩ := same
      rw [literal, Option.some.injEq] at otherLiteral
      exact ⟨rests, by rw [otherLiteral]⟩
    | more _ _ => simp at same
  | more literal _ ih =>
    cases otherListed with
    | last _ => simp at same
    | more otherLiteral otherRest =>
      simp only [List.cons_append, List.cons.injEq, true_and] at same
      obtain ⟨rfl, sameRest⟩ := same
      rw [literal, Option.some.injEq] at otherLiteral
      obtain ⟨rests, values⟩ := ih otherRest sameRest
      exact ⟨rests, by rw [otherLiteral, values]⟩

/-! ## Expressions -/

/-- No operand of a test begins with NOT. -/
theorem Derives.exists_cons {level : Level} {tokens : List Token} {expr : Expr}
    (ranks : 4 ≤ level.rank) :
    Derives level tokens expr → ∃ token rest, tokens = token :: rest ∧ token ≠ .not
  | .chain kind operand _ => by
    have tighter : 4 ≤ kind.operand.rank := Nat.le_trans ranks (Nat.le_of_lt kind.rank_operand)
    obtain ⟨token, rest, rfl, apart⟩ := operand.exists_cons tighter
    exact ⟨token, _, rfl, apart⟩
  | .not _ => absurd ranks (by decide)
  | .positive _ => absurd ranks (by decide)
  | .test tested _ => by
    obtain ⟨token, rest, rfl, apart⟩ := tested.exists_cons (by decide)
    exact ⟨token, _, rfl, apart⟩
  | .literal given => ⟨_, [], rfl, by rintro rfl; cases given⟩
  | .named name => by
    obtain ⟨outermost, inner, _, tokens⟩ := Token.exists_ofName name
    exact ⟨_, _, tokens, by simp⟩
  | .parenthesised _ => ⟨_, _, rfl, by simp⟩

mutual

/-- Two derivations of a level that no token continues read the same. -/
theorem Derives.unique {level : Level} {tokens : List Token} {expr : Expr} :
    Derives level tokens expr → ∀ {others rest otherRest : List Token} {another : Expr},
      Derives level others another → tokens ++ rest = others ++ otherRest → Quiet level rest →
      Quiet level otherRest → rest = otherRest ∧ expr = another
  | .chain kind operand linked, _, _, _, _, derivation, same, quiet, otherQuiet => by
    cases derivation with
    | chain _ otherOperand otherLinked =>
      rw [List.append_assoc, List.append_assoc] at same
      obtain ⟨sameRest, rfl⟩ := operand.unique otherOperand same (linked.quiet quiet)
        (otherLinked.quiet otherQuiet)
      exact linked.unique otherLinked sameRest quiet otherQuiet
  | .not operand, _, _, _, _, derivation, same, quiet, otherQuiet => by
    cases derivation with
    | not otherOperand =>
      obtain ⟨rests, rfl⟩ := operand.unique otherOperand (List.cons.inj same).2 quiet otherQuiet
      exact ⟨rests, rfl⟩
    | positive test =>
      obtain ⟨token, _, rfl, apart⟩ := test.exists_cons (by decide)
      exact absurd (List.cons.inj same).1.symm apart
  | .positive test, _, _, _, _, derivation, same, quiet, otherQuiet => by
    cases derivation with
    | not _ =>
      obtain ⟨token, _, rfl, apart⟩ := test.exists_cons (by decide)
      exact absurd (List.cons.inj same).1 apart
    | positive otherTest =>
      exact test.unique otherTest same (quiet.tighten (by decide)) (otherQuiet.tighten (by decide))
  | .test operand tested, _, _, _, _, derivation, same, quiet, otherQuiet => by
    cases derivation with
    | test otherOperand otherTested =>
      rw [List.append_assoc, List.append_assoc] at same
      obtain ⟨sameRest, rfl⟩ := operand.unique otherOperand same (tested.quiet quiet)
        (otherTested.quiet otherQuiet)
      exact tested.unique otherTested sameRest quiet otherQuiet
  | .literal literal, _, _, _, _, derivation, same, _, _ => by
    cases derivation with
    | literal otherLiteral =>
      obtain ⟨rfl, rests⟩ := List.cons.inj same
      rw [literal, Option.some.injEq] at otherLiteral
      exact ⟨rests, by rw [otherLiteral]⟩
    | named name =>
      obtain ⟨_, _, _, tokens⟩ := Token.exists_ofName name
      rw [tokens] at same
      obtain ⟨rfl, _⟩ := List.cons.inj same
      cases literal
    | parenthesised _ =>
      obtain ⟨rfl, _⟩ := List.cons.inj same
      cases literal
  | .named name, _, _, _, _, derivation, same, quiet, otherQuiet => by
    obtain ⟨_, _, _, tokens⟩ := Token.exists_ofName name
    cases derivation with
    | literal literal =>
      rw [tokens] at same
      obtain ⟨rfl, _⟩ := List.cons.inj same
      cases literal
    | named another =>
      obtain ⟨rests, rfl⟩ := Token.ofName_unique same quiet otherQuiet
      exact ⟨rests, rfl⟩
    | parenthesised _ =>
      rw [tokens] at same
      cases (List.cons.inj same).1
  | .parenthesised inner, _, _, _, _, derivation, same, _, _ => by
    cases derivation with
    | literal literal =>
      obtain ⟨rfl, _⟩ := List.cons.inj same
      cases literal
    | named name =>
      obtain ⟨_, _, _, tokens⟩ := Token.exists_ofName name
      rw [tokens] at same
      cases (List.cons.inj same).1
    | parenthesised otherInner =>
      simp only [List.cons_append, List.append_assoc, List.cons.injEq, true_and] at same
      obtain ⟨rests, rfl⟩ := inner.unique otherInner same (quiet_cons.mpr (by decide))
        (quiet_cons.mpr (by decide))
      exact ⟨(List.cons.inj rests).2, rfl⟩

/-- Two chains that go on from the same expression read the same. -/
theorem Linked.unique {chain : Chain} {first expr : Expr} {tokens : List Token} :
    Linked chain first tokens expr → ∀ {others rest otherRest : List Token} {another : Expr},
      Linked chain first others another → tokens ++ rest = others ++ otherRest →
      Quiet (.chain chain) rest → Quiet (.chain chain) otherRest →
      rest = otherRest ∧ expr = another
  | .done _ _, _, _, _, _, derivation, same, quiet, _ => by
    cases derivation with
    | done => exact ⟨same, rfl⟩
    | link links _ _ =>
      subst same
      exact absurd (quiet_cons.mp quiet) (by simp [Token.reach_links links])
  | .link links operand linked, _, _, _, _, derivation, same, quiet, otherQuiet => by
    cases derivation with
    | done =>
      subst same
      exact absurd (quiet_cons.mp otherQuiet) (by simp [Token.reach_links links])
    | link otherLinks otherOperand otherLinked =>
      simp only [List.cons_append, List.append_assoc, List.cons.injEq, Token.operator.injEq] at same
      obtain ⟨rfl, sameRest⟩ := same
      obtain ⟨rests, rfl⟩ := operand.unique otherOperand sameRest (linked.quiet quiet)
        (otherLinked.quiet otherQuiet)
      exact linked.unique otherLinked rests quiet otherQuiet

/-- Two tests of the same operand read the same. -/
theorem Tested.unique {operand expr : Expr} {tokens : List Token} :
    Tested operand tokens expr → ∀ {others rest otherRest : List Token} {another : Expr},
      Tested operand others another → tokens ++ rest = others ++ otherRest → Quiet .test rest →
      Quiet .test otherRest → rest = otherRest ∧ expr = another
  | .bare _, _, _, _, _, derivation, same, quiet, _ => by
    cases derivation with
    | bare => exact ⟨same, rfl⟩
    | comparison _ compares _ =>
      subst same
      exact absurd (quiet_cons.mp quiet) (by simp [Token.reach_isComparison compares, Level.rank])
    | isNull negated _ =>
      subst same
      exact absurd (quiet_cons.mp quiet) (by decide)
    | inList negated _ _ =>
      subst same
      cases negated <;> exact absurd (quiet_cons.mp quiet) (by decide)
  | .comparison _ compares right, _, _, _, _, derivation, same, quiet, otherQuiet => by
    cases derivation with
    | bare =>
      subst same
      exact absurd (quiet_cons.mp otherQuiet) (by simp [Token.reach_isComparison compares, Level.rank])
    | comparison _ _ otherRight =>
      obtain ⟨sameOp, sameRest⟩ := List.cons.inj same
      cases sameOp
      obtain ⟨rests, rfl⟩ := right.unique otherRight sameRest (quiet.tighten (by decide))
        (otherQuiet.tighten (by decide))
      exact ⟨rests, rfl⟩
    | isNull _ _ => cases (List.cons.inj same).1
    | inList negated _ _ => cases negated <;> cases (List.cons.inj same).1
  | .isNull negated _, _, _, _, _, derivation, same, quiet, otherQuiet => by
    cases derivation with
    | bare =>
      subst same
      exact absurd (quiet_cons.mp otherQuiet) (by decide)
    | comparison _ _ _ => cases (List.cons.inj same).1
    | isNull otherNegated _ =>
      cases negated <;> cases otherNegated <;> cases same <;> exact ⟨rfl, rfl⟩
    | inList otherNegated _ _ => cases otherNegated <;> cases (List.cons.inj same).1
  | .inList negated _ listed, _, _, _, _, derivation, same, quiet, otherQuiet => by
    cases derivation with
    | bare =>
      subst same
      cases negated <;> exact absurd (quiet_cons.mp otherQuiet) (by decide)
    | comparison _ _ _ => cases negated <;> cases (List.cons.inj same).1
    | isNull _ _ => cases negated <;> cases (List.cons.inj same).1
    | inList otherNegated _ otherListed =>
      have both : negated = otherNegated := by
        cases negated <;> cases otherNegated <;> first | rfl | cases (List.cons.inj same).1
      subst both
      simp only [List.append_assoc, List.cons_append, List.append_cancel_left_eq, List.cons.injEq,
        true_and, List.nil_append] at same
      obtain ⟨rests, rfl⟩ := listed.unique otherListed same
      exact ⟨rests, rfl⟩

end

/-- No list of tokens is two expressions. -/
theorem Derives.eq {level : Level} {tokens : List Token} {expr another : Expr}
    (derivation : Derives level tokens expr) (other : Derives level tokens another) :
    expr = another := by
  have quiet : Quiet level [] := by simp [Quiet]
  exact (derivation.unique other rfl quiet quiet).2

end SqlTree
