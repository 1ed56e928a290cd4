import SqlTree.Proofs.Alike.Tree
import SqlTree.Proofs.Site

/-! # Sites that differ in values only

Trees that differ in values only have sites that do, one by one: where one tree has a value, the
other has the value that is related to it, and row counts and settings are the same in both. Sites
that differ in values only have equally many arguments, so what the arguments of two such trees have
in common is read off their sites.
-/

namespace SqlTree

/-- Sites that differ in values only. -/
inductive Site.Alike (function : String → Prop) (same : Value → Value → Prop) :
    Site → Site → Prop where
  | expr (position : Position) {expr other : Expr} (alike : Expr.Alike function same expr other) :
      Site.Alike function same (.expr position expr) (.expr position other)
  | query {query other : Query} (alike : Query.Alike function same query other) :
      Site.Alike function same (.query query) (.query other)
  | limit (count offset : UInt64) :
      Site.Alike function same (.limit count offset) (.limit count offset)
  | extension {node other : Extension} (alike : Extension.Alike function same node other) :
      Site.Alike function same (.extension node) (.extension other)
  | value {value other : Value} (related : same value other) :
      Site.Alike function same (.value value) (.value other)
  | setting (value : Value) : Site.Alike function same (.setting value) (.setting value)

abbrev Site.AllAlike (function : String → Prop) (same : Value → Value → Prop) :
    List Site → List Site → Prop :=
  List.Forall₂ (Site.Alike function same)

variable {function : String → Prop} {same : Value → Value → Prop}

namespace Site

theorem Alike.length_arguments
    (null : ∀ value other, same value other → value.isNull = other.isNull) {site other : Site}
    (alike : site.Alike function same other) :
    site.arguments.length = other.arguments.length := by
  cases alike with
  | value related =>
    rw [arguments, arguments, null _ _ related]
    split <;> rfl
  | _ => rfl

namespace AllAlike

variable {sites others more rest : List Site}

theorem append (first : AllAlike function same sites others)
    (second : AllAlike function same more rest) :
    AllAlike function same (sites ++ more) (others ++ rest) :=
  List.rel_append first second

theorem repeated (count : Nat) (all : AllAlike function same sites others) :
    AllAlike function same (Site.repeated count sites) (Site.repeated count others) := by
  induction count with
  | zero => exact .nil
  | succ count ih =>
    rw [Site.repeated, Site.repeated, List.replicate_succ, List.replicate_succ,
      List.flatten_cons, List.flatten_cons]
    exact all.append ih

theorem length_arguments (null : ∀ value other, same value other → value.isNull = other.isNull)
    (all : AllAlike function same sites others) :
    (sites.flatMap arguments).length = (others.flatMap arguments).length := by
  induction all with
  | nil => rfl
  | cons first _ ih =>
    rw [List.flatMap_cons, List.flatMap_cons, List.length_append, List.length_append,
      first.length_arguments null, ih]

theorem values {members others : List Value} (all : List.Forall₂ same members others) :
    AllAlike function same (members.map .value) (others.map .value) := by
  rw [AllAlike, List.forall₂_map_left_iff, List.forall₂_map_right_iff]
  exact all.imp fun _ _ => .value

theorem settings (all : ∀ site ∈ sites, ∃ value, site = .setting value) :
    AllAlike function same sites sites := by
  refine List.forall₂_same.mpr fun site member => ?_
  obtain ⟨value, rfl⟩ := all site member
  exact .setting value

end AllAlike

end Site

private theorem Query.sites_eq (copies : Nat) (query : Query) :
    query.sites copies = .query query ::
      (Expr.sitesOfAll copies .entry query.selection ++
        ((Element.sitesOfOption copies query.source ++ Join.sitesOfAll copies query.joins) ++
          (Expr.sitesOfAll copies .inner query.filter ++
            (Expr.sitesOfAll copies .inner query.grouping ++
              (Expr.sitesOfAll copies .inner query.having ++
                (Order.sitesOfAll copies copies query.order ++
                  (Modifier.sitesOfAll copies query.modifiers ++
                    Union.sitesOfAll copies query.unions))))))) := by
  cases query
  rfl

open Site (AllAlike exists_setting_of_mem_ite exists_setting_of_mem_truncationConstant)

mutual

/-- The sites of alike expressions are alike, one by one. -/
theorem Expr.Alike.sites (copies : Nat) (position : Position) :
    {expr other : Expr} → Expr.Alike function same expr other →
      AllAlike function same (expr.sites copies position) (other.sites copies position)
  | _, _, .literal related => .cons (.expr position (.literal related)) (.cons (.value related) .nil)
  | _, _, .named name => .cons (.expr position (.named name)) .nil
  | _, _, .binary op lefts rights =>
    .cons (.expr position (.binary op lefts rights))
      ((lefts.sites copies .inner).append (rights.sites copies .inner))
  | _, _, .not operands => .cons (.expr position (.not operands)) (operands.sites copies .inner)
  | _, _, .isNull negated operands =>
    .cons (.expr position (.isNull negated operands)) (operands.sites copies .inner)
  | _, _, .inList negated operands listed => by
    refine .cons (.expr position (.inList negated operands listed)) ?_
    cases listed with
    | nil => exact .nil
    | cons first tail => exact (operands.sites copies .inner).append (.values (.cons first tail))
  | _, _, .inQuery negated operands rows =>
    .cons (.expr position (.inQuery negated operands rows))
      ((operands.sites copies .inner).append (rows.sites copies))
  | _, _, .call named arguments =>
    .cons (.expr position (.call named arguments)) (arguments.sites copies .inner)
  | _, _, .countAll distinct => .cons (.expr position (.countAll distinct)) .nil
  | _, _, .count distinct operands =>
    .cons (.expr position (.count distinct operands)) (operands.sites copies .inner)
  | _, _, .case target branches otherwise =>
    .cons (.expr position (.case target branches otherwise))
      ((target.sites copies).append ((branches.sites copies).append (otherwise.sites copies)))
  | _, _, .subquery rows => .cons (.expr position (.subquery rows)) (rows.sites copies)
  | _, _, .alias name exprs => by
    refine .cons (.expr position (.alias name exprs)) ?_
    cases position with
    | entry => exact exprs.sites copies .inner
    | inner => exact .nil
  | _, _, .allColumns elements => .cons (.expr position (.allColumns elements)) .nil
  | _, _, .extension nodes => .cons (.expr position (.extension nodes)) (nodes.sites copies)

theorem Expr.AlikeAll.sites (copies : Nat) (position : Position) :
    {exprs others : List Expr} → Expr.AlikeAll function same exprs others →
      AllAlike function same (Expr.sitesOfAll copies position exprs)
        (Expr.sitesOfAll copies position others)
  | _, _, .nil => .nil
  | _, _, .cons first tail => (first.sites copies position).append (tail.sites copies position)

theorem Expr.AlikeOption.sites (copies : Nat) :
    {expr other : Option Expr} → Expr.AlikeOption function same expr other →
      AllAlike function same (Expr.sitesOfOption copies expr) (Expr.sitesOfOption copies other)
  | _, _, .none => .nil
  | _, _, .some inner => inner.sites copies .inner

theorem Branch.AlikeAll.sites (copies : Nat) :
    {branches others : List Branch} → Branch.AlikeAll function same branches others →
      AllAlike function same (Branch.sitesOfAll copies branches) (Branch.sitesOfAll copies others)
  | _, _, .nil => .nil
  | _, _, .cons conditions results tail =>
    (conditions.sites copies .inner).append
      ((results.sites copies .inner).append (tail.sites copies))

theorem Element.Alike.sites (copies : Nat) :
    {element other : Element} → Element.Alike function same element other →
      AllAlike function same (element.sites copies) (other.sites copies)
  | _, _, .table _ => .nil
  | _, _, .labelled _ elements => elements.sites copies
  | _, _, .subquery rows => rows.sites copies

theorem Element.AlikeOption.sites (copies : Nat) :
    {element other : Option Element} → Element.AlikeOption function same element other →
      AllAlike function same (Element.sitesOfOption copies element)
        (Element.sitesOfOption copies other)
  | _, _, .none => .nil
  | _, _, .some inner => inner.sites copies

theorem Join.AlikeAll.sites (copies : Nat) :
    {joins others : List Join} → Join.AlikeAll function same joins others →
      AllAlike function same (Join.sitesOfAll copies joins) (Join.sitesOfAll copies others)
  | _, _, .nil => .nil
  | _, _, .cons _ elements conditions tail =>
    (elements.sites copies).append ((conditions.sites copies .inner).append (tail.sites copies))

theorem Order.AlikeAll.sites (copies times : Nat) :
    {order others : List Order} → Order.AlikeAll function same order others →
      AllAlike function same (Order.sitesOfAll copies times order)
        (Order.sitesOfAll copies times others)
  | _, _, .nil => .nil
  | _, _, .cons _ keys tail =>
    ((keys.sites copies .inner).repeated times).append (tail.sites copies times)

theorem Modifier.AlikeAll.sites (copies : Nat) :
    {modifiers others : List Modifier} → Modifier.AlikeAll function same modifiers others →
      AllAlike function same (Modifier.sitesOfAll copies modifiers)
        (Modifier.sitesOfAll copies others)
  | _, _, .nil => .nil
  | _, _, .limit count offset tail => .cons (.limit count offset) (tail.sites copies)
  | _, _, .extension nodes tail => (nodes.sites copies).append (tail.sites copies)

theorem Union.AlikeAll.sites (copies : Nat) :
    {unions others : List Union} → Union.AlikeAll function same unions others →
      AllAlike function same (Union.sitesOfAll copies unions) (Union.sitesOfAll copies others)
  | _, _, .nil => .nil
  | _, _, .cons _ rows tail => (rows.sites copies).append (tail.sites copies)

/-- The sites of alike queries are alike, one by one. -/
theorem Query.Alike.sites (copies : Nat) :
    {query other : Query} → Query.Alike function same query other →
      AllAlike function same (query.sites copies) (other.sites copies)
  | query, other, .clauses selection source joins filter grouping having order modifiers unions => by
    have whole : query.Alike function same other :=
      .clauses selection source joins filter grouping having order modifiers unions
    have entries := selection.sites copies .entry
    have rows := (source.sites copies).append (joins.sites copies)
    have last := (order.sites copies copies).append
      ((modifiers.sites copies).append (unions.sites copies))
    have groups := (grouping.sites copies .inner).append ((having.sites copies .inner).append last)
    rw [Query.sites_eq, Query.sites_eq]
    exact .cons (.query whole) (entries.append (rows.append
      ((filter.sites copies .inner).append groups)))

theorem Extension.Alike.sites (copies : Nat) :
    {node other : Extension} → Extension.Alike function same node other →
      AllAlike function same (node.sites copies) (other.sites copies)
  | _, _, .interval unit amounts =>
    .cons (.extension (.interval unit amounts)) (amounts.sites copies .inner)
  | _, _, .extractedInterval unit offset dates =>
    .cons (.extension (.extractedInterval unit offset dates))
      ((dates.sites copies .inner).append (.settings (exists_setting_of_mem_ite _)))
  | _, _, .shift direction unit dates amounts =>
    .cons (.extension (.shift direction unit dates amounts))
      ((dates.sites copies .inner).append (amounts.sites copies .inner))
  | _, _, .truncate unit offset dates =>
    .cons (.extension (.truncate unit offset dates))
      (((dates.sites copies .inner).repeated _).append
        (.settings (exists_setting_of_mem_truncationConstant offset unit)))
  | _, _, .groupConcat distinct separator columns keys =>
    .cons (.extension (.groupConcat distinct separator columns keys))
      ((columns.sites copies .inner).append
        ((keys.sites copies 1).append (.settings (exists_setting_of_mem_ite _))))

end

theorem Query.Alike.clauseSites (copies : Nat) {query other : Query}
    (alike : query.Alike function same other) :
    AllAlike function same (query.clauseSites copies) (other.clauseSites copies) := by
  cases alike with
  | clauses _ source joins filter grouping having order modifiers unions =>
    have unselected : Query.Alike function same { query with selection := [] }
        { other with selection := [] } :=
      .clauses .nil source joins filter grouping having order modifiers unions
    exact unselected.sites copies

/-- The sites of alike statements are alike, one by one. -/
theorem Statement.Alike.sites (copies : Nat) {statement other : Statement}
    (alike : statement.Alike function same other) :
    AllAlike function same (statement.sites copies) (other.sites copies) := by
  cases alike with
  | query rows => exact rows.sites copies
  | insert table assigned =>
    rw [Statement.sites, Statement.sites, AllAlike, List.forall₂_map_left_iff,
      List.forall₂_map_right_iff]
    exact assigned.imp fun _ _ both => .value both.2
  | insertQuery table rows => exact rows.sites copies
  | update table assigned rows =>
    refine AllAlike.append ?_ (rows.clauseSites copies)
    exact List.rel_flatMap assigned fun one another both => both.2.sites copies .inner
  | delete table rows => exact rows.clauseSites copies

end SqlTree
