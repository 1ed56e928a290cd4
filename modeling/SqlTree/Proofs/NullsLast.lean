import SqlTree.Proofs.Account.Form
import SqlTree.Proofs.Text

/-! # Rows without a value come last

Sort keys put NULL last in both directions. Where a database has a clause for this, an entry is one
key. MySQL sorts NULL before all values, so that an entry is two keys there: whether the expression
is NULL, and then its value. The text of an order clause is made of its keys, one after the other,
with the arguments of the expression once for each key, and rows compare alike by the keys of either
kind (`compile_nullsLast`).
-/

namespace SqlTree

/-- An expression with what rows are compared by: its value, or whether it is NULL. -/
structure RowKey where
  expr : Expr
  key : SortKey

/-- The keys that the entries of an order clause stand for, the most significant first. -/
def Order.rowKeys (style : NullOrder) (order : List Order) : List RowKey :=
  order.flatMap fun entry => (style.keys entry.descending).map (RowKey.mk entry.expr)

/-! ## Comparing rows -/

/-- The order of two values in a direction. -/
def SortKey.directed (descending : Bool) (order : Ordering) : Ordering :=
  if descending then order.swap else order

/-- How a key compares two values that may be missing. A NULL test is 1 or 0. A missing value comes
last if the key says so, and is the smallest value otherwise. -/
def SortKey.compareValues {α : Type} [Ord α] : SortKey → Option α → Option α → Ordering
  | .nullTest, first, second => compare first.isNone.toNat second.isNone.toNat
  | .value descending _, some first, some second => directed descending (compare first second)
  | .value descending nullsLast, some _, none => if nullsLast then .lt else directed descending .gt
  | .value descending nullsLast, none, some _ => if nullsLast then .gt else directed descending .lt
  | .value _ _, none, none => .eq

section

variable {α : Type} [Ord α]

/-- How the keys compare two rows, which give each expression a value or none. The first key that
tells the rows apart decides. -/
def compareRows (keys : List RowKey) (first second : Expr → Option α) : Ordering :=
  keys.foldr (fun key rest =>
    (key.key.compareValues (first key.expr) (second key.expr)).then rest) .eq

/-- NULL tests put missing values last, in both directions of the key that follows. -/
private theorem SortKey.nullTest_then (descending : Bool) (first second : Option α) :
    (SortKey.nullTest.compareValues first second).then
        ((SortKey.value descending false).compareValues first second) =
      (SortKey.value descending true).compareValues first second := by
  cases first with
  | none => cases second <;> rfl
  | some value => cases second <;> rfl

/-- The keys of both kinds compare rows alike. -/
theorem compareRows_rowKeys (order : List Order) (first second : Expr → Option α) :
    compareRows (Order.rowKeys .testKey order) first second =
      compareRows (Order.rowKeys .lastClause order) first second := by
  induction order with
  | nil => rfl
  | cons entry rest ih =>
    have tested : compareRows (Order.rowKeys .testKey (entry :: rest)) first second =
        (SortKey.nullTest.compareValues (first entry.expr) (second entry.expr)).then
          (((SortKey.value entry.descending false).compareValues (first entry.expr)
            (second entry.expr)).then
              (compareRows (Order.rowKeys .testKey rest) first second)) := rfl
    have single : compareRows (Order.rowKeys .lastClause (entry :: rest)) first second =
        ((SortKey.value entry.descending true).compareValues (first entry.expr)
          (second entry.expr)).then
            (compareRows (Order.rowKeys .lastClause rest) first second) := rfl
    rw [tested, single, ← Ordering.then_assoc, SortKey.nullTest_then, ih]

end

/-! ## Writing the keys -/

def SortKey.text (key : SortKey) (expr : String) : String :=
  match key with
  | .nullTest => "ISNULL(" ++ expr ++ ")"
  | .value descending nullsLast =>
    expr ++ (if descending then " DESC" else "") ++ (if nullsLast then " NULLS LAST" else "")

def RowKey.render (grammar : Grammar) (key : RowKey) : Rendering := do
  return Form.sortKey (← key.expr.render grammar .inner) key.key

/-- The keys of one entry are written around the same fragment. -/
private theorem RowKey.mapM_render {grammar : Grammar} (expr : Expr) {keys : List SortKey}
    (filled : keys ≠ []) :
    (keys.map (RowKey.mk expr)).mapM (RowKey.render grammar) =
      (expr.render grammar .inner).map fun fragment => keys.map (Form.sortKey fragment) := by
  have each : RowKey.render grammar ∘ RowKey.mk expr = fun key =>
      (Form.sortKey · key) <$> expr.render grammar .inner := by
    funext key
    simp [RowKey.render]
  rw [List.mapM_map, each]
  exact mapM_copies (fun key fragment => Form.sortKey fragment key) filled _

/-- The entries of an order clause are their keys, written one after the other. -/
private theorem Order.renderAll_agree (grammar : Grammar) (style : NullOrder) (order : List Order) :
    Agree (fun entries keys => ∃ nested : List (List Fragment),
        entries = nested.map (Fragment.separated ", ") ∧ keys = nested.flatten ∧
          ∀ fragments ∈ nested, fragments ≠ [])
      (renderAll grammar style order) ((rowKeys style order).mapM (RowKey.render grammar)) := by
  induction order with
  | nil => exact .ok ⟨[], rfl, rfl, nofun⟩
  | cons entry rest ih =>
    obtain ⟨expr, descending⟩ := entry
    have filled : style.keys descending ≠ [] := by cases style <;> exact List.cons_ne_nil _ _
    have split : (rowKeys style (⟨expr, descending⟩ :: rest)).mapM (RowKey.render grammar) = do
        let first ← expr.render grammar .inner
        let others ← (rowKeys style rest).mapM (RowKey.render grammar)
        return (style.keys descending).map (Form.sortKey first) ++ others := by
      rw [rowKeys, List.flatMap_cons, List.mapM_append, RowKey.mapM_render expr filled]
      cases expr.render grammar .inner <;> rfl
    rw [renderAll, split]
    have same : Agree Eq (expr.render grammar .inner) (expr.render grammar .inner) :=
      .refl _ fun _ _ => rfl
    refine same.bind fun fragment _ equal => ih.bind fun entries keys related => .ok ?_
    obtain ⟨nested, rfl, rfl, each⟩ := related
    subst equal
    exact ⟨(style.keys descending).map (Form.sortKey fragment) :: nested, rfl, rfl,
      List.forall_mem_cons.mpr ⟨by simpa using filled, each⟩⟩

/-- An order clause is the list of its keys. -/
theorem Query.orderClause_eq (grammar : Grammar) (query : Query) :
    orderClause grammar query = do
      let keys ← (Order.rowKeys grammar.nullOrder query.order).mapM (RowKey.render grammar)
      return Form.list " ORDER BY " keys := by
  refine (Order.renderAll_agree grammar grammar.nullOrder query.order).bind_eq ?_
  rintro _ _ ⟨nested, rfl, rfl, filled⟩
  by_cases none : nested = []
  · rw [none]
    rfl
  · obtain ⟨first, rest, rfl⟩ := List.exists_cons_of_ne_nil none
    have some : (first :: rest).flatten ≠ [] :=
      List.append_ne_nil_of_left_ne_nil (filled first List.mem_cons_self) _
    have entries : (first :: rest).map (Fragment.separated ", ") ≠ [] := List.cons_ne_nil _ _
    rw [Form.list, Form.list, Form.clause_eq_cons some, Form.clause_eq_cons entries,
      ← List.nil_append (List.map _ _), Fragment.separated_flatten ", " [] filled]
    rfl

/-! ## Texts of keys -/

/-- A clause of keys, or nothing if there are none. -/
def Compiled.orderBy (keys : List Compiled) : Compiled :=
  { sql := if keys.isEmpty then "" else " ORDER BY " ++ ", ".intercalate (keys.map Compiled.sql)
    arguments := keys.flatMap Compiled.arguments }

namespace Dialect

variable {dialect : Dialect}

def compileKey (dialect : Dialect) (key : RowKey) : Except CompileError Compiled :=
  (dialect.compileExpr key.expr).map fun expr => ⟨key.key.text expr.sql, expr.arguments⟩

def compileOrder (dialect : Dialect) (query : Query) : Except CompileError Compiled :=
  dialect.appendRendering ⟨"", []⟩ (Query.orderClause dialect.grammar query)

private theorem text_sortKey {mark : String} (marked : dialect.spelling.values = .mark mark)
    (expr : Fragment) (key : SortKey) :
    dialect.text (Form.sortKey expr key) = key.text (dialect.text expr) := by
  cases key with
  | nullTest =>
    rw [Form.sortKey, List.cons_append, text_cons marked, text_append marked, text_singleton,
      SortKey.text, String.append_assoc]
    rfl
  | value descending nullsLast =>
    rw [Form.sortKey, text_append marked, text_append marked, SortKey.text]
    cases descending <;> cases nullsLast <;> rfl

private theorem compileKey_eq (marked : dialect.spelling.values = .mark "?") (key : RowKey) :
    dialect.compileKey key = dialect.appendRendering ⟨"", []⟩ (key.render dialect.grammar) := by
  rw [compileKey, compileExpr, appendRendering_empty, appendRendering_empty, RowKey.render]
  cases key.expr.render dialect.grammar .inner with
  | error refusal => rfl
  | ok fragment =>
    have text := text_sortKey marked fragment key.key
    have arguments : dialect.argumentsOf (Form.sortKey fragment key.key) =
        dialect.argumentsOf fragment := Form.argumentsOf_sortKey fragment key.key
    exact congrArg Except.ok (congrArg₂ Compiled.mk text.symm arguments.symm)

theorem mapM_compileKey (marked : dialect.spelling.values = .mark "?") (keys : List RowKey) :
    keys.mapM dialect.compileKey =
      (dialect.refuse (keys.mapM (RowKey.render dialect.grammar))).map fun fragments =>
        fragments.map fun fragment => ⟨dialect.text fragment, dialect.argumentsOf fragment⟩ := by
  rw [← mapM_appendRendering]
  congr
  exact funext fun key => compileKey_eq marked key

/-- A clause of keys is made of the texts and the arguments of the keys. -/
theorem orderBy_map (marked : dialect.spelling.values = .mark "?") (keys : List Fragment) :
    Compiled.orderBy (keys.map fun key => ⟨dialect.text key, dialect.argumentsOf key⟩) =
      ⟨dialect.text (Form.list " ORDER BY " keys),
        dialect.argumentsOf (Form.list " ORDER BY " keys)⟩ := by
  have arguments : dialect.argumentsOf (Form.list " ORDER BY " keys) =
      keys.flatMap dialect.argumentsOf := Form.argumentsOf_clause ..
  rw [arguments, Compiled.orderBy, List.flatMap_map]
  cases keys with
  | nil => rfl
  | cons first rest =>
    rw [Form.list, Form.clause_eq_cons (List.cons_ne_nil first rest), text_cons marked,
      text_separated marked, List.map_map]
    rfl

/-- An order clause is compiled key by key, and is refused like the first key that is. -/
theorem compileOrder_eq (marked : dialect.spelling.values = .mark "?") (query : Query) :
    dialect.compileOrder query =
      ((Order.rowKeys dialect.grammar.nullOrder query.order).mapM dialect.compileKey).map
        Compiled.orderBy := by
  rw [compileOrder, appendRendering_empty, Query.orderClause_eq, mapM_compileKey marked]
  cases (Order.rowKeys dialect.grammar.nullOrder query.order).mapM
      (RowKey.render dialect.grammar) with
  | error refusal => rfl
  | ok fragments => exact congrArg Except.ok (orderBy_map marked fragments).symm

/-- If every entry compiles, so do the two keys of each, with the arguments of the entry twice. -/
private theorem mapM_compileKey_testKey {order : List Order} {entries : List Compiled}
    (compiled : order.mapM (fun entry => dialect.compileExpr entry.expr) = .ok entries) :
    ∃ keys, (Order.rowKeys .testKey order).mapM dialect.compileKey = .ok keys ∧
      keys.flatMap Compiled.arguments =
        entries.flatMap fun entry => entry.arguments ++ entry.arguments := by
  induction order generalizing entries with
  | nil =>
    cases compiled
    exact ⟨[], rfl, rfl⟩
  | cons entry rest ih =>
    rw [List.mapM_cons] at compiled
    cases own : dialect.compileExpr entry.expr with
    | error error =>
      rw [own] at compiled
      cases compiled
    | ok first =>
      cases others : rest.mapM fun entry => dialect.compileExpr entry.expr with
      | error error =>
        rw [own, others] at compiled
        cases compiled
      | ok later =>
        rw [own, others] at compiled
        cases compiled
        obtain ⟨keys, written, arguments⟩ := ih others
        have split : Order.rowKeys .testKey (entry :: rest) =
            ⟨entry.expr, .nullTest⟩ :: ⟨entry.expr, .value entry.descending false⟩ ::
              Order.rowKeys .testKey rest := rfl
        refine ⟨⟨SortKey.nullTest.text first.sql, first.arguments⟩ ::
          ⟨(SortKey.value entry.descending false).text first.sql, first.arguments⟩ :: keys, ?_, ?_⟩
        · rw [split, List.mapM_cons, List.mapM_cons, written, compileKey, compileKey, own]
          rfl
        · rw [List.flatMap_cons, List.flatMap_cons, List.flatMap_cons, arguments,
            List.append_assoc]

/-- MySQL sorts rows as other databases do with NULLS LAST. Its order clause is the list of the keys
of the entries, first whether the expression is NULL and then its value in the direction of the
entry; the order clause of standard SQL is the list of the values with NULLS LAST; and the keys of
both compare all rows alike. The arguments of each entry are bound twice by MySQL. -/
theorem compile_nullsLast {emulating standard : Dialect} (emulates : emulating ∈ [mysql, mysqlAnsi])
    (known : standard ∈ [generic, sqlite]) (query : Query) :
    emulating.compileOrder query =
        ((Order.rowKeys .testKey query.order).mapM emulating.compileKey).map Compiled.orderBy ∧
      standard.compileOrder query =
        ((Order.rowKeys .lastClause query.order).mapM standard.compileKey).map
          Compiled.orderBy ∧
      (∀ {α : Type} [Ord α] (first second : Expr → Option α),
        compareRows (Order.rowKeys .testKey query.order) first second =
          compareRows (Order.rowKeys .lastClause query.order) first second) ∧
      ∀ entries, query.order.mapM (fun entry => emulating.compileExpr entry.expr) = .ok entries →
        ∃ clause, emulating.compileOrder query = .ok clause ∧
          clause.arguments = entries.flatMap fun entry => entry.arguments ++ entry.arguments := by
  have written : emulating.compileOrder query =
      ((Order.rowKeys .testKey query.order).mapM emulating.compileKey).map Compiled.orderBy := by
    rcases List.mem_pair.mp emulates with rfl | rfl
    · exact compileOrder_eq rfl query
    · exact compileOrder_eq rfl query
  have standardWritten : standard.compileOrder query =
      ((Order.rowKeys .lastClause query.order).mapM standard.compileKey).map
        Compiled.orderBy := by
    rcases List.mem_pair.mp known with rfl | rfl
    · exact compileOrder_eq rfl query
    · exact compileOrder_eq rfl query
  refine ⟨written, standardWritten, compareRows_rowKeys query.order, fun entries compiled => ?_⟩
  obtain ⟨keys, keyed, arguments⟩ := mapM_compileKey_testKey compiled
  exact ⟨Compiled.orderBy keys, by rw [written, keyed]; rfl, arguments⟩

/-- The newest names, and within a name the price with an argument. -/
def sortedPrices : Query :=
  { source := some (.table (.identifier "t"))
    order :=
      [⟨.named (.identifier "name"), true⟩,
        ⟨.binary .mul (.named (.identifier "price")) (.literal (.int 2)), false⟩] }

/-- Rows without a name come after rows with one, and are told apart by their prices. -/
theorem compile_nullsLast_sortedPrices :
    let row (name price : Option Int) : Expr → Option Int
      | .binary .. => price
      | _ => name
    mysql.compileOrder sortedPrices =
        .ok ⟨" ORDER BY ISNULL(name), name DESC, ISNULL(price * ?), price * ?", [.int 2, .int 2]⟩ ∧
      generic.compileOrder sortedPrices =
        .ok ⟨" ORDER BY name DESC NULLS LAST, price * ? NULLS LAST", [.int 2]⟩ ∧
      compareRows (Order.rowKeys .testKey sortedPrices.order) (row none (some 3))
        (row (some 7) none) = .gt ∧
      compareRows (Order.rowKeys .lastClause sortedPrices.order) (row none (some 3))
        (row (some 7) none) = .gt ∧
      compareRows (Order.rowKeys .testKey sortedPrices.order) (row none (some 3))
        (row none (some 4)) = .lt := by
  intro row
  obtain ⟨written, standardWritten, compared, -⟩ :=
    compile_nullsLast (by simp : mysql ∈ [mysql, mysqlAnsi]) (by simp : generic ∈ [generic, sqlite])
      sortedPrices
  refine ⟨?_, ?_, ?_, rfl, ?_⟩
  · rw [written]
    decide +kernel
  · rw [standardWritten]
    decide +kernel
  · rw [compared]
    rfl
  · rw [compared]
    rfl

end Dialect

end SqlTree
