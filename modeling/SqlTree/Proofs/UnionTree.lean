import Mathlib.Data.Multiset.Dedup
import SqlTree.Proofs.Text
import SqlTree.Proofs.Union.Render

/-! # What unions denote

A tree of unions denotes rows bottom-up. Its text has no parentheses around the queries whose rows
are added, and a database applies the unions of a text from left to right. The two denote the same
rows, whatever the rows of the SELECTs are, exactly if the last union that drops repeated rows also
ends the query it adds, and all that comes later only adds rows (`compile_unionTree`).
-/

namespace SqlTree

variable {α : Type} [DecidableEq α]

/-- The rows of two queries as one of the unions combines them. -/
def UnionKind.combine : UnionKind → Multiset α → Multiset α → Multiset α
  | distinct, first, second => (first + second).dedup
  | all, first, second => first + second

/-- The unions applied from left to right. The SELECT after the first of them has the rows
`rows next`, and those after it have the rows that follow. -/
def UnionKind.applied (rows : Nat → Multiset α) (next : Nat) (before : Multiset α) :
    List UnionKind → Multiset α
  | [] => before
  | kind :: rest => applied rows (next + 1) (kind.combine before (rows next)) rest

/-- The rows that a text denotes when its SELECTs in order have the rows. -/
def Compiled.rows (compiled : Compiled) (rows : Nat → Multiset α) : Multiset α :=
  UnionKind.applied rows 1 (rows 0) compiled.unions

/-- A query without unions, sort keys and modifiers. -/
structure Select where
  query : Query
  unsorted : query.order = []
  unmodified : query.modifiers = []
  single : query.unions = []

/-- SELECTs put together by unions. -/
inductive UnionTree where
  | select (leaf : Select)
  | union (first : UnionTree) (kind : UnionKind) (added : UnionTree)

namespace UnionTree

def query : UnionTree → Query
  | select leaf => leaf.query
  | union first kind added => first.query.union kind added.query

def kinds : UnionTree → List UnionKind
  | select _ => []
  | union first kind added => first.kinds ++ kind :: added.kinds

def size (tree : UnionTree) : Nat :=
  tree.kinds.length + 1

/-- The rows that the tree denotes when its SELECTs in order have the rows from `rows next` on. -/
def rows (rows : Nat → Multiset α) (next : Nat) : UnionTree → Multiset α
  | select _ => rows next
  | union first kind added =>
    kind.combine (first.rows rows next) (added.rows rows (next + first.size))

/-- The rows that the text of the tree denotes. -/
def textRows (rows : Nat → Multiset α) (next : Nat) (tree : UnionTree) : Multiset α :=
  UnionKind.applied rows (next + 1) (rows next) tree.kinds

/-- Whether the last union that drops repeated rows, if there is one, comes last in the query that
it belongs to, and every later one adds a query without such unions. -/
def keepsRows : UnionTree → Bool
  | select _ => true
  | union first .all added => first.keepsRows && added.kinds.all (· == .all)
  | union _ .distinct added => added.kinds.getLast? != some .all

/-- The text is made of the texts of the SELECTs, with the keywords of the unions between them. -/
inductive Spelled (dialect : Dialect) : UnionTree → Compiled → Prop where
  | select {leaf : Select} {compiled : Compiled}
      (success : dialect.compile (.query leaf.query) = .ok compiled) :
      Spelled dialect (.select leaf) compiled
  | union {first added : UnionTree} (kind : UnionKind) {before after : Compiled}
      (left : Spelled dialect first before) (right : Spelled dialect added after) :
      Spelled dialect (.union first kind added)
        ⟨before.sql ++ (" " ++ Form.unionKeywords dialect.grammar kind ++ " ") ++ after.sql,
          before.arguments ++ after.arguments⟩

end UnionTree

/-! ## Unions applied from left to right -/

namespace UnionKind

variable {rows : Nat → Multiset α} {row : α}

@[simp] theorem mem_combine (kind : UnionKind) (first second : Multiset α) :
    row ∈ kind.combine first second ↔ row ∈ first ∨ row ∈ second := by
  cases kind <;> simp [combine]

private theorem applied_append (next : Nat) (before : Multiset α) (kinds more : List UnionKind) :
    applied rows next before (kinds ++ more) =
      applied rows (next + kinds.length) (applied rows next before kinds) more := by
  induction kinds generalizing next before with
  | nil => rfl
  | cons kind kinds ih =>
    rw [List.cons_append, applied, ih, applied, List.length_cons, Nat.add_right_comm,
      Nat.add_assoc next]

/-- No union loses a row altogether. -/
theorem mem_applied (next : Nat) (before : Multiset α) (kinds : List UnionKind) :
    row ∈ applied rows next before kinds ↔
      row ∈ before ∨ ∃ i, next ≤ i ∧ i < next + kinds.length ∧ row ∈ rows i := by
  induction kinds generalizing next before with
  | nil =>
    constructor
    · intro member
      exact .inl member
    · rintro (member | ⟨i, low, high, -⟩)
      · exact member
      · simp only [List.length_nil] at high
        omega
  | cons kind kinds ih =>
    rw [applied, ih, mem_combine, or_assoc, List.length_cons]
    refine or_congr_right ?_
    constructor
    · rintro (member | ⟨i, low, high, member⟩)
      · exact ⟨next, by omega, by omega, member⟩
      · exact ⟨i, by omega, by omega, member⟩
    · rintro ⟨i, low, high, member⟩
      by_cases first : i = next
      · exact .inl (first ▸ member)
      · exact .inr ⟨i, by omega, by omega, member⟩

/-- If the last union drops repeated rows there are none. -/
private theorem nodup_applied (next : Nat) (before : Multiset α) (kinds : List UnionKind) :
    (applied rows next before (kinds ++ [.distinct])).Nodup := by
  rw [applied_append]
  exact Multiset.nodup_dedup _

/-- Without further rows, all that unions can do is drop repeated ones. -/
private theorem applied_of_zero {next : Nat} (zero : ∀ i, next ≤ i → rows i = 0) (before : Multiset α)
    (kinds : List UnionKind) :
    applied rows next before kinds = if .distinct ∈ kinds then before.dedup else before := by
  induction kinds generalizing next before with
  | nil => rfl
  | cons kind kinds ih =>
    have later : ∀ i, next + 1 ≤ i → rows i = 0 := fun i bound => zero i (by omega)
    rw [applied, ih later, zero next (Nat.le_refl next)]
    cases kind <;> simp [combine]

end UnionKind

/-! ## The rows of trees and of their texts -/

namespace UnionTree

variable {rows : Nat → Multiset α} {row : α}

private theorem size_union (first : UnionTree) (kind : UnionKind) (added : UnionTree) :
    (union first kind added).size = first.size + added.size := by
  simp only [size, kinds, List.length_append, List.length_cons]
  omega

/-- A tree has the rows of its SELECTs, if not as often. -/
theorem mem_rows (tree : UnionTree) (next : Nat) :
    row ∈ tree.rows rows next ↔ ∃ i, next ≤ i ∧ i < next + tree.size ∧ row ∈ rows i := by
  induction tree generalizing next with
  | select leaf =>
    constructor
    · intro member
      exact ⟨next, by omega, by simp [size, kinds], member⟩
    · rintro ⟨i, low, high, member⟩
      have same : i = next := by
        simp only [size, kinds, List.length_nil] at high
        omega
      exact same ▸ member
  | union first kind added firstMem addedMem =>
    rw [UnionTree.rows, UnionKind.mem_combine, firstMem, addedMem, size_union]
    constructor
    · rintro (⟨i, low, high, member⟩ | ⟨i, low, high, member⟩)
      · exact ⟨i, by omega, by omega, member⟩
      · exact ⟨i, by omega, by omega, member⟩
    · rintro ⟨i, low, high, member⟩
      by_cases before : i < next + first.size
      · exact .inl ⟨i, low, before, member⟩
      · exact .inr ⟨i, by omega, by omega, member⟩

/-- So does its text. -/
theorem mem_textRows (tree : UnionTree) (next : Nat) :
    row ∈ tree.textRows rows next ↔ ∃ i, next ≤ i ∧ i < next + tree.size ∧ row ∈ rows i := by
  rw [textRows, UnionKind.mem_applied, size]
  constructor
  · rintro (member | ⟨i, low, high, member⟩)
    · exact ⟨next, by omega, by omega, member⟩
    · exact ⟨i, by omega, by omega, member⟩
  · rintro ⟨i, low, high, member⟩
    by_cases first : i = next
    · exact .inl (first ▸ member)
    · exact .inr ⟨i, by omega, by omega, member⟩

/-- The text goes on after the first tree with the SELECTs of the second. -/
theorem textRows_union (first : UnionTree) (kind : UnionKind) (added : UnionTree) (next : Nat) :
    (union first kind added).textRows rows next =
      UnionKind.applied rows (next + first.size + 1)
        (kind.combine (first.textRows rows next) (rows (next + first.size))) added.kinds := by
  have place : next + 1 + first.kinds.length = next + first.size := by
    rw [size]
    omega
  rw [textRows, kinds, UnionKind.applied_append, place, UnionKind.applied, textRows]

/-- A tree whose unions only add rows may follow any rows without parentheses. -/
private theorem applied_of_all {tree : UnionTree} (all : tree.kinds.all (· == .all) = true) (next : Nat)
    (before : Multiset α) :
    UnionKind.applied rows (next + 1) (before + rows next) tree.kinds =
      before + tree.rows rows next := by
  induction tree generalizing next before with
  | select leaf => rfl
  | union first kind added firstAll addedAll =>
    simp only [kinds, List.all_append, List.all_cons, Bool.and_eq_true, beq_iff_eq] at all
    obtain ⟨inFirst, rfl, inAdded⟩ := all
    have place : next + 1 + first.kinds.length = next + first.size := by
      rw [size]
      omega
    rw [kinds, UnionKind.applied_append, firstAll inFirst, place, UnionKind.applied,
      UnionKind.combine, addedAll inAdded, UnionTree.rows, UnionKind.combine, Multiset.add_assoc]

private theorem textRows_union_all {first added : UnionTree} (all : added.kinds.all (· == .all) = true)
    (next : Nat) :
    (union first .all added).textRows rows next =
      first.textRows rows next + added.rows rows (next + first.size) := by
  rw [textRows_union, UnionKind.combine, applied_of_all all]

/-- A union that drops repeated rows and then ends its query denotes the same rows without
parentheses. -/
private theorem textRows_union_distinct {first added : UnionTree} (ends : added.kinds.getLast? ≠ some .all)
    (next : Nat) :
    (union first .distinct added).textRows rows next =
      (union first .distinct added).rows rows next := by
  have nodup : ((union first .distinct added).textRows rows next).Nodup := by
    rw [textRows, kinds]
    rcases List.eq_nil_or_concat added.kinds with none | ⟨before, last, given⟩
    · rw [none]
      exact UnionKind.nodup_applied _ _ _
    · have isDistinct : last = .distinct := by
        rw [given, List.concat_eq_append, List.getLast?_concat] at ends
        cases last with
        | distinct => rfl
        | all => exact absurd rfl ends
      rw [given, isDistinct, List.concat_eq_append, ← List.cons_append, ← List.append_assoc]
      exact UnionKind.nodup_applied _ _ _
  rw [← Multiset.dedup_eq_self.mpr nodup, UnionTree.rows, UnionKind.combine]
  refine Multiset.dedup_ext.mpr fun row => ?_
  rw [mem_textRows, ← mem_rows, UnionTree.rows, UnionKind.mem_combine, Multiset.mem_add]

/-- A tree that keeps its rows denotes what its text denotes. -/
private theorem textRows_of_keepsRows {tree : UnionTree} (keeps : tree.keepsRows = true) (next : Nat) :
    tree.textRows rows next = tree.rows rows next := by
  induction tree generalizing next with
  | select leaf => rfl
  | union first kind added firstKeeps _ =>
    cases kind with
    | distinct =>
      rw [keepsRows, bne_iff_ne] at keeps
      exact textRows_union_distinct keeps next
    | all =>
      rw [keepsRows, Bool.and_eq_true] at keeps
      rw [textRows_union_all keeps.2, firstKeeps keeps.1, UnionTree.rows, UnionKind.combine]

/-! ## Trees that their texts do not keep -/

/-- One row, in the SELECTs at two places and in no other. -/
def rowAt (row : α) (first second place : Nat) : Multiset α :=
  if place = first ∨ place = second then {row} else 0

omit [DecidableEq α] in
private theorem rowAt_eq_zero {first second place : Nat} (apart : place ≠ first ∧ place ≠ second) :
    rowAt row first second place = 0 :=
  if_neg (not_or.mpr apart)

omit [DecidableEq α] in
private theorem mem_rowAt {first second place : Nat} (present : place = first ∨ place = second) :
    row ∈ rowAt row first second place := by
  rw [rowAt, if_pos present]
  exact Multiset.mem_singleton_self row

/-- A row that both have is there twice when one is added to the other, and so not if repeated rows
are dropped. -/
theorem add_ne_of_nodup (row : α) {first second whole : Multiset α} (inFirst : row ∈ first)
    (inSecond : row ∈ second) (nodup : whole.Nodup) : first + second ≠ whole := by
  intro same
  have once : whole.count row ≤ 1 := Multiset.nodup_iff_count_le_one.mp nodup row
  have before : 1 ≤ first.count row := Multiset.one_le_count_iff_mem.mpr inFirst
  have after : 1 ≤ second.count row := Multiset.one_le_count_iff_mem.mpr inSecond
  rw [← same, Multiset.count_add] at once
  omega

/-- If the query of a union that drops repeated rows ends by adding rows, a row of its last SELECT
that was there before is in the text twice. -/
private theorem textRows_ne_of_getLast? (row : α) {first added : UnionTree}
    (ends : added.kinds.getLast? = some .all) (next : Nat) :
    ∃ rows : Nat → Multiset α,
      (∀ i, next + (union first .distinct added).size ≤ i → rows i = 0) ∧
      (union first .distinct added).textRows rows next ≠
        (union first .distinct added).rows rows next := by
  obtain ⟨before, given⟩ := List.getLast?_eq_some_iff.mp ends
  have length : added.size = before.length + 2 := by simp [size, given]
  have bound : 1 ≤ first.size := by
    rw [size]
    omega
  refine ⟨rowAt row next (next + first.size + 1 + before.length), fun i high => ?_, ?_⟩
  · rw [size_union] at high
    exact rowAt_eq_zero (by omega)
  · rw [textRows_union, given, UnionKind.applied_append]
    refine add_ne_of_nodup row ?_ (mem_rowAt (.inr rfl)) (Multiset.nodup_dedup _)
    rw [UnionKind.mem_applied, UnionKind.mem_combine, mem_textRows]
    exact .inl (.inl ⟨next, Nat.le_refl next, by omega, mem_rowAt (.inl rfl)⟩)

/-- If a query whose rows are added drops repeated rows itself, it drops in the text a row that was
there before. -/
private theorem textRows_ne_of_mem (row : α) {first added : UnionTree} (drops : .distinct ∈ added.kinds)
    (next : Nat) :
    ∃ rows : Nat → Multiset α, (∀ i, next + (union first .all added).size ≤ i → rows i = 0) ∧
      (union first .all added).textRows rows next ≠ (union first .all added).rows rows next := by
  have bound : 1 ≤ first.size ∧ 1 ≤ added.size := by
    rw [size, size]
    omega
  refine ⟨rowAt row next (next + first.size), fun i high => ?_, Ne.symm ?_⟩
  · rw [size_union] at high
    exact rowAt_eq_zero (by omega)
  · have later : ∀ i, next + first.size + 1 ≤ i → rowAt row next (next + first.size) i = 0 :=
      fun i low => rowAt_eq_zero (by omega)
    rw [textRows_union, UnionKind.applied_of_zero later, if_pos drops]
    refine add_ne_of_nodup row ?_ ?_ (Multiset.nodup_dedup _)
    · rw [mem_rows]
      exact ⟨next, Nat.le_refl next, by omega, mem_rowAt (.inl rfl)⟩
    · rw [mem_rows]
      exact ⟨next + first.size, Nat.le_refl _, by omega, mem_rowAt (.inr rfl)⟩

/-- A tree that does not keep its rows denotes others than its text for some rows of its SELECTs. -/
private theorem exists_textRows_ne (row : α) {tree : UnionTree} (loses : tree.keepsRows = false)
    (next : Nat) :
    ∃ rows : Nat → Multiset α, (∀ i, next + tree.size ≤ i → rows i = 0) ∧
      tree.textRows rows next ≠ tree.rows rows next := by
  induction tree generalizing next with
  | select leaf => cases loses
  | union first kind added firstLoses _ =>
    cases kind with
    | distinct =>
      rw [keepsRows, bne_eq_false_iff_eq] at loses
      exact textRows_ne_of_getLast? row loses next
    | all =>
      by_cases drops : .distinct ∈ added.kinds
      · exact textRows_ne_of_mem row drops next
      · have all : added.kinds.all (· == .all) = true := by
          refine List.all_eq_true.mpr fun kind member => ?_
          cases kind with
          | all => rfl
          | distinct => exact absurd member drops
        rw [keepsRows, all, Bool.and_true] at loses
        obtain ⟨rows, zero, differs⟩ := firstLoses loses next
        have none : added.rows rows (next + first.size) = 0 := by
          refine Multiset.eq_zero_iff_forall_notMem.mpr fun row member => ?_
          obtain ⟨i, low, _, inside⟩ := (mem_rows added _).mp member
          rw [zero i low] at inside
          exact Multiset.notMem_zero row inside
        refine ⟨rows, fun i high => zero i ?_, ?_⟩
        · rw [size_union] at high
          omega
        · rw [textRows_union_all all, UnionTree.rows, UnionKind.combine, none, Multiset.add_zero,
            Multiset.add_zero]
          exact differs

/-- The text of a tree denotes what the tree denotes, whatever the rows of the SELECTs are, exactly
if the tree keeps its rows. -/
theorem textRows_eq_rows_iff [Nonempty α] (tree : UnionTree) (next : Nat) :
    (∀ rows : Nat → Multiset α, tree.textRows rows next = tree.rows rows next) ↔
      tree.keepsRows = true := by
  constructor
  · intro same
    obtain ⟨row⟩ := ‹Nonempty α›
    refine Bool.not_eq_false _ |>.mp fun loses => ?_
    obtain ⟨rows, -, differs⟩ := exists_textRows_ne row loses next
    exact differs (same rows)
  · intro keeps rows
    exact textRows_of_keepsRows keeps next

end UnionTree

/-! ## Rendering unions -/

private theorem Union.renderAll_append (grammar : Grammar) (unions more : List Union) :
    Union.renderAll grammar (unions ++ more) = do
      return (← Union.renderAll grammar unions) ++ (← Union.renderAll grammar more) := by
  induction unions with
  | nil => exact (bind_pure _).symm
  | cons union rest ih =>
    obtain ⟨kind, query⟩ := union
    simp only [List.cons_append, Union.renderAll, ih, bind_assoc, pure_bind, List.append_assoc]

/-- The union that was added last ends the text of a query. -/
private theorem Query.render_union (grammar : Grammar) (query other : Query) (kind : UnionKind) :
    (query.union kind other).render grammar = do
      return (← query.render grammar) ++ Form.union grammar kind (← other.render grammar) := by
  have last : Union.renderAll grammar [⟨kind, other⟩] = do
      return Form.union grammar kind (← other.render grammar) := by
    rw [Union.renderAll]
    refine bind_congr fun fragment => ?_
    exact congrArg Except.ok (List.append_nil _)
  cases query
  simp only [Query.union, Query.render, Union.renderAll_append, last, bind_assoc, pure_bind,
    List.append_assoc]

private theorem Query.unionKinds_union (query other : Query) (kind : UnionKind) :
    (query.union kind other).unionKinds = query.unionKinds ++ kind :: other.unionKinds := by
  obtain ⟨selection, source, joins, filter, grouping, having, order, modifiers, unions⟩ := query
  change Union.kindsOfAll (unions ++ [⟨kind, other⟩]) =
    Union.kindsOfAll unions ++ kind :: other.unionKinds
  induction unions with
  | nil => simp [Union.kindsOfAll]
  | cons union rest ih =>
    obtain ⟨first, query⟩ := union
    rw [List.cons_append, Union.kindsOfAll, ih, Union.kindsOfAll]
    simp

namespace UnionTree

private theorem unionKinds_query (tree : UnionTree) : tree.query.unionKinds = tree.kinds := by
  induction tree with
  | select leaf =>
    have single := leaf.single
    rw [query, kinds]
    cases given : leaf.query
    rw [given] at single
    subst single
    rfl
  | union first kind added firstKinds addedKinds =>
    rw [query, Query.unionKinds_union, firstKinds, addedKinds, kinds]

end UnionTree

namespace Dialect

variable {dialect : Dialect}

/-- The text of a query with one more union is the text of the query, the keywords of the union and
the text of the query whose rows it adds. -/
theorem Standard.compile_union (standard : dialect.Standard) {query other : Query}
    {kind : UnionKind} {compiled : Compiled}
    (success : dialect.compile (.query (query.union kind other)) = .ok compiled) :
    ∃ before after, dialect.compile (.query query) = .ok before ∧
      dialect.compile (.query other) = .ok after ∧
      compiled =
        ⟨before.sql ++ (" " ++ Form.unionKeywords dialect.grammar kind ++ " ") ++ after.sql,
          before.arguments ++ after.arguments⟩ := by
  obtain ⟨fragment, rendered, rfl⟩ := appendRendering_eq_ok.mp success
  rw [Statement.render, Query.render_union] at rendered
  obtain ⟨first, firstOk, rest⟩ := bind_eq_ok.mp rendered
  obtain ⟨second, secondOk, equal⟩ := bind_eq_ok.mp rest
  cases equal
  have left : dialect.compile (.query query) = _ :=
    appendRendering_eq_ok.mpr ⟨first, firstOk, rfl⟩
  have right : dialect.compile (.query other) = _ :=
    appendRendering_eq_ok.mpr ⟨second, secondOk, rfl⟩
  refine ⟨_, _, left, right, ?_⟩
  -- Question marks are not numbered, so the text of the other query is the same on its own.
  have marked : dialect.spelling.values = .mark "?" := by rw [standard.spelling]
  rw [append, append, append, Form.union, appendText_append, appendText_eq, appendText_cons,
    appendText_eq_text marked _ second, text, argumentsOf_append, argumentsOf_cons, pieceText]
  simp [argumentsOf, ValueStyle.argument?, String.append_assoc]

/-- The text of a tree of unions is made of the texts of its SELECTs. -/
theorem Standard.spelled_of_compile (standard : dialect.Standard) {tree : UnionTree}
    {compiled : Compiled} (success : dialect.compile (.query tree.query) = .ok compiled) :
    tree.Spelled dialect compiled := by
  induction tree generalizing compiled with
  | select leaf => exact .select success
  | union first kind added firstSpelled addedSpelled =>
    obtain ⟨before, after, left, right, rfl⟩ := standard.compile_union success
    exact .union kind (firstSpelled left) (addedSpelled right)

/-- A reader finds the unions of a query in its text. -/
theorem Standard.unions_of_compile (standard : dialect.Standard) {query : Query}
    (worded : ∀ node ∈ query.nodes, node.Worded) {compiled : Compiled}
    (success : dialect.compile (.query query) = .ok compiled) :
    compiled.unions = query.unionKinds := by
  obtain ⟨fragment, rendered, rfl⟩ := appendRendering_eq_ok.mp success
  have shown := (query.shows standard worded).unions fragment rendered
  have read := shown 0 0 [] delimited_nil
  rw [List.append_nil, if_pos rfl, Region.unions, List.append_nil] at read
  exact read

/-- The text of a tree of unions is made of the texts of its SELECTs with the keywords of the unions
between them, and a reader finds these unions in it and no others. Applied from left to right they
denote the rows of the tree, whatever the rows of the SELECTs are, exactly if the tree keeps its
rows. -/
theorem compile_unionTree [Nonempty α] (member : dialect ∈ [generic, sqlite]) {tree : UnionTree}
    (worded : ∀ node ∈ tree.query.nodes, node.Worded) {compiled : Compiled}
    (success : dialect.compile (.query tree.query) = .ok compiled) :
    tree.Spelled dialect compiled ∧ compiled.unions = tree.kinds ∧
      ((∀ rows : Nat → Multiset α, compiled.rows rows = tree.rows rows 0) ↔
        tree.keepsRows = true) := by
  have standard := standard_of_mem member
  have unions : compiled.unions = tree.kinds := by
    rw [standard.unions_of_compile worded success, tree.unionKinds_query]
  have same (rows : Nat → Multiset α) : compiled.rows rows = tree.textRows rows 0 := by
    rw [Compiled.rows, unions, UnionTree.textRows]
  refine ⟨standard.spelled_of_compile success, unions, ?_⟩
  simp only [same]
  exact tree.textRows_eq_rows_iff 0

/-- The column `x` of all rows of a table. -/
def columnOf (table : String) : UnionTree :=
  .select
    { query :=
        { selection := [.named (.qualified (.identifier table) "x")]
          source := some (.table (.identifier table)) }
      unsorted := rfl
      unmodified := rfl
      single := rfl }

/-- Unions on the right of each other, of which the last that drops repeated rows ends a query. -/
def keptUnions : UnionTree :=
  .union
    (.union (.union (columnOf "A") .distinct (.union (columnOf "B") .distinct (columnOf "C")))
      .distinct (.union (columnOf "D") .all (.union (columnOf "E") .distinct (columnOf "F"))))
    .all (.union (columnOf "G") .all (columnOf "H"))

theorem compile_unionTree_keptUnions :
    ∃ compiled, sqlite.compile (.query keptUnions.query) = .ok compiled ∧
      compiled.sql = "SELECT A.x FROM A UNION SELECT B.x FROM B UNION SELECT C.x FROM C " ++
        "UNION SELECT D.x FROM D UNION ALL SELECT E.x FROM E UNION SELECT F.x FROM F " ++
        "UNION ALL SELECT G.x FROM G UNION ALL SELECT H.x FROM H" ∧
      ∀ rows : Nat → Multiset Nat, compiled.rows rows = keptUnions.rows rows 0 := by
  have worded : ∀ node ∈ keptUnions.query.nodes, node.Worded := by decide
  have keeps : keptUnions.keepsRows = true := by decide
  refine ⟨_, rfl, by decide +kernel, ?_⟩
  exact (compile_unionTree (by simp) worded rfl).2.2.mpr keeps

/-- Adding a query without its parentheses: `A UNION ALL (B UNION C)` and `(A UNION ALL B) UNION C`
have the same text. With a row twice in `A` and none elsewhere they denote it twice and once. -/
theorem unionTrees_collide :
    ∃ compiled,
      generic.compile (.query (UnionTree.union (columnOf "A") .all
        (.union (columnOf "B") .distinct (columnOf "C"))).query) = .ok compiled ∧
      generic.compile (.query (UnionTree.union (.union (columnOf "A") .all (columnOf "B")) .distinct
        (columnOf "C")).query) = .ok compiled ∧
      compiled.sql = "SELECT A.x FROM A UNION ALL SELECT B.x FROM B " ++
        "UNION DISTINCT SELECT C.x FROM C" ∧
      ∃ rows : Nat → Multiset Nat,
        (UnionTree.union (columnOf "A") .all
          (.union (columnOf "B") .distinct (columnOf "C"))).rows rows 0 = {1, 1} ∧
        (UnionTree.union (.union (columnOf "A") .all (columnOf "B")) .distinct
          (columnOf "C")).rows rows 0 = {1} ∧
        compiled.rows rows = {1} := by
  refine ⟨_, rfl, rfl, by decide +kernel, fun place => if place = 0 then {1, 1} else 0, by decide,
    by decide, ?_⟩
  decide +kernel

end Dialect

end SqlTree
