import Mathlib.Data.List.Induction
import Mathlib.Data.List.Nodup
import SqlTree.Compile

/-! # What a run of calls leaves

Runs of calls are taken apart: what the assignments to one column leave does not depend on those to
others, nor what the calls of one clause leave on those of others.
-/

namespace SqlTree

/-! ## What a run of assignments leaves

After any run of assignments each column stands once, where it was assigned first, and has what it
was assigned last (`run_eq_settled`).
-/

namespace Assignments

variable {α : Type}

def run (assignments : Assignments α) (steps : List (Name × α)) : Assignments α :=
  steps.foldl (fun assignments step => assignments.assign step.1 step.2) assignments

/-- Each column once, in the order of the first assignments, with what it is assigned last. -/
def settled (steps : List (Name × α)) : Assignments α :=
  (steps.map Prod.fst).eraseDups.filterMap fun column =>
    (steps.reverse.lookup column).map fun value => (column, value)

private theorem run_concat (assignments : Assignments α) (steps : List (Name × α)) (step : Name × α) :
    assignments.run (steps ++ [step]) = (assignments.run steps).assign step.1 step.2 :=
  List.foldl_append

private theorem lookup_entry (column other : Name) (value : α) (rest : Assignments α) :
    List.lookup column ((other, value) :: rest) =
      if column = other then some value else List.lookup column rest := by
  by_cases same : column = other
  · simp [same]
  · have apart : (column == other) = false := by simpa using same
    simp [List.lookup_cons, apart, same]

/-- An assignment is seen in its column, and nowhere else. -/
private theorem lookup_assign (column other : Name) (value : α) (assignments : Assignments α) :
    (assignments.assign column value).lookup other =
      if other = column then some value else assignments.lookup other := by
  induction assignments with
  | nil => rw [assign, lookup_entry]
  | cons entry rest ih =>
    obtain ⟨first, old⟩ := entry
    rw [assign]
    by_cases found : first = column
    · rw [if_pos found, lookup_entry, lookup_entry, found]
      split <;> rfl
    · rw [if_neg found, lookup_entry, lookup_entry, ih]
      by_cases same : other = first
      · have apart : ¬ other = column := fun equal => found (same.symm.trans equal)
        rw [if_pos same, if_neg apart, if_pos same]
      · rw [if_neg same, if_neg same]

private theorem nodup_columns_assign (column : Name) (value : α) {assignments : Assignments α}
    (distinct : assignments.columns.Nodup) : (assignments.assign column value).columns.Nodup := by
  rw [columns_assign]
  split
  · exact distinct
  · rename_i fresh
    rw [← List.concat_eq_append]
    exact distinct.concat fresh

theorem nodup_columns_run (steps : List (Name × α)) :
    (run ([] : Assignments α) steps).columns.Nodup := by
  induction steps using List.reverseRecOn with
  | nil => exact List.nodup_nil
  | append_singleton steps step ih =>
    rw [run_concat]
    exact nodup_columns_assign _ _ ih

/-- The columns stand in the order of their first assignments. -/
theorem columns_run (steps : List (Name × α)) :
    (run ([] : Assignments α) steps).columns = (steps.map Prod.fst).eraseDups := by
  induction steps using List.reverseRecOn with
  | nil => rfl
  | append_singleton steps step ih =>
    rw [run_concat, columns_assign, ih, List.map_append, List.eraseDups_append]
    by_cases known : step.1 ∈ steps.map Prod.fst
    · simp [known, List.removeAll]
    · simp [known, List.removeAll, List.eraseDups_cons]

/-- A column has what it was assigned last. -/
theorem lookup_run (steps : List (Name × α)) (column : Name) :
    (run ([] : Assignments α) steps).lookup column = steps.reverse.lookup column := by
  induction steps using List.reverseRecOn with
  | nil => rfl
  | append_singleton steps step ih =>
    rw [run_concat, lookup_assign, ih, List.reverse_append, List.reverse_singleton,
      List.singleton_append, ← lookup_entry]

/-- Assignments to distinct columns are their columns with what each has. -/
private theorem eq_filterMap_lookup {assignments : Assignments α} (distinct : assignments.columns.Nodup) :
    assignments = assignments.columns.filterMap fun column =>
      (assignments.lookup column).map fun value => (column, value) := by
  induction assignments with
  | nil => rfl
  | cons entry rest ih =>
    obtain ⟨fresh, others⟩ := List.nodup_cons.mp distinct
    have kept (column : Name) (member : column ∈ columns rest) :
        List.lookup column (entry :: rest) = List.lookup column rest := by
      have apart : column ≠ entry.1 := fun equal => fresh (equal ▸ member)
      rw [lookup_entry, if_neg apart]
    have tail : (columns rest).filterMap
        (fun column => (List.lookup column (entry :: rest)).map fun value => (column, value)) =
        rest := by
      rw [List.filterMap_congr fun column member => by rw [kept column member]]
      exact (ih others).symm
    rw [columns, List.map_cons, List.filterMap_cons, lookup_entry entry.1, if_pos rfl]
    exact (congrArg (entry :: ·) tail).symm

theorem run_eq_settled (steps : List (Name × α)) :
    run ([] : Assignments α) steps = settled steps := by
  rw [eq_filterMap_lookup (nodup_columns_run steps), columns_run, settled]
  exact List.filterMap_congr fun column _ => by rw [lookup_run]

end Assignments

/-! ## What a run of calls builds

Every call adds to one clause of a query and leaves the others as they are. A run therefore leaves
in each clause what the calls of that clause do in their order (`run_eq_run`), and nothing of how
calls of different clauses were mixed. Most clauses append; the source and the row limit replace
what was set before, and the limit goes behind the vendor clauses that are there by then.
-/

namespace Query

/-- The clauses that calls add to. Row limits and vendor clauses are in one, as their order
counts. -/
inductive Clause where
  | source | selection | joins | filter | grouping | having | order | modifiers | unions
deriving DecidableEq, Repr, Inhabited

namespace Step

def clause : Step → Clause
  | .source _ => .source
  | .select _ => .selection
  | .join .. => .joins
  | .filter _ => .filter
  | .groupBy _ => .grouping
  | .having _ => .having
  | .orderBy .. => .order
  | .limit .. | .modifier _ => .modifiers
  | .union .. => .unions

/-- What a call adds, as a query that has nothing else. -/
def added : Step → Query
  | .source element => { source := some element }
  | .select entries => { selection := entries }
  | .join kind element condition => { joins := [⟨kind, element, condition⟩] }
  | .filter predicate => { filter := [predicate] }
  | .groupBy keys => { grouping := keys }
  | .having predicate => { having := [predicate] }
  | .orderBy expr descending => { order := [⟨expr, descending⟩] }
  | .limit count offset => { modifiers := [.limit count offset] }
  | .modifier node => { modifiers := [.extension node] }
  | .union kind other => { unions := [⟨kind, other⟩] }

def limit? : Step → Option (UInt64 × UInt64)
  | .limit count offset => some (count, offset)
  | _ => none

end Step

/-- The calls of a run that add to one clause. -/
def calls (clause : Clause) (steps : List Step) : List Step :=
  steps.filter fun step => step.clause = clause

/-- The modifiers other than row limits. -/
def vendorClauses (query : Query) : List Modifier :=
  query.modifiers.filter fun modifier => !modifier.isLimit

def limits (query : Query) : List Modifier :=
  query.modifiers.filter Modifier.isLimit

/-- What one call does: it adds its part to each clause, where a source comes before the old one
and a row limit puts all earlier ones away. -/
theorem apply_eq (query : Query) (step : Step) :
    query.apply step =
      { selection := query.selection ++ step.added.selection
        source := step.added.source.or query.source
        joins := query.joins ++ step.added.joins
        filter := query.filter ++ step.added.filter
        grouping := query.grouping ++ step.added.grouping
        having := query.having ++ step.added.having
        order := query.order ++ step.added.order
        modifiers :=
          (if step.limit?.isSome then query.vendorClauses else query.modifiers) ++
            step.added.modifiers
        unions := query.unions ++ step.added.unions } := by
  cases step <;>
    simp [apply, Step.added, Step.limit?, vendorClauses, withSource, select, join, filterBy,
      groupBy, havingBy, orderBy, limit, modify, union]

/-! ### Calls of different clauses -/

def only (query : Query) : Clause → Query
  | .source => { source := query.source }
  | .selection => { selection := query.selection }
  | .joins => { joins := query.joins }
  | .filter => { filter := query.filter }
  | .grouping => { grouping := query.grouping }
  | .having => { having := query.having }
  | .order => { order := query.order }
  | .modifiers => { modifiers := query.modifiers }
  | .unions => { unions := query.unions }

theorem eq_of_only {first second : Query} (same : ∀ clause, first.only clause = second.only clause) :
    first = second := by
  obtain ⟨⟩ := first
  obtain ⟨⟩ := second
  have source := same .source
  have selection := same .selection
  have joins := same .joins
  have filter := same .filter
  have grouping := same .grouping
  have having := same .having
  have order := same .order
  have modifiers := same .modifiers
  have unions := same .unions
  simp_all [only]

/-- A call leaves every clause but its own as it is. -/
private theorem only_apply_of_ne (query : Query) {step : Step} {clause : Clause}
    (other : step.clause ≠ clause) : (query.apply step).only clause = query.only clause := by
  cases clause <;> cases step <;> simp_all [Step.clause, only, apply_eq, Step.added, Step.limit?]

/-- What a call does to a clause depends on that clause alone. -/
private theorem only_apply_congr {first second : Query} {clause : Clause}
    (same : first.only clause = second.only clause) (step : Step) :
    (first.apply step).only clause = (second.apply step).only clause := by
  cases clause <;> simp_all [only, apply_eq, vendorClauses]

/-- A run leaves in a clause what the calls of that clause leave there. -/
theorem only_run (query : Query) (clause : Clause) (steps : List Step) :
    (query.run steps).only clause = (query.run (calls clause steps)).only clause := by
  suffices general : ∀ first second : Query, first.only clause = second.only clause →
      (first.run steps).only clause = (second.run (calls clause steps)).only clause from
    general query query rfl
  induction steps with
  | nil => exact fun _ _ same => same
  | cons step rest ih =>
    intro first second same
    by_cases own : step.clause = clause
    · rw [calls, List.filter_cons_of_pos (by simpa using own), run_cons, run_cons]
      exact ih _ _ (only_apply_congr same step)
    · rw [calls, List.filter_cons_of_neg (by simpa using own), run_cons]
      exact ih _ _ ((only_apply_of_ne first own).trans same)

/-- Runs with the same calls for each clause build the same query. -/
theorem run_eq_run (query : Query) {first second : List Step}
    (same : ∀ clause, calls clause first = calls clause second) :
    query.run first = query.run second := by
  refine eq_of_only fun clause => ?_
  rw [only_run, same, ← only_run]

/-! ### Clause by clause -/

/-- What every call appends to is, after a run, what the calls appended in order. -/
theorem run_appends {α : Type} {view : Query → List α} {part : Step → List α}
    (appends : ∀ query step, view (query.apply step) = view query ++ part step) (query : Query)
    (steps : List Step) : view (query.run steps) = view query ++ steps.flatMap part := by
  induction steps generalizing query with
  | nil => simp
  | cons step rest ih => rw [run_cons, ih, appends, List.flatMap_cons, List.append_assoc]

/-- The source is the last one set; a run that sets none keeps the source from before. -/
theorem source_run (query : Query) (steps : List Step) :
    (query.run steps).source =
      ((steps.filterMap fun step => step.added.source).getLast?).or query.source := by
  induction steps generalizing query with
  | nil => rfl
  | cons step rest ih =>
    rw [run_cons, ih, apply_eq]
    cases own : step.added.source with
    | none => simp [own]
    | some element =>
      cases later : (rest.filterMap fun step => step.added.source).getLast? <;>
        simp [own, later, List.getLast?_cons]

private theorem vendorClauses_apply (query : Query) (step : Step) :
    (query.apply step).vendorClauses = query.vendorClauses ++ step.added.vendorClauses := by
  rw [apply_eq]
  cases limited : step.limit?.isSome <;> simp [vendorClauses]

private theorem modifiers_apply {step : Step} (unlimited : step.limit? = none) (query : Query) :
    (query.apply step).modifiers = query.modifiers ++ step.added.vendorClauses := by
  have vendor : step.added.modifiers = step.added.vendorClauses := by
    cases step with
    | limit count offset => cases unlimited
    | _ => rfl
  rw [apply_eq, unlimited, ← vendor]
  rfl

/-- A limit takes the place of every limit before it, and other calls leave it as it is. -/
private theorem limits_apply (query : Query) (step : Step) :
    (query.apply step).limits =
      step.limit?.elim query.limits fun last => [.limit last.1 last.2] := by
  rw [apply_eq]
  cases step with
  | limit count offset =>
    have replaced : query.vendorClauses.filter Modifier.isLimit = [] := by
      simp [vendorClauses, List.filter_filter]
    simp only [limits, Step.limit?, Step.added, Option.isSome_some, ↓reduceIte, List.filter_append,
      replaced]
    rfl
  | _ => simp [limits, Step.limit?, Step.added, Modifier.isLimit]

theorem vendorClauses_run (query : Query) (steps : List Step) :
    (query.run steps).vendorClauses =
      query.vendorClauses ++ steps.flatMap fun step => step.added.vendorClauses :=
  run_appends vendorClauses_apply query steps

/-- Without a call that limits the rows, modifiers are appended in order. -/
theorem modifiers_run (query : Query) {steps : List Step}
    (unlimited : ∀ step ∈ steps, step.limit? = none) :
    (query.run steps).modifiers =
      query.modifiers ++ steps.flatMap fun step => step.added.vendorClauses := by
  induction steps generalizing query with
  | nil => simp
  | cons step rest ih =>
    obtain ⟨first, others⟩ := List.forall_mem_cons.mp unlimited
    rw [run_cons, ih _ others, modifiers_apply first, List.flatMap_cons, List.append_assoc]

/-- The last row limit stands behind the vendor clauses from before it, and those from after it
follow. -/
private theorem modifiers_run_limit (query : Query) (before : List Step) (count offset : UInt64)
    {after : List Step} (last : ∀ step ∈ after, step.limit? = none) :
    (query.run (before ++ .limit count offset :: after)).modifiers =
      query.vendorClauses ++ (before.flatMap fun step => step.added.vendorClauses) ++
        .limit count offset :: after.flatMap fun step => step.added.vendorClauses := by
  have limited : ((query.run before).apply (.limit count offset)).modifiers =
      (query.run before).vendorClauses ++ [.limit count offset] := rfl
  rw [run_append, run_cons, modifiers_run _ last, limited, vendorClauses_run, List.append_assoc,
    List.singleton_append]

/-- The only row limit after a run is the one that was set last. -/
theorem limits_run (query : Query) (steps : List Step) :
    (query.run steps).limits =
      (steps.filterMap Step.limit?).getLast?.elim query.limits
        fun last => [.limit last.1 last.2] := by
  induction steps generalizing query with
  | nil => rfl
  | cons step rest ih =>
    rw [run_cons, ih, limits_apply]
    cases own : step.limit? with
    | none => simp [own]
    | some first =>
      cases later : (rest.filterMap Step.limit?).getLast? <;>
        simp [own, later, List.getLast?_cons]

/-- What a run of calls makes of a query, clause by clause. -/
structure Built (start : Query) (steps : List Step) (result : Query) : Prop where
  selection : result.selection = start.selection ++ steps.flatMap fun step => step.added.selection
  /-- The source is the last one set. -/
  source : result.source =
    ((steps.filterMap fun step => step.added.source).getLast?).or start.source
  joins : result.joins = start.joins ++ steps.flatMap fun step => step.added.joins
  filter : result.filter = start.filter ++ steps.flatMap fun step => step.added.filter
  grouping : result.grouping = start.grouping ++ steps.flatMap fun step => step.added.grouping
  having : result.having = start.having ++ steps.flatMap fun step => step.added.having
  order : result.order = start.order ++ steps.flatMap fun step => step.added.order
  unions : result.unions = start.unions ++ steps.flatMap fun step => step.added.unions
  /-- The only row limit is the last one set. -/
  limits : result.limits = (steps.filterMap Step.limit?).getLast?.elim start.limits
    fun last => [.limit last.1 last.2]
  unlimited (none : ∀ step ∈ steps, step.limit? = .none) : result.modifiers =
    start.modifiers ++ steps.flatMap fun step => step.added.vendorClauses
  /-- The last limit stands behind the vendor clauses from before it. -/
  limited {before after : List Step} {count offset : UInt64}
    (split : steps = before ++ .limit count offset :: after)
    (last : ∀ step ∈ after, step.limit? = .none) : result.modifiers =
      start.vendorClauses ++ (before.flatMap fun step => step.added.vendorClauses) ++
        .limit count offset :: after.flatMap fun step => step.added.vendorClauses

theorem built_run (start : Query) (steps : List Step) : start.Built steps (start.run steps) where
  selection := run_appends (fun query step => congrArg selection (apply_eq query step)) start steps
  source := source_run start steps
  joins := run_appends (fun query step => congrArg joins (apply_eq query step)) start steps
  filter := run_appends (fun query step => congrArg filter (apply_eq query step)) start steps
  grouping := run_appends (fun query step => congrArg grouping (apply_eq query step)) start steps
  having := run_appends (fun query step => congrArg having (apply_eq query step)) start steps
  order := run_appends (fun query step => congrArg order (apply_eq query step)) start steps
  unions := run_appends (fun query step => congrArg unions (apply_eq query step)) start steps
  limits := limits_run start steps
  unlimited := modifiers_run start
  limited := by
    rintro before after count offset rfl last
    exact modifiers_run_limit start before count offset last

/-- A query from calls alone has one row limit at most. -/
private theorem length_limits_run_le (steps : List Step) : (({} : Query).run steps).limits.length ≤ 1 := by
  rw [limits_run]
  cases (steps.filterMap Step.limit?).getLast? <;> simp [limits]

/-- Runs with the same calls for each clause build the same query, which every dialect compiles
alike. A run builds each clause from its own calls, and a query that is made by calls alone has one
row limit at most. -/
theorem run_interleaved (start : Query) :
    (∀ first second : List Step, (∀ clause, calls clause first = calls clause second) →
        start.run first = start.run second ∧ ∀ dialect : Dialect,
          dialect.compile (.query (start.run first)) =
            dialect.compile (.query (start.run second))) ∧
      (∀ steps, start.Built steps (start.run steps)) ∧
      ∀ steps, (({} : Query).run steps).limits.length ≤ 1 := by
  refine ⟨fun first second same => ?_, built_run start, length_limits_run_le⟩
  have equal : start.run first = start.run second := run_eq_run start same
  exact ⟨equal, fun dialect => by rw [equal]⟩

/-- Two limits around a vendor clause, sources and predicates, in one order. -/
def limitFirst (lock : Extension) : List Step :=
  [.limit 5 0, .filter (.named (.identifier "a")), .modifier lock,
    .source (.table (.identifier "t")), .limit 7 2, .source (.table (.identifier "u")),
    .filter (.named (.identifier "b"))]

/-- The same calls for each clause, in another order. -/
def limitLast (lock : Extension) : List Step :=
  [.source (.table (.identifier "t")), .source (.table (.identifier "u")),
    .filter (.named (.identifier "a")), .filter (.named (.identifier "b")), .limit 5 0,
    .modifier lock, .limit 7 2]

theorem run_interleaved_limitFirst :
    let lock : Extension := .custom [.text " FOR UPDATE"]
    ({} : Query).run (limitFirst lock) = ({} : Query).run (limitLast lock) ∧
      (({} : Query).run (limitFirst lock)).modifiers = [.extension lock, .limit 7 2] ∧
      (({} : Query).run (limitFirst lock)).source = some (.table (.identifier "u")) := by
  intro lock
  obtain ⟨interleaved, built, -⟩ := run_interleaved {}
  have same (clause : Clause) : calls clause (limitFirst lock) = calls clause (limitLast lock) := by
    cases clause <;> rfl
  have equal := (interleaved _ _ same).1
  have split : limitLast lock = (limitLast lock).take 6 ++ .limit 7 2 :: [] := rfl
  have limited := (built (limitLast lock)).limited split nofun
  exact ⟨equal, equal ▸ limited, (built (limitFirst lock)).source⟩

end Query

end SqlTree
