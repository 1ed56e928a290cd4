import SqlTree.Expr

/-! # Queries and statements

Queries and statements are built by calls. The calls of each are listed by a type of steps, so that
a sequence of calls is a value.
-/

namespace SqlTree

/-! ## Building queries

A query is built by calls, each of which adds to one clause. `Query.Step` lists the calls, so that
a sequence of calls is a value; `Query.run` performs it. A source replaces the source before it,
and a row limit takes the place of every earlier one at the end of the modifiers; every other call
appends.
-/

namespace Modifier

def isLimit : Modifier → Bool
  | limit .. => true
  | extension _ => false

end Modifier

namespace Query

/-- A query of all columns of an element. -/
def ofElement (element : Element) : Query :=
  { source := some element }

/-- Takes rows from `element`, and no longer from an earlier source. -/
def withSource (query : Query) (element : Element) : Query :=
  { query with source := some element }

def select (query : Query) (entries : List Expr) : Query :=
  { query with selection := query.selection ++ entries }

def join (query : Query) (kind : JoinKind) (element : Element) (condition : Expr) : Query :=
  { query with joins := query.joins ++ [⟨kind, element, condition⟩] }

/-- Keeps only rows for which `predicate` holds. -/
def filterBy (query : Query) (predicate : Expr) : Query :=
  { query with filter := query.filter ++ [predicate] }

def groupBy (query : Query) (keys : List Expr) : Query :=
  { query with grouping := query.grouping ++ keys }

/-- Keeps only groups for which `predicate` holds. -/
def havingBy (query : Query) (predicate : Expr) : Query :=
  { query with having := query.having ++ [predicate] }

/-- Sorts by `expr` where all earlier keys are equal. -/
def orderBy (query : Query) (expr : Expr) (descending : Bool) : Query :=
  { query with order := query.order ++ [⟨expr, descending⟩] }

/-- Skips `offset` rows and gives at most `count`, whatever limit was set before. -/
def limit (query : Query) (count offset : UInt64) : Query :=
  { query with
    modifiers := query.modifiers.filter (fun modifier => !modifier.isLimit) ++
      [.limit count offset] }

def modify (query : Query) (node : Extension) : Query :=
  { query with modifiers := query.modifiers ++ [.extension node] }

def union (query : Query) (kind : UnionKind) (other : Query) : Query :=
  { query with unions := query.unions ++ [⟨kind, other⟩] }

def labelled (query : Query) (label : String) : LabelledElement :=
  ⟨.subquery query, .identifier label⟩

inductive Step where
  | source (element : Element)
  | select (entries : List Expr)
  | join (kind : JoinKind) (element : Element) (condition : Expr)
  | filter (predicate : Expr)
  | groupBy (keys : List Expr)
  | having (predicate : Expr)
  | orderBy (expr : Expr) (descending : Bool)
  | limit (count offset : UInt64)
  | modifier (node : Extension)
  | union (kind : UnionKind) (other : Query)

def apply (query : Query) : Step → Query
  | .source element => query.withSource element
  | .select entries => query.select entries
  | .join kind element condition => query.join kind element condition
  | .filter predicate => query.filterBy predicate
  | .groupBy keys => query.groupBy keys
  | .having predicate => query.havingBy predicate
  | .orderBy expr descending => query.orderBy expr descending
  | .limit count offset => query.limit count offset
  | .modifier node => query.modify node
  | .union kind other => query.union kind other

def run (query : Query) (steps : List Step) : Query :=
  steps.foldl apply query

@[simp] theorem run_nil (query : Query) : query.run [] = query := rfl

@[simp] theorem run_cons (query : Query) (step : Step) (steps : List Step) :
    query.run (step :: steps) = (query.apply step).run steps := rfl

theorem run_append (query : Query) (first second : List Step) :
    query.run (first ++ second) = (query.run first).run second :=
  List.foldl_append

end Query

/-! ## Assignments to columns

An ordered list of columns with what is assigned to each. Assigning to a column again replaces
what was assigned and keeps the column's place, so the columns stand in the order of their first
assignment and each has its last one.
-/

/-- The columns that a statement assigns to. -/
abbrev Assignments (α : Type) := List (Name × α)

namespace Assignments

def assign {α : Type} (column : Name) (value : α) : Assignments α → Assignments α
  | [] => [(column, value)]
  | (other, old) :: rest =>
    if other = column then (other, value) :: rest else (other, old) :: assign column value rest

def columns {α : Type} (assignments : Assignments α) : List Name :=
  assignments.map Prod.fst

/-- A column that is assigned to again keeps its place, and a new one comes last. -/
theorem columns_assign {α : Type} (column : Name) (value : α) (assignments : Assignments α) :
    (assignments.assign column value).columns =
      if column ∈ assignments.columns then assignments.columns
      else assignments.columns ++ [column] := by
  induction assignments with
  | nil => simp [assign, columns]
  | cons entry rest ih =>
    obtain ⟨other, old⟩ := entry
    by_cases same : other = column
    · simp [assign, columns, same]
    · have apart : ¬ column = other := fun equal => same equal.symm
      simp only [columns] at ih
      by_cases known : column ∈ rest.map Prod.fst <;>
        simp only [assign, columns, same, apart, known, ih, List.map_cons, List.mem_cons,
          ↓reduceIte, false_or, List.cons_append]

end Assignments

/-! ## Statements

A statement selects rows, inserts them, changes them or deletes them. Changing and deleting pick
their rows with the filter, the sort keys and the row limit of a query whose other clauses stay
empty. The calls that build each statement are values, as those of a query are.
-/

structure Insert where
  table : Name
  assignments : Assignments Value := []

structure InsertQuery where
  table : Name
  query : Query

structure Update where
  table : Name
  assignments : Assignments Expr := []
  rows : Query := {}

structure Delete where
  table : Name
  rows : Query := {}

inductive Statement where
  | query (query : Query)
  | insert (insert : Insert)
  | insertQuery (insert : InsertQuery)
  | update (update : Update)
  | delete (delete : Delete)

/-- A call that restricts or orders the rows that a statement changes or deletes. -/
inductive RowStep where
  | filter (predicate : Expr)
  | orderBy (expr : Expr) (descending : Bool)
  | limit (count offset : UInt64)

/-- The call on the query that picks the rows. -/
def RowStep.toQueryStep : RowStep → Query.Step
  | filter predicate => .filter predicate
  | orderBy expr descending => .orderBy expr descending
  | limit count offset => .limit count offset

namespace Insert

def set (insert : Insert) (column : Name) (value : Value) : Insert :=
  { insert with assignments := insert.assignments.assign column value }

def run (insert : Insert) (steps : List (Name × Value)) : Insert :=
  steps.foldl (fun insert step => insert.set step.1 step.2) insert

/-- Inserts the rows of `query` instead of the values. -/
def ofQuery (insert : Insert) (query : Query) : InsertQuery :=
  { table := insert.table, query }

end Insert

namespace Update

inductive Step where
  | set (column : Name) (expr : Expr)
  | rows (step : RowStep)

def apply (update : Update) : Step → Update
  | .set column expr => { update with assignments := update.assignments.assign column expr }
  | .rows step => { update with rows := update.rows.apply step.toQueryStep }

def run (update : Update) (steps : List Step) : Update :=
  steps.foldl apply update

end Update

namespace Delete

def apply (delete : Delete) (step : RowStep) : Delete :=
  { delete with rows := delete.rows.apply step.toQueryStep }

def run (delete : Delete) (steps : List RowStep) : Delete :=
  steps.foldl apply delete

end Delete

end SqlTree
