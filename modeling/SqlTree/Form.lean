import SqlTree.Fragment

/-! # Forms of expressions and clauses

How an expression or a clause is put together from the fragments of its parts. The forms take their
parts rendered or refused, so that a form states in which order its parts are looked at: the first
refusal is the refusal of the whole.
-/

namespace SqlTree

/-- A fragment, or why there is none. -/
abbrev Rendering := Except Refusal Fragment

namespace Refusal

/-- The refusal of a construct. -/
def of {α : Type} (construct : Construct) : Except Refusal α :=
  .error (.unsupported construct)

end Refusal

namespace Form

/-! ## Expressions -/

/-- A comparison with the literal NULL, which is a test of the other operand. -/
def nullTest (op : BinaryOp) (operand : Expr) (rendered : Rendering) : Rendering :=
  match op.nullTest? with
  | some test => do
    return Fragment.grouped (operand.needsGrouping op .left) (← rendered) ++ [.text test]
  | none => Refusal.of (.nullComparison op)

def operator (grammar : Grammar) (op : BinaryOp) : Except Refusal String :=
  match grammar.operator? op with
  | some text => .ok text
  | none => Refusal.of (.operator op)

/-- Two operands with an operator between them, each grouped if it has to be. -/
def binary (grammar : Grammar) (op : BinaryOp) (left right : Expr)
    (renderedLeft renderedRight : Rendering) : Rendering := do
  let before ← renderedLeft
  let text ← operator grammar op
  let after ← renderedRight
  return Fragment.grouped (left.needsGrouping op .left) before ++ [.text (" " ++ text ++ " ")] ++
    Fragment.grouped (right.needsGrouping op .right) after

/-- The operand of a test or a negation, grouped unless it is a single term. -/
def operand (expr : Expr) (rendered : Rendering) : Rendering := do
  return Fragment.grouped (!expr.isAtomic) (← rendered)

def membership (negated : Bool) : String :=
  if negated then " NOT IN (" else " IN ("

/-- A membership test in a list of values. Nothing is in the empty list, whatever the operand. -/
def inList (negated : Bool) (expr : Expr) (values : List Value) (rendered : Rendering) :
    Rendering :=
  if values.isEmpty then .ok [.text (if negated then "1 = 1" else "1 = 0")]
  else do
    return (← operand expr rendered) ++ .text (membership negated) ::
      Fragment.separated ", " (values.map fun value => [.value value]) ++ [.text ")"]

def inQuery (negated : Bool) (expr : Expr) (rendered query : Rendering) : Rendering := do
  return (← operand expr rendered) ++ .text (membership negated) :: (← query) ++ [.text ")"]

def count (distinct : Bool) (counted : Fragment) : Fragment :=
  .text (if distinct then "COUNT(DISTINCT " else "COUNT(") :: counted ++ [.text ")"]

def caseTarget (target : Option Fragment) : Fragment :=
  match target with
  | some target => .text "CASE (" :: target ++ [.text ")"]
  | none => [.text "CASE"]

def branch (condition result : Fragment) : Fragment :=
  .text " WHEN (" :: condition ++ .text ") THEN " :: result

def caseEnd (otherwise : Option Fragment) : Fragment :=
  match otherwise with
  | some otherwise => .text " ELSE " :: otherwise ++ [.text " END"]
  | none => [.text " END"]

/-- The columns of an element as a selection entry. Only the name of the element is written. -/
def allColumns (element : Element) : Rendering :=
  match element with
  | .table name | .labelled _ name => .ok [.name name, .text ".*"]
  | .subquery _ => Refusal.of .unlabelledAllColumns

/-! ## Clauses -/

/-- The entries of a selection, or all columns. -/
def selection (entries : List Fragment) : Fragment :=
  .text "SELECT " :: if entries.isEmpty then [.text "*"] else Fragment.separated ", " entries

/-- The source of a query and what is joined to it; nothing can be joined to no source. -/
def source (source : Except Refusal (Option Fragment)) (hasJoins : Bool) (joins : Rendering) :
    Rendering := do
  match ← source with
  | some element => return .text " FROM " :: element ++ (← joins)
  | none => if hasJoins then Refusal.of .joinWithoutSource else return []

def join (kind : JoinKind) (element condition : Fragment) : Fragment :=
  .text (" " ++ kind.text ++ " ") :: element ++ .text " ON " :: condition

/-- The predicates of a clause, grouped as they have to be with AND between them. A single one
stands bare. -/
def conjuncts : List Expr → List Fragment → List Fragment
  | first :: second :: rest, rendered =>
    List.zipWith Fragment.grouped
      (first.needsGrouping .and .left ::
        (second :: rest).map fun predicate => predicate.needsGrouping .and .right)
      rendered
  | _, rendered => rendered

theorem exists_of_mem_conjuncts {exprs : List Expr} {rendered : List Fragment} {fragment : Fragment}
    (member : fragment ∈ conjuncts exprs rendered) :
    ∃ group, ∃ part ∈ rendered, fragment = Fragment.grouped group part := by
  unfold conjuncts at member
  split at member
  · rw [← List.map_uncurry_zip_eq_zipWith] at member
    obtain ⟨⟨group, part⟩, paired, rfl⟩ := List.mem_map.mp member
    exact ⟨group, part, (List.of_mem_zip paired).2, rfl⟩
  · exact ⟨false, fragment, member, rfl⟩

/-- A keyword and what it applies to, if there is anything. -/
def clause (keyword separator : String) (fragments : List Fragment) : Fragment :=
  if fragments.isEmpty then [] else .text keyword :: Fragment.separated separator fragments

theorem clause_eq_cons {keyword separator : String} {fragments : List Fragment}
    (filled : fragments ≠ []) :
    clause keyword separator fragments =
      .text keyword :: Fragment.separated separator fragments :=
  if_neg (by simpa using filled)

def predicates (keyword : String) (exprs : List Expr) (rendered : List Fragment) : Fragment :=
  clause keyword " AND " (conjuncts exprs rendered)

def list (keyword : String) (rendered : List Fragment) : Fragment :=
  clause keyword ", " rendered

def sortKey (expr : Fragment) : SortKey → Fragment
  | .nullTest => .text "ISNULL(" :: expr ++ [.text ")"]
  | .value descending nullsLast =>
    expr ++ (if descending then [.text " DESC"] else []) ++
      (if nullsLast then [.text " NULLS LAST"] else [])

/-- The sort keys that an expression is written as. -/
def order (style : NullOrder) (descending : Bool) (expr : Fragment) : Fragment :=
  Fragment.separated ", " ((style.keys descending).map (sortKey expr))

/-- A row count as a value; a count beyond the range of integers is refused. -/
def rowCount (count : UInt64) : Except Refusal Value :=
  if count.toNat < Nat.pow 2 63 then .ok (.int (.ofNat count.toNat))
  else Refusal.of (.rowCount count)

/-- A bound on the rows. No offset is written if no rows are skipped. -/
def limit (count offset : UInt64) : Rendering := do
  let bound ← rowCount count
  if offset = 0 then return [.text " LIMIT ", .value bound]
  else return [.text " LIMIT ", .value bound, .text " OFFSET ", .value (← rowCount offset)]

def unionKeywords (grammar : Grammar) : UnionKind → String
  | .distinct => grammar.distinctUnion
  | .all => "UNION ALL"

def union (grammar : Grammar) (kind : UnionKind) (query : Fragment) : Fragment :=
  .text (" " ++ unionKeywords grammar kind ++ " ") :: query

/-! ## Nodes with a syntax of their own -/

def intervalUnit : TimeUnit → Except Refusal String
  | .micros => .ok "MICROSECOND"
  | .seconds => .ok "SECOND"
  | .minutes => .ok "MINUTE"
  | .hours => .ok "HOUR"
  | .days => .ok "DAY"
  | .weeks => .ok "WEEK"
  | .months => .ok "MONTH"
  | .years => .ok "YEAR"
  | unit => .error (.timeUnit unit .interval)

/-- A number of units. The unit is looked at before the number. -/
def interval (unit : TimeUnit) (amount : Rendering) : Rendering := do
  let word ← intervalUnit unit
  return .text "INTERVAL " :: (← amount) ++ [.text (" " ++ word)]

/-- The number of units that a date shows, and `offset` more. -/
def extracted (word : String) (offset : Int32) (date : Fragment) : Fragment :=
  .text ("INTERVAL EXTRACT(" ++ word ++ " FROM ") :: date ++ .text ")" ::
    (if offset = 0 then [] else [.text " + ", .value (.int offset.toInt64)]) ++
      [.text (" " ++ word)]

/-- The number of units that a date shows, and `offset` more. The unit is looked at first. -/
def extractedInterval (unit : TimeUnit) (offset : Int32) (date : Rendering) : Rendering := do
  let word ← intervalUnit unit
  return extracted word offset (← date)

def shiftFunction : DateShift → String
  | .later => "DATE_ADD"
  | .earlier => "DATE_SUB"

def shift (direction : DateShift) (date interval : Rendering) : Rendering := do
  return Fragment.call (shiftFunction direction) [← date, ← interval]

/-- The day that a date lies in, with the clock set to what `words` extract from the date; the
offset is added to the last of them. -/
def clockTruncation (words : List String) (last : String) (offset : Int32) (date : Fragment) :
    Fragment :=
  Fragment.parenthesised (Fragment.separated " + "
    (Fragment.call "DATE" [date] :: words.map (fun word => extracted word 0 date) ++
      [extracted last offset date]))

/-- The day that a date lies in, moved back by the number of days that `function` counts from the
start of its unit, of which the first is 1. -/
def dayTruncation (grammar : Grammar) (function : String) (date : Fragment) : Rendering := do
  let minus ← operator grammar .sub
  let days : Fragment :=
    Fragment.call function [date] ++ [.text (" " ++ minus ++ " "), .value (.int 1)]
  shift .earlier (.ok (Fragment.call "DATE" [date])) (interval .days (.ok days))

/-- The start of the unit that a date lies in. Units that have none are refused whatever the date,
and the offset is for units shorter than a day. -/
def truncation (grammar : Grammar) (unit : TimeUnit) (offset : Int32) (date : Rendering) :
    Rendering :=
  match unit with
  | .seconds => do return clockTruncation ["HOUR", "MINUTE"] "SECOND" offset (← date)
  | .minutes => do return clockTruncation ["HOUR"] "MINUTE" offset (← date)
  | .hours => do return clockTruncation [] "HOUR" offset (← date)
  | .days => do return Fragment.call "DATE" [← date]
  | .weeks => do dayTruncation grammar "DAYOFWEEK" (← date)
  | .months => do dayTruncation grammar "DAYOFMONTH" (← date)
  | .years => do dayTruncation grammar "DAYOFYEAR" (← date)
  | unit => .error (.timeUnit unit .truncation)

/-- An aggregate that joins texts. The separator is written unless it is a comma, which databases
take without being told. -/
def groupConcat (distinct : Bool) (columns order : List Fragment) (separator : String) : Fragment :=
  .text "GROUP_CONCAT(" :: (if distinct then [.text "DISTINCT "] else []) ++
    Fragment.separated ", " columns ++ list " ORDER BY " order ++
    (if separator = "," then [] else [.text " SEPARATOR ", .value (.text separator)]) ++
    [.text ")"]

end Form

end SqlTree
