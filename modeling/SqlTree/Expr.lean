import SqlTree.Value

/-! # Expressions

The trees that are rendered: expressions, and the queries and elements that they hold, made of
names, operators and units of time.
-/

namespace SqlTree

/-! ## Qualified names

A name is an identifier on its own or an identifier inside a parent name. `parts` lists the
identifiers from the outermost parent inward; a name is determined by its parts
(`eq_of_parts_eq`).
-/

/-- The name of a table, a column, a label or an alias. -/
inductive Name where
  | identifier (id : String)
  | qualified (parent : Name) (id : String)
deriving DecidableEq, Repr, Inhabited

namespace Name

def id : Name → String
  | identifier id => id
  | qualified _ id => id

/-- The name that the last identifier stands in, if there is one. -/
def parent? : Name → Option Name
  | identifier _ => none
  | qualified parent _ => some parent

/-- The identifiers of the name, outermost parent first. -/
def parts : Name → List String
  | identifier id => [id]
  | qualified parent id => parent.parts ++ [id]

def ofParts (outermost : String) (inner : List String) : Name :=
  inner.foldl qualified (identifier outermost)

/-- The parts as they are, with dots between them. -/
def text : Name → String
  | identifier id => id
  | qualified parent id => parent.text ++ "." ++ id

theorem parts_ne_nil (name : Name) : name.parts ≠ [] := by
  cases name <;> simp [parts]

/-- Two names with the same parts are the same name. -/
theorem eq_of_parts_eq {first second : Name} (same : first.parts = second.parts) :
    first = second := by
  induction first generalizing second with
  | identifier id =>
    cases second with
    | identifier other => simpa [parts] using same
    | qualified parent other =>
      have size := congrArg List.length same
      simp [parts, parts_ne_nil] at size
  | qualified parent id ih =>
    cases second with
    | identifier other =>
      have size := congrArg List.length same
      simp [parts, parts_ne_nil] at size
    | qualified outer other =>
      obtain ⟨front, last⟩ := List.append_inj' same rfl
      rw [ih front, List.singleton_inj.mp last]

end Name

/-! ## Binary operators

The operators of a binary expression with the data that decides where parentheses are needed:
how tightly each binds, which of them are logical, which are comparisons, and which reassociate.
-/

inductive BinaryOp where
  | eq | notEq | lt | ltEq | gt | gtEq | and | or | add | sub | mul | div | like
deriving DecidableEq, Repr, Inhabited

namespace BinaryOp

/-- The spelling of the operator in standard SQL. -/
def text : BinaryOp → String
  | eq => "="
  | notEq => "<>"
  | lt => "<"
  | ltEq => "<="
  | gt => ">"
  | gtEq => ">="
  | and => "AND"
  | or => "OR"
  | add => "+"
  | sub => "-"
  | mul => "*"
  | div => "/"
  | like => "LIKE"

/-- How tightly the operator binds; the tighter operator has the greater number. -/
def precedence : BinaryOp → Nat
  | or => 1
  | and => 2
  | eq | notEq | lt | ltEq | gt | gtEq | like => 3
  | add | sub => 8
  | mul | div => 9

/-- Whether the operands are truth values. -/
def isLogical : BinaryOp → Bool
  | and | or => true
  | _ => false

/-- Whether the operator compares two values; comparisons do not chain. -/
def isComparison : BinaryOp → Bool
  | eq | notEq | lt | ltEq | gt | gtEq | like => true
  | _ => false

/-- Whether `a op (b op c)` may be written without its parentheses. -/
def isAssociative : BinaryOp → Bool
  | and | or | add | mul => true
  | _ => false

/-- The postfix test that a comparison with the NULL literal stands for, if it stands for one. -/
def nullTest? : BinaryOp → Option String
  | eq => some " IS NULL"
  | notEq => some " IS NOT NULL"
  | _ => none

end BinaryOp

/-! ## Units of time

The units that interval arithmetic and date truncation are stated in, from the shortest to the
longest. A vendor's syntax need not have a word for each of them.
-/

inductive TimeUnit where
  | nanos | micros | millis | seconds | minutes | hours | days | weeks | months | years | decades
deriving DecidableEq, Repr, Inhabited

namespace TimeUnit

/-- The place of the unit among all units, shortest first. -/
def rank : TimeUnit → Nat
  | nanos => 0
  | micros => 1
  | millis => 2
  | seconds => 3
  | minutes => 4
  | hours => 5
  | days => 6
  | weeks => 7
  | months => 8
  | years => 9
  | decades => 10

/-- A shorter unit comes first. -/
instance : Ord TimeUnit where
  compare first second := compare first.rank second.rank

def isSubDay (unit : TimeUnit) : Bool :=
  unit.rank < days.rank

def text : TimeUnit → String
  | nanos => "NANOS"
  | micros => "MICROS"
  | millis => "MILLIS"
  | seconds => "SECONDS"
  | minutes => "MINUTES"
  | hours => "HOURS"
  | days => "DAYS"
  | weeks => "WEEKS"
  | months => "MONTHS"
  | years => "YEARS"
  | decades => "DECADES"

end TimeUnit

/-! ## Expressions and queries

Expressions hold queries and queries hold expressions, so their types are declared together.
Nothing here depends on a dialect: a tree states what is asked, and a dialect decides how it is
written or that it has no form for it.
-/

/-- Which rows without a partner a join keeps. -/
inductive JoinKind where
  | inner | leftOuter | rightOuter
deriving DecidableEq, Repr, Inhabited

/-- Whether a set union keeps repeated rows. -/
inductive UnionKind where
  | distinct | all
deriving DecidableEq, Repr, Inhabited

/-- Whether an interval is added to a date or taken from it. -/
inductive DateShift where
  | later | earlier
deriving DecidableEq, Repr, Inhabited

mutual

/-- An expression. `alias` gives a selection entry its name and refers to that name anywhere else;
`allColumns` stands for every column of an element and is meaningful as a selection entry only. -/
inductive Expr where
  | literal (value : Value)
  | named (name : Name)
  | binary (op : BinaryOp) (left right : Expr)
  | not (operand : Expr)
  | isNull (negated : Bool) (operand : Expr)
  | inList (negated : Bool) (operand : Expr) (values : List Value)
  | inQuery (negated : Bool) (operand : Expr) (query : Query)
  | call (function : String) (arguments : List Expr)
  | countAll (distinct : Bool)
  | count (distinct : Bool) (operand : Expr)
  | case (target : Option Expr) (branches : List Branch) (otherwise : Option Expr)
  | subquery (query : Query)
  | alias (expr : Expr) (name : Name)
  | allColumns (element : Element)
  | extension (node : Extension)

structure Branch where
  condition : Expr
  result : Expr

/-- Something that rows are taken from: a table, a sub-query, or either under a label. -/
inductive Element where
  | table (name : Name)
  | labelled (element : Element) (label : Name)
  | subquery (query : Query)

structure Join where
  kind : JoinKind
  element : Element
  condition : Expr

/-- A sort key with its direction. Rows without a value for the key come last. -/
structure Order where
  expr : Expr
  descending : Bool

/-- What comes after the sort keys: a bound on the rows, or a clause with a syntax of its own. -/
inductive Modifier where
  | limit (count offset : UInt64)
  | extension (node : Extension)

/-- A query whose rows are added to those of the query it belongs to. -/
structure Union where
  kind : UnionKind
  query : Query

/-- A query, clause by clause. An empty selection selects everything; predicates of a list all
have to hold. -/
structure Query where
  selection : List Expr := []
  source : Option Element := none
  joins : List Join := []
  filter : List Expr := []
  grouping : List Expr := []
  having : List Expr := []
  order : List Order := []
  modifiers : List Modifier := []
  unions : List Union := []

/-- A node with a syntax of its own. `interval` is a number of units; `extractedInterval` has the
number read from a date and a constant added to it; `shift` moves a date by an interval;
`truncate` gives the start of the unit a date lies in, moved by a number of units; `groupConcat`
joins the values of a group to one text; `custom` is made of parts. -/
inductive Extension where
  | interval (amount : Expr) (unit : TimeUnit)
  | extractedInterval (date : Expr) (unit : TimeUnit) (offset : Int32)
  | shift (direction : DateShift) (date amount : Expr) (unit : TimeUnit)
  | truncate (date : Expr) (unit : TimeUnit) (offset : Int32)
  | groupConcat (distinct : Bool) (columns : List Expr) (order : List Order) (separator : String)
  | custom (parts : List Part)

/-- A part of a custom node. `argument` hands a value to the database without a placeholder;
`unsupported` refuses the node in every dialect. -/
inductive Part where
  | text (text : String)
  | expr (expr : Expr)
  | literal (value : Value)
  | argument (value : Value)
  | dialectName
  | unsupported (construct : String)

end

namespace JoinKind

def text : JoinKind → String
  | inner => "INNER JOIN"
  | leftOuter => "LEFT OUTER JOIN"
  | rightOuter => "RIGHT OUTER JOIN"

end JoinKind

namespace Expr

def isNullLiteral : Expr → Bool
  | literal .null => true
  | _ => false

theorem eq_of_isNullLiteral {expr : Expr} (null : expr.isNullLiteral = true) :
    expr = literal .null := by
  unfold isNullLiteral at null
  split at null
  · rfl
  · cases null

/-- Whether the expression is a single term, which never needs parentheses. -/
def isAtomic : Expr → Bool
  | binary .. | not _ | isNull .. | inList .. | inQuery .. => false
  | _ => true

end Expr

inductive Side where
  | left | right
deriving DecidableEq, Repr, Inhabited

/-- Whether an operand needs parentheses beside the operator `parent`. Between logical operators
it does when the two differ, between comparisons always, as they do not chain. Otherwise it does
when it binds looser than `parent`, or as loose on the right of an operator that does not
reassociate with it. Tests stand bare only beside logical operators. -/
def Expr.needsGrouping (operand : Expr) (parent : BinaryOp) (side : Side) : Bool :=
  match operand with
  | .binary op _ _ =>
    if op.isLogical && parent.isLogical then op != parent
    else if op.isComparison && parent.isComparison then true
    else
      op.precedence < parent.precedence ||
        (side == .right && op.precedence == parent.precedence &&
          !(parent.isAssociative && op == parent))
  | .not _ | .isNull .. | .inList .. | .inQuery .. => !parent.isLogical
  | _ => false

structure LabelledElement where
  element : Element
  label : Name

namespace LabelledElement

def toElement (labelled : LabelledElement) : Element :=
  .labelled labelled.element labelled.label

def column (labelled : LabelledElement) (id : String) : Expr :=
  .named (.qualified labelled.label id)

end LabelledElement

end SqlTree
