import SqlTree.Render

/-! # The sites of a tree

A site is a part of a tree whose text is written. The sites of a tree are listed in the order of
the text, a part that is written twice is listed twice, and the values among them are the arguments
of the text. Three parts of a tree are no sites: what an alias stands for where the alias does not
declare its name, the operand of a membership test in an empty list, and the element behind `T.*`,
of which only the name is written.
-/

namespace SqlTree

/-- A part of a tree whose text is written. A value of the tree may be NULL; a setting is a value
that a node writes for a number or a text of its own. -/
inductive Site where
  | expr (position : Position) (expr : Expr)
  | query (query : Query)
  | limit (count offset : UInt64)
  | extension (node : Extension)
  | part (part : Part)
  | value (value : Value)
  | setting (value : Value)

namespace Site

/-- The greatest number that a database takes as a row count. -/
def maxRowCount : Nat :=
  Nat.pow 2 63 - 1

def rowCount (count : UInt64) : Value :=
  .int (.ofNat count.toNat)

/-- The arguments that the site adds itself: a value that is not NULL, a setting, or the row counts
of a limit, the second of them unless it is 0. -/
def arguments : Site → List Value
  | value given => if given.isNull then [] else [given]
  | limit count offset => rowCount count :: if offset = 0 then [] else [rowCount offset]
  | part (.argument given) | setting given => [given]
  | _ => []

/-- Whether no database has a form for what the site holds. -/
def Unsupported : Site → Prop
  | expr _ (.binary op left right) =>
    (left.isNullLiteral = true ∨ right.isNullLiteral = true) ∧ op ≠ .eq ∧ op ≠ .notEq
  | expr .inner (.allColumns _) => True
  | expr .entry (.allColumns (.subquery _)) => True
  | query rows => rows.joins ≠ [] ∧ rows.source.isNone = true
  | limit count offset => maxRowCount < count.toNat ∨ offset ≠ 0 ∧ maxRowCount < offset.toNat
  | extension (.interval _ unit) => unit ∈ [.nanos, .millis, .decades]
  | extension (.extractedInterval _ unit _) => unit ∈ [.nanos, .millis, .decades]
  | extension (.shift _ _ _ unit) => unit ∈ [.nanos, .millis, .decades]
  | extension (.truncate _ unit _) => unit ∈ [.nanos, .micros, .millis, .decades]
  | part (.unsupported _) => True
  | _ => False

/-- The sites as often as `count` says, one time after the other. -/
def repeated (count : Nat) (sites : List Site) : List Site :=
  (List.replicate count sites).flatten

theorem mem_repeated {count : Nat} (positive : 0 < count) {sites : List Site} {site : Site} :
    site ∈ repeated count sites ↔ site ∈ sites := by
  simp only [repeated, List.mem_flatten, List.mem_replicate]
  constructor
  · rintro ⟨_, ⟨_, rfl⟩, member⟩
    exact member
  · intro member
    exact ⟨sites, ⟨Nat.pos_iff_ne_zero.mp positive, rfl⟩, member⟩

/-- How often the start of a unit mentions the date: once for the day, and once for every number
that is read from the clock or counted from the start of the unit. -/
def truncationDates : TimeUnit → Nat
  | .seconds => 4
  | .minutes => 3
  | .hours | .weeks | .months | .years => 2
  | _ => 1

/-- The constant in the start of a unit: the offset of a clock time, or the number of the first
day. -/
def truncationConstant (offset : Int32) : TimeUnit → List Site
  | .seconds | .minutes | .hours => if offset = 0 then [] else [.setting (.int offset.toInt64)]
  | .weeks | .months | .years => [.setting (.int 1)]
  | _ => []

theorem exists_setting_of_mem_ite {omitted : Prop} [Decidable omitted] (constant : Value) :
    ∀ site ∈ (if omitted then [] else [setting constant]), ∃ value, site = setting value := by
  intro site member
  split at member
  · cases member
  · exact ⟨constant, List.mem_singleton.mp member⟩

theorem exists_setting_of_mem_truncationConstant (offset : Int32) (unit : TimeUnit) :
    ∀ site ∈ truncationConstant offset unit, ∃ value, site = setting value := by
  cases unit with
  | seconds | minutes | hours => exact exists_setting_of_mem_ite _
  | weeks | months | years => exact fun _ member => ⟨_, List.mem_singleton.mp member⟩
  | nanos | micros | millis | days | decades => exact nofun

end Site

/-! ## Traversal

A sort key of a query is written `copies` times. -/

mutual

def Expr.sites (copies : Nat) (position : Position) : Expr → List Site
  | .literal value => [.expr position (.literal value), .value value]
  | .named name => [.expr position (.named name)]
  | .binary op left right =>
    .expr position (.binary op left right) ::
      (left.sites copies .inner ++ right.sites copies .inner)
  | .not operand => .expr position (.not operand) :: operand.sites copies .inner
  | .isNull negated operand =>
    .expr position (.isNull negated operand) :: operand.sites copies .inner
  | .inList negated operand values =>
    .expr position (.inList negated operand values) ::
      if values.isEmpty then [] else operand.sites copies .inner ++ values.map .value
  | .inQuery negated operand query =>
    .expr position (.inQuery negated operand query) ::
      (operand.sites copies .inner ++ query.sites copies)
  | .call function arguments =>
    .expr position (.call function arguments) :: Expr.sitesOfAll copies .inner arguments
  | .countAll distinct => [.expr position (.countAll distinct)]
  | .count distinct operand =>
    .expr position (.count distinct operand) :: operand.sites copies .inner
  | .case target branches otherwise =>
    .expr position (.case target branches otherwise) ::
      (Expr.sitesOfOption copies target ++
        (Branch.sitesOfAll copies branches ++ Expr.sitesOfOption copies otherwise))
  | .subquery query => .expr position (.subquery query) :: query.sites copies
  | .alias expr name =>
    .expr position (.alias expr name) ::
      match position with
      | .entry => expr.sites copies .inner
      | .inner => []
  | .allColumns element => [.expr position (.allColumns element)]
  | .extension node => .expr position (.extension node) :: node.sites copies

def Expr.sitesOfAll (copies : Nat) (position : Position) : List Expr → List Site
  | [] => []
  | expr :: rest => expr.sites copies position ++ Expr.sitesOfAll copies position rest

def Expr.sitesOfOption (copies : Nat) : Option Expr → List Site
  | none => []
  | some expr => expr.sites copies .inner

def Branch.sitesOfAll (copies : Nat) : List Branch → List Site
  | [] => []
  | ⟨condition, result⟩ :: rest =>
    condition.sites copies .inner ++ (result.sites copies .inner ++ Branch.sitesOfAll copies rest)

def Element.sites (copies : Nat) : Element → List Site
  | .table _ => []
  | .labelled element _ => element.sites copies
  | .subquery query => query.sites copies

def Element.sitesOfOption (copies : Nat) : Option Element → List Site
  | none => []
  | some element => element.sites copies

def Join.sitesOfAll (copies : Nat) : List Join → List Site
  | [] => []
  | ⟨_, element, condition⟩ :: rest =>
    element.sites copies ++ (condition.sites copies .inner ++ Join.sitesOfAll copies rest)

/-- The sites of sort keys, each of which is written `times` times. -/
def Order.sitesOfAll (copies times : Nat) : List Order → List Site
  | [] => []
  | ⟨expr, _⟩ :: rest =>
    Site.repeated times (expr.sites copies .inner) ++ Order.sitesOfAll copies times rest

def Modifier.sitesOfAll (copies : Nat) : List Modifier → List Site
  | [] => []
  | .limit count offset :: rest => .limit count offset :: Modifier.sitesOfAll copies rest
  | .extension node :: rest => node.sites copies ++ Modifier.sitesOfAll copies rest

def Union.sitesOfAll (copies : Nat) : List Union → List Site
  | [] => []
  | ⟨_, query⟩ :: rest => query.sites copies ++ Union.sitesOfAll copies rest

def Query.sites (copies : Nat) : Query → List Site
  | ⟨selection, source, joins, filter, grouping, having, order, modifiers, unions⟩ =>
    .query ⟨selection, source, joins, filter, grouping, having, order, modifiers, unions⟩ ::
      (Expr.sitesOfAll copies .entry selection ++
        ((Element.sitesOfOption copies source ++ Join.sitesOfAll copies joins) ++
          (Expr.sitesOfAll copies .inner filter ++
            (Expr.sitesOfAll copies .inner grouping ++
              (Expr.sitesOfAll copies .inner having ++
                (Order.sitesOfAll copies copies order ++
                  (Modifier.sitesOfAll copies modifiers ++ Union.sitesOfAll copies unions)))))))

def Extension.sites (copies : Nat) : Extension → List Site
  | .interval amount unit =>
    .extension (.interval amount unit) :: amount.sites copies .inner
  | .extractedInterval date unit offset =>
    .extension (.extractedInterval date unit offset) ::
      (date.sites copies .inner ++ if offset = 0 then [] else [.setting (.int offset.toInt64)])
  | .shift direction date amount unit =>
    .extension (.shift direction date amount unit) ::
      (date.sites copies .inner ++ amount.sites copies .inner)
  | .truncate date unit offset =>
    .extension (.truncate date unit offset) ::
      (Site.repeated (Site.truncationDates unit) (date.sites copies .inner) ++
        Site.truncationConstant offset unit)
  | .groupConcat distinct columns order separator =>
    .extension (.groupConcat distinct columns order separator) ::
      (Expr.sitesOfAll copies .inner columns ++
        (Order.sitesOfAll copies 1 order ++
          if separator = "," then [] else [.setting (.text separator)]))
  | .custom parts => .extension (.custom parts) :: Part.sitesOfAll copies parts

def Part.sitesOfAll (copies : Nat) : List Part → List Site
  | [] => []
  | .text text :: rest => .part (.text text) :: Part.sitesOfAll copies rest
  | .expr expr :: rest => expr.sites copies .inner ++ Part.sitesOfAll copies rest
  | .literal value :: rest => .value value :: Part.sitesOfAll copies rest
  | .argument value :: rest => .part (.argument value) :: Part.sitesOfAll copies rest
  | .dialectName :: rest => .part .dialectName :: Part.sitesOfAll copies rest
  | .unsupported construct :: rest =>
    .part (.unsupported construct) :: Part.sitesOfAll copies rest

end

/-- The query itself and the sites of each of its clauses fulfil the condition. -/
structure Query.SitesFulfil (holds : Site → Prop) (copies : Nat) (query : Query) : Prop where
  own : holds (.query query)
  selection : ∀ site ∈ Expr.sitesOfAll copies .entry query.selection, holds site
  source : ∀ site ∈ Element.sitesOfOption copies query.source, holds site
  joins : ∀ site ∈ Join.sitesOfAll copies query.joins, holds site
  filter : ∀ site ∈ Expr.sitesOfAll copies .inner query.filter, holds site
  grouping : ∀ site ∈ Expr.sitesOfAll copies .inner query.grouping, holds site
  having : ∀ site ∈ Expr.sitesOfAll copies .inner query.having, holds site
  order : ∀ site ∈ Order.sitesOfAll copies copies query.order, holds site
  modifiers : ∀ site ∈ Modifier.sitesOfAll copies query.modifiers, holds site
  unions : ∀ site ∈ Union.sitesOfAll copies query.unions, holds site

theorem Query.sitesFulfil {holds : Site → Prop} {copies : Nat} {query : Query}
    (all : ∀ site ∈ query.sites copies, holds site) : query.SitesFulfil holds copies := by
  cases query
  simp only [Query.sites, List.forall_mem_cons, List.forall_mem_append] at all
  obtain ⟨own, selection, ⟨source, joins⟩, filter, grouping, having, order, modifiers, unions⟩ :=
    all
  exact ⟨own, selection, source, joins, filter, grouping, having, order, modifiers, unions⟩

/-- The sites of the clauses of a query. -/
def Query.clauseSites (copies : Nat) (query : Query) : List Site :=
  ({ query with selection := [] } : Query).sites copies

/-- The sites of a statement. Statements that change rows write the clauses of the query that picks
the rows. -/
def Statement.sites (copies : Nat) : Statement → List Site
  | .query selected => selected.sites copies
  | .insert inserted => inserted.assignments.map fun entry => .value entry.2
  | .insertQuery inserted => inserted.query.sites copies
  | .update change =>
    (change.assignments.flatMap fun entry => entry.2.sites copies .inner) ++
      change.rows.clauseSites copies
  | .delete deletion => deletion.rows.clauseSites copies

end SqlTree
