import SqlTree.Proofs.Writer

/-! # Writers of forms

How an expression or a clause is written from the writers of its parts, step by step: a part is
written where it stands, and a construct without a form is refused when the writer gets to it, with
what comes before it written already. A writer is named like the form that it writes, and beside it
stands what it amounts to. If its parts are spelled renderings, it spells the form of those
renderings, so refusals come in the order in which the forms look at their parts.
-/

namespace SqlTree.Writer

variable (dialect : Dialect)

/-! ## Expressions -/

def nullTest (op : BinaryOp) (operand : Expr) (writer : Writer) : Writer :=
  match op.nullTest? with
  | some test =>
    grouped dialect (operand.needsGrouping op .left) writer >=> dialect.push (.text test)
  | none => dialect.reject (.unsupported (.nullComparison op))

theorem nullTest_spell (op : BinaryOp) (operand : Expr) (rendered : Rendering) :
    nullTest dialect op operand (dialect.spell rendered) =
      dialect.spell (Form.nullTest op operand rendered) := by
  unfold nullTest Form.nullTest
  cases op.nullTest? with
  | none => rfl
  | some test => simp

def binary (op : BinaryOp) (left right : Expr) (before after : Writer) : Writer :=
  grouped dialect (left.needsGrouping op .left) before >=>
    (dialect.unlessRefused (Form.operator dialect.grammar op) fun text =>
      dialect.push (.text (" " ++ text ++ " "))) >=>
    grouped dialect (right.needsGrouping op .right) after

theorem binary_spell (op : BinaryOp) (left right : Expr) (before after : Rendering) :
    binary dialect op left right (dialect.spell before) (dialect.spell after) =
      dialect.spell (Form.binary dialect.grammar op left right before after) := by
  simp [binary, Form.binary]

def operand (expr : Expr) (writer : Writer) : Writer :=
  grouped dialect (!expr.isAtomic) writer

@[simp] theorem operand_spell (expr : Expr) (rendered : Rendering) :
    operand dialect expr (dialect.spell rendered) = dialect.spell (Form.operand expr rendered) := by
  simp [operand, Form.operand]

def values (members : List Value) : Writer :=
  separated dialect ", " (members.map fun value => dialect.push (.value value))

@[simp] theorem values_eq_spell (members : List Value) :
    values dialect members =
      dialect.spell
        (pure (Fragment.separated ", " (members.map fun value => [.value value]))) := by
  simp [values]

def inList (negated : Bool) (expr : Expr) (members : List Value) (writer : Writer) : Writer :=
  if members.isEmpty then dialect.push (.text (if negated then "1 = 1" else "1 = 0"))
  else
    operand dialect expr writer >=> dialect.push (.text (Form.membership negated)) >=>
      values dialect members >=> dialect.push (.text ")")

theorem inList_spell (negated : Bool) (expr : Expr) (members : List Value) (rendered : Rendering) :
    inList dialect negated expr members (dialect.spell rendered) =
      dialect.spell (Form.inList negated expr members rendered) := by
  unfold inList Form.inList
  split
  · exact dialect.push_eq_spell _
  · simp

def inQuery (negated : Bool) (expr : Expr) (writer query : Writer) : Writer :=
  operand dialect expr writer >=> dialect.push (.text (Form.membership negated)) >=> query >=>
    dialect.push (.text ")")

theorem inQuery_spell (negated : Bool) (expr : Expr) (rendered query : Rendering) :
    inQuery dialect negated expr (dialect.spell rendered) (dialect.spell query) =
      dialect.spell (Form.inQuery negated expr rendered query) := by
  simp [inQuery, Form.inQuery]

def count (distinct : Bool) (counted : Writer) : Writer :=
  dialect.push (.text (if distinct then "COUNT(DISTINCT " else "COUNT(")) >=> counted >=>
    dialect.push (.text ")")

theorem count_spell (distinct : Bool) (counted : Rendering) :
    count dialect distinct (dialect.spell counted) =
      dialect.spell (Form.count distinct <$> counted) := by
  simp only [count, Dialect.push_eq_spell, Dialect.spell_comp]
  cases counted <;> rfl

def caseTarget (target : Option Writer) : Writer :=
  match target with
  | some target => dialect.push (.text "CASE (") >=> target >=> dialect.push (.text ")")
  | none => dialect.push (.text "CASE")

theorem caseTarget_spell {α : Type} (render : α → Rendering) (target : Option α) :
    caseTarget dialect (target.map fun target => dialect.spell (render target)) =
      dialect.spell (Form.caseTarget <$> target.mapM render) := by
  cases target <;> simp [caseTarget, Form.caseTarget]

def branch (condition result : Writer) : Writer :=
  dialect.push (.text " WHEN (") >=> condition >=> dialect.push (.text ") THEN ") >=> result

theorem branch_spell (condition result : Rendering) :
    branch dialect (dialect.spell condition) (dialect.spell result) =
      dialect.spell (do return Form.branch (← condition) (← result)) := by
  simp [branch, Form.branch]

def caseEnd (otherwise : Option Writer) : Writer :=
  match otherwise with
  | some otherwise => dialect.push (.text " ELSE ") >=> otherwise >=> dialect.push (.text " END")
  | none => dialect.push (.text " END")

theorem caseEnd_spell {α : Type} (render : α → Rendering) (otherwise : Option α) :
    caseEnd dialect (otherwise.map fun otherwise => dialect.spell (render otherwise)) =
      dialect.spell (Form.caseEnd <$> otherwise.mapM render) := by
  cases otherwise <;> simp [caseEnd, Form.caseEnd]

def allColumns (element : Element) : Writer :=
  match element with
  | .table name | .labelled _ name => dialect.push (.name name) >=> dialect.push (.text ".*")
  | .subquery _ => dialect.reject (.unsupported .unlabelledAllColumns)

theorem allColumns_eq_spell (element : Element) :
    allColumns dialect element = dialect.spell (Form.allColumns element) := by
  cases element <;> simp [allColumns, Form.allColumns] <;> rfl

/-! ## Clauses -/

/-- A form that writes a keyword before what it applies to. -/
theorem keyword_spell {α : Type} {keyword separator : String} {form : List Fragment → Fragment}
    (opens : ∀ fragments, fragments ≠ [] →
      form fragments = .text keyword :: Fragment.separated separator fragments)
    (render : α → Rendering) {members : List α} (some : members ≠ []) :
    (dialect.push (.text keyword) >=>
        separated dialect separator (members.map fun member => dialect.spell (render member))) =
      dialect.spell (form <$> members.mapM render) := by
  rw [separated_spell, Dialect.push_eq_spell, Dialect.spell_comp]
  cases given : members.mapM render with
  | error refusal => rfl
  | ok fragments =>
    have size : fragments.length = members.length := length_of_mapM_eq_ok given
    have filled : fragments ≠ [] := by
      rintro rfl
      exact some (List.eq_nil_of_length_eq_zero size.symm)
    rw [Except.map_ok, Except.map_ok, opens fragments filled]
    rfl

def selection (entries : List Writer) : Writer :=
  dialect.push (.text "SELECT ") >=>
    if entries.isEmpty then dialect.push (.text "*") else separated dialect ", " entries

theorem selection_spell {α : Type} (render : α → Rendering) (members : List α) :
    selection dialect (members.map fun member => dialect.spell (render member)) =
      dialect.spell (Form.selection <$> members.mapM render) := by
  cases members with
  | nil => simp [selection, Form.selection]
  | cons first rest =>
    refine keyword_spell dialect (fun fragments filled => ?_) render (List.cons_ne_nil first rest)
    exact congrArg _ (if_neg (by simpa using filled))

def source (source : Option Writer) (hasJoins : Bool) (joins : Writer) : Writer :=
  match source with
  | some element => dialect.push (.text " FROM ") >=> element >=> joins
  | none => if hasJoins then dialect.reject (.unsupported .joinWithoutSource) else nothing

theorem source_spell {α : Type} (render : α → Rendering) (element : Option α) (hasJoins : Bool)
    (joins : Rendering) :
    source dialect (element.map fun element => dialect.spell (render element)) hasJoins
        (dialect.spell joins) =
      dialect.spell (Form.source (element.mapM render) hasJoins joins) := by
  cases element with
  | none =>
    cases hasJoins with
    | false => exact dialect.nothing_eq_spell
    | true => rfl
  | some element => simp [source, Form.source]

def join (kind : JoinKind) (element condition : Writer) : Writer :=
  dialect.push (.text (" " ++ kind.text ++ " ")) >=> element >=> dialect.push (.text " ON ") >=>
    condition

theorem join_spell (kind : JoinKind) (element condition : Rendering) :
    join dialect kind (dialect.spell element) (dialect.spell condition) =
      dialect.spell (do return Form.join kind (← element) (← condition)) := by
  simp [join, Form.join]

def clause (keyword separator : String) (writers : List Writer) : Writer :=
  if writers.isEmpty then nothing
  else dialect.push (.text keyword) >=> separated dialect separator writers

private theorem clause_spell {α : Type} (keyword separator : String) (render : α → Rendering)
    (members : List α) :
    clause dialect keyword separator (members.map fun member => dialect.spell (render member)) =
      dialect.spell (Form.clause keyword separator <$> members.mapM render) := by
  cases members with
  | nil => exact dialect.nothing_eq_spell
  | cons first rest =>
    exact keyword_spell dialect (fun _ filled => Form.clause_eq_cons filled) render
      (List.cons_ne_nil first rest)

/-- Which predicates of a clause need parentheses. A single one stands bare. -/
def conjunctGroups : List Expr → List Bool
  | first :: second :: rest =>
    first.needsGrouping .and .left ::
      (second :: rest).map fun predicate => predicate.needsGrouping .and .right
  | exprs => exprs.map fun _ => false

private theorem length_conjunctGroups (exprs : List Expr) :
    (conjunctGroups exprs).length = exprs.length := by
  unfold conjunctGroups
  split <;> simp

private theorem conjuncts_eq_zipWith {exprs : List Expr} {rendered : List Fragment}
    (size : rendered.length = exprs.length) :
    Form.conjuncts exprs rendered =
      List.zipWith Fragment.grouped (conjunctGroups exprs) rendered := by
  match exprs, rendered, size with
  | [], [], _ => rfl
  | [_], [_], _ => rfl
  | _ :: _ :: _, _, _ => rfl

def predicates (keyword : String) (exprs : List Expr) (writers : List Writer) : Writer :=
  clause dialect keyword " AND " (List.zipWith (grouped dialect) (conjunctGroups exprs) writers)

/-- Predicates are grouped one by one as they are rendered. -/
private theorem mapM_grouped (render : Expr → Rendering) {groups : List Bool} {exprs : List Expr}
    (size : groups.length = exprs.length) :
    ((groups.zip exprs).mapM fun pair => Fragment.grouped pair.1 <$> render pair.2) =
      List.zipWith Fragment.grouped groups <$> exprs.mapM render := by
  induction groups generalizing exprs with
  | nil =>
    cases List.length_eq_zero_iff.mp size.symm
    rfl
  | cons group others ih =>
    match exprs, size with
    | first :: rest, size =>
      rw [List.zip_cons_cons, List.mapM_cons, List.mapM_cons, ih (Nat.succ.inj size)]
      simp

private theorem predicates_spell (keyword : String) (render : Expr → Rendering) (exprs : List Expr) :
    predicates dialect keyword exprs (exprs.map fun expr => dialect.spell (render expr)) =
      dialect.spell (Form.predicates keyword exprs <$> exprs.mapM render) := by
  have grouping : List.zipWith (grouped dialect) (conjunctGroups exprs)
        (exprs.map fun expr => dialect.spell (render expr)) =
      ((conjunctGroups exprs).zip exprs).map fun pair =>
        dialect.spell (Fragment.grouped pair.1 <$> render pair.2) := by
    rw [List.zipWith_map_right, ← List.map_uncurry_zip_eq_zipWith]
    exact List.map_congr_left fun pair _ => grouped_spell dialect pair.1 (render pair.2)
  rw [predicates, grouping, clause_spell, mapM_grouped render (length_conjunctGroups exprs)]
  cases given : exprs.mapM render with
  | error refusal => rfl
  | ok rendered =>
    rw [Except.map_ok, Except.map_ok, Except.map_ok, Form.predicates,
      conjuncts_eq_zipWith (length_of_mapM_eq_ok given)]

def sortKey (writer : Writer) : SortKey → Writer
  | .nullTest => dialect.push (.text "ISNULL(") >=> writer >=> dialect.push (.text ")")
  | .value descending nullsLast =>
    writer >=> (if descending then dialect.push (.text " DESC") else nothing) >=>
      (if nullsLast then dialect.push (.text " NULLS LAST") else nothing)

private theorem sortKey_spell (rendered : Rendering) (key : SortKey) :
    sortKey dialect (dialect.spell rendered) key =
      dialect.spell ((Form.sortKey · key) <$> rendered) := by
  cases key with
  | nullTest => simp [sortKey, Form.sortKey]
  | value descending nullsLast =>
    cases descending <;> cases nullsLast <;>
      simp [sortKey, Form.sortKey, dialect.nothing_eq_spell]

def order (style : NullOrder) (descending : Bool) (writer : Writer) : Writer :=
  separated dialect ", " ((style.keys descending).map (sortKey dialect writer))

theorem order_spell (style : NullOrder) (descending : Bool) (rendered : Rendering) :
    order dialect style descending (dialect.spell rendered) =
      dialect.spell (Form.order style descending <$> rendered) := by
  have filled : style.keys descending ≠ [] := by cases style <;> exact List.cons_ne_nil _ _
  rw [order, funext (sortKey_spell dialect rendered)]
  exact separated_copies dialect ", " (fun key expr => Form.sortKey expr key) filled rendered

def rowCount (count : UInt64) : Writer :=
  dialect.unlessRefused (Form.rowCount count) fun bound => dialect.push (.value bound)

def limit (count offset : UInt64) : Writer :=
  dialect.push (.text " LIMIT ") >=> rowCount dialect count >=>
    if offset = 0 then nothing else dialect.push (.text " OFFSET ") >=> rowCount dialect offset

theorem limit_eq_spell (count offset : UInt64) :
    limit dialect count offset = dialect.spell (Form.limit count offset) := by
  unfold limit Form.limit rowCount
  split <;> simp [dialect.nothing_eq_spell]

def union (kind : UnionKind) (query : Writer) : Writer :=
  dialect.push (.text (" " ++ Form.unionKeywords dialect.grammar kind ++ " ")) >=> query

theorem union_spell (kind : UnionKind) (query : Rendering) :
    union dialect kind (dialect.spell query) =
      dialect.spell (Form.union dialect.grammar kind <$> query) := by
  rw [union, Dialect.push_eq_spell, Dialect.spell_comp]
  cases query <;> rfl

/-- The clauses after a selection, in their fixed order. How predicates are grouped depends on the
predicates themselves. -/
def clauses (filter having : List Expr) (source : Writer)
    (filters groups havings keys : List Writer) (modifiers unions : Writer) : Writer :=
  source >=> predicates dialect " WHERE " filter filters >=>
    clause dialect " GROUP BY " ", " groups >=> predicates dialect " HAVING " having havings >=>
    clause dialect " ORDER BY " ", " keys >=> modifiers >=> unions

theorem clauses_spell (render : Expr → Rendering) (renderKey : Order → Rendering)
    (filter grouping having : List Expr) (order : List Order)
    (source modifiers unions : Rendering) :
    clauses dialect filter having (dialect.spell source)
        (filter.map fun expr => dialect.spell (render expr))
        (grouping.map fun expr => dialect.spell (render expr))
        (having.map fun expr => dialect.spell (render expr))
        (order.map fun key => dialect.spell (renderKey key))
        (dialect.spell modifiers) (dialect.spell unions) =
      dialect.spell (do
        let source ← source
        let filters ← filter.mapM render
        let groups ← grouping.mapM render
        let havings ← having.mapM render
        let keys ← order.mapM renderKey
        let modifiers ← modifiers
        let unions ← unions
        return source ++ Form.predicates " WHERE " filter filters ++
          Form.list " GROUP BY " groups ++ Form.predicates " HAVING " having havings ++
          Form.list " ORDER BY " keys ++ modifiers ++ unions) := by
  simp [clauses, predicates_spell, clause_spell, Form.list]

/-! ## Nodes with a syntax of their own -/

def interval (unit : TimeUnit) (amount : Writer) : Writer :=
  dialect.unlessRefused (Form.intervalUnit unit) fun word =>
    dialect.push (.text "INTERVAL ") >=> amount >=> dialect.push (.text (" " ++ word))

theorem interval_spell (unit : TimeUnit) (amount : Rendering) :
    interval dialect unit (dialect.spell amount) = dialect.spell (Form.interval unit amount) := by
  simp [interval, Form.interval]

def extracted (word : String) (offset : Int32) (date : Writer) : Writer :=
  dialect.push (.text ("INTERVAL EXTRACT(" ++ word ++ " FROM ")) >=> date >=>
    dialect.push (.text ")") >=>
    (if offset = 0 then nothing
      else dialect.push (.text " + ") >=> dialect.push (.value (.int offset.toInt64))) >=>
    dialect.push (.text (" " ++ word))

private theorem extracted_spell (word : String) (offset : Int32) (date : Rendering) :
    extracted dialect word offset (dialect.spell date) =
      dialect.spell (Form.extracted word offset <$> date) := by
  by_cases none : offset = 0 <;> cases date <;>
    simp [extracted, Form.extracted, none, dialect.nothing_eq_spell, Except.map_ok,
      Except.map_error]

def extractedInterval (unit : TimeUnit) (offset : Int32) (date : Writer) : Writer :=
  dialect.unlessRefused (Form.intervalUnit unit) fun word => extracted dialect word offset date

theorem extractedInterval_spell (unit : TimeUnit) (offset : Int32) (date : Rendering) :
    extractedInterval dialect unit offset (dialect.spell date) =
      dialect.spell (Form.extractedInterval unit offset date) := by
  simp [extractedInterval, extracted_spell, Form.extractedInterval]

def shift (direction : DateShift) (date interval : Writer) : Writer :=
  call dialect (Form.shiftFunction direction) [date, interval]

theorem shift_spell (direction : DateShift) (date interval : Rendering) :
    shift dialect direction (dialect.spell date) (dialect.spell interval) =
      dialect.spell (Form.shift direction date interval) := by
  have pair := call_spell dialect (Form.shiftFunction direction) id [date, interval]
  rw [shift]
  refine pair.trans (congrArg dialect.spell ?_)
  simp [Form.shift]

/-- What is added up to a day with its clock set, all of it made of the date. -/
def clockParts (words : List String) (last : String) (offset : Int32) :
    List (Fragment → Fragment) :=
  (fun date => Fragment.call "DATE" [date]) :: words.map (fun word => Form.extracted word 0) ++
    [Form.extracted last offset]

/-- The day that a date lies in, with the clock set to what `words` extract from the date; the
offset is added to the last of them. The date is written once for each. -/
def clockTruncation (words : List String) (last : String) (offset : Int32) (date : Writer) :
    Writer :=
  parenthesised dialect (separated dialect " + "
    (call dialect "DATE" [date] :: words.map (fun word => extracted dialect word 0 date) ++
      [extracted dialect last offset date]))

private theorem clockTruncation_spell (words : List String) (last : String) (offset : Int32)
    (date : Rendering) :
    clockTruncation dialect words last offset (dialect.spell date) =
      dialect.spell (Form.clockTruncation words last offset <$> date) := by
  have parts : call dialect "DATE" [dialect.spell date] ::
        words.map (fun word => extracted dialect word 0 (dialect.spell date)) ++
          [extracted dialect last offset (dialect.spell date)] =
      (clockParts words last offset).map fun part => dialect.spell (id part <$> date) := by
    simp [clockParts, extracted_spell, call_single]
  have filled : clockParts words last offset ≠ [] := List.cons_ne_nil _ _
  rw [clockTruncation, parts, separated_copies dialect " + " id filled, parenthesised_spell]
  cases date with
  | error refusal => rfl
  | ok fragment => simp [clockParts, Form.clockTruncation, Except.map_ok, Function.comp_def]

def dayTruncation (function : String) (date : Writer) : Writer :=
  shift dialect .earlier (call dialect "DATE" [date])
    (interval dialect .days
      (call dialect function [date] >=>
        (dialect.unlessRefused (Form.operator dialect.grammar .sub) fun minus =>
          dialect.push (.text (" " ++ minus ++ " "))) >=>
        dialect.push (.value (.int 1))))

private theorem dayTruncation_spell (function : String) (date : Rendering) :
    dayTruncation dialect function (dialect.spell date) =
      dialect.spell (date >>= Form.dayTruncation dialect.grammar function) := by
  simp only [dayTruncation, call_single, interval_spell, shift_spell, Dialect.push_eq_spell,
    Dialect.unlessRefused_spell, Dialect.spell_comp]
  cases date with
  | error refusal => rfl
  | ok fragment =>
    change _ = dialect.spell (Form.dayTruncation dialect.grammar function fragment)
    unfold Form.dayTruncation
    cases Form.operator dialect.grammar .sub <;> rfl

def truncation (unit : TimeUnit) (offset : Int32) (date : Writer) : Writer :=
  match unit with
  | .seconds => clockTruncation dialect ["HOUR", "MINUTE"] "SECOND" offset date
  | .minutes => clockTruncation dialect ["HOUR"] "MINUTE" offset date
  | .hours => clockTruncation dialect [] "HOUR" offset date
  | .days => call dialect "DATE" [date]
  | .weeks => dayTruncation dialect "DAYOFWEEK" date
  | .months => dayTruncation dialect "DAYOFMONTH" date
  | .years => dayTruncation dialect "DAYOFYEAR" date
  | unit => dialect.reject (.timeUnit unit .truncation)

theorem truncation_spell (unit : TimeUnit) (offset : Int32) (date : Rendering) :
    truncation dialect unit offset (dialect.spell date) =
      dialect.spell (Form.truncation dialect.grammar unit offset date) := by
  cases unit with
  | seconds | minutes | hours =>
    exact (clockTruncation_spell dialect _ _ offset date).trans (by cases date <;> rfl)
  | days => exact (call_single dialect "DATE" date).trans (by cases date <;> rfl)
  | weeks | months | years => exact dayTruncation_spell dialect _ date
  | _ => rfl

def groupConcat (distinct : Bool) (columns order : List Writer) (separator : String) : Writer :=
  dialect.push (.text "GROUP_CONCAT(") >=>
    (if distinct then dialect.push (.text "DISTINCT ") else nothing) >=>
    separated dialect ", " columns >=> clause dialect " ORDER BY " ", " order >=>
    (if separator = "," then nothing
      else dialect.push (.text " SEPARATOR ") >=> dialect.push (.value (.text separator))) >=>
    dialect.push (.text ")")

theorem groupConcat_spell {α β : Type} (distinct : Bool) (renderColumn : α → Rendering)
    (columns : List α) (renderKey : β → Rendering) (keys : List β) (separator : String) :
    groupConcat dialect distinct (columns.map fun column => dialect.spell (renderColumn column))
        (keys.map fun key => dialect.spell (renderKey key)) separator =
      dialect.spell (do
        let columns ← columns.mapM renderColumn
        let keys ← keys.mapM renderKey
        return Form.groupConcat distinct columns keys separator) := by
  by_cases comma : separator = "," <;> cases distinct <;>
    simp [groupConcat, Form.groupConcat, Form.list, clause_spell, comma, dialect.nothing_eq_spell]

end SqlTree.Writer
