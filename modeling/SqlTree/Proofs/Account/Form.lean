import SqlTree.Proofs.Account

/-! # The sites of forms

Each form accounts for the sites of its parts, in the order in which it looks at them and in which
it writes them. The only refusals are those of the forms here: comparisons with NULL, columns of
elements without names, joins without a source, row counts, and units that a node has no word for.
-/

namespace SqlTree

/-- Every operator has a spelling, and a sort key is written `copies` times. -/
structure Grammar.Complete (grammar : Grammar) (copies : Nat) : Prop where
  operator (op : BinaryOp) : ∃ text, grammar.operator? op = some text
  keys (descending : Bool) : (grammar.nullOrder.keys descending).length = copies
  positive : 0 < copies

def Dialect.argumentsOfOption (dialect : Dialect) : Option Fragment → List Value
  | none => []
  | some fragment => dialect.argumentsOf fragment

namespace Form

variable {dialect : Dialect} {grammar : Grammar} {copies : Nat} {sites more : List Site}
  {rendered other : Rendering}

private theorem operator_eq_ok (complete : grammar.Complete copies) (op : BinaryOp) :
    ∃ text, operator grammar op = .ok text := by
  obtain ⟨text, spelled⟩ := complete.operator op
  exact ⟨text, by rw [operator, spelled]⟩

theorem operand_accounts (expr : Expr) (inner : Accounts dialect.argumentsOf [] sites rendered) :
    Accounts dialect.argumentsOf [] sites (operand expr rendered) :=
  inner.map fun fragment => by simp

/-- A comparison with NULL is refused unless it stands for a NULL test. -/
theorem nullTest_accounts {op : BinaryOp} {position : Position} {left right operand : Expr}
    (null : left.isNullLiteral = true ∨ right.isNullLiteral = true)
    (inner : Accounts dialect.argumentsOf [] sites rendered) :
    Accounts dialect.argumentsOf [] (.expr position (.binary op left right) :: sites)
      (nullTest op operand rendered) := by
  by_cases test : op = .eq ∨ op = .notEq
  · have supported : ¬ (Site.expr position (.binary op left right)).Unsupported := by
      rintro ⟨-, notEq, notNotEq⟩
      exact test.elim notEq notNotEq
    refine .node supported rfl ?_
    rcases test with rfl | rfl
    · exact inner.map fun fragment => by simp
    · exact inner.map fun fragment => by simp
  · obtain ⟨notEq, notNotEq⟩ := not_or.mp test
    have refused : nullTest op operand rendered = Refusal.of (.nullComparison op) := by
      cases op with
      | eq => exact absurd rfl notEq
      | notEq => exact absurd rfl notNotEq
      | _ => rfl
    rw [refused]
    exact .refused List.mem_cons_self ⟨null, notEq, notNotEq⟩

theorem binary_accounts (complete : grammar.Complete copies) {op : BinaryOp} {left right : Expr}
    (before : Accounts dialect.argumentsOf [] sites rendered)
    (after : Accounts dialect.argumentsOf [] more other) :
    Accounts dialect.argumentsOf [] (sites ++ more)
      (binary grammar op left right rendered other) := by
  obtain ⟨text, spelled⟩ := operator_eq_ok complete op
  refine before.bind fun first _ => ?_
  rw [spelled]
  exact after.map fun second => by simp

theorem argumentsOf_values (conventional : dialect.Conventional) (values : List Value) :
    dialect.argumentsOf (Fragment.separated ", " (values.map fun value => [.value value])) =
      (values.map Site.value).flatMap Site.arguments := by
  simp [conventional.argumentsOf_value_cons, List.flatMap_map]

theorem inList_accounts (conventional : dialect.Conventional) (negated : Bool) (expr : Expr)
    (values : List Value) (inner : Accounts dialect.argumentsOf [] sites rendered) :
    Accounts dialect.argumentsOf []
      (if values.isEmpty then [] else sites ++ values.map .value)
      (inList negated expr values rendered) := by
  unfold inList
  split
  · exact .pure rfl
  · refine (operand_accounts expr inner).append ?_ fun fragment => ?_
    · intro site member
      obtain ⟨value, -, rfl⟩ := List.mem_map.mp member
      exact id
    · simp only [Dialect.argumentsOf_append, Dialect.argumentsOf_text, Dialect.argumentsOf_nil,
        argumentsOf_values conventional, List.append_nil, List.nil_append]

theorem inQuery_accounts (negated : Bool) (expr : Expr)
    (inner : Accounts dialect.argumentsOf [] sites rendered)
    (rows : Accounts dialect.argumentsOf [] more other) :
    Accounts dialect.argumentsOf [] (sites ++ more) (inQuery negated expr rendered other) :=
  (operand_accounts expr inner).bind fun first _ => rows.map fun second => by simp

theorem argumentsOf_caseTarget (target : Option Fragment) :
    dialect.argumentsOf (caseTarget target) = dialect.argumentsOfOption target := by
  cases target <;> simp [caseTarget, Dialect.argumentsOfOption]

theorem argumentsOf_caseEnd (otherwise : Option Fragment) :
    dialect.argumentsOf (caseEnd otherwise) = dialect.argumentsOfOption otherwise := by
  cases otherwise <;> simp [caseEnd, Dialect.argumentsOfOption]

/-- All columns of an element are refused if the element has no name. -/
theorem allColumns_accounts (element : Element) :
    Accounts dialect.argumentsOf [] [.expr .entry (.allColumns element)] (allColumns element) := by
  cases element with
  | table name => exact .node id rfl (.pure rfl)
  | labelled inner name => exact .node id rfl (.pure rfl)
  | subquery query => exact .refused List.mem_cons_self trivial

/-! ### Clauses -/

theorem argumentsOf_selection (entries : List Fragment) :
    dialect.argumentsOf (selection entries) = entries.flatMap dialect.argumentsOf := by
  cases entries <;> simp [selection]

theorem argumentsOf_clause (keyword separator : String) (fragments : List Fragment) :
    dialect.argumentsOf (clause keyword separator fragments) =
      fragments.flatMap dialect.argumentsOf := by
  cases fragments <;> simp [clause]

private theorem flatMap_zipWith_grouped (groups : List Bool) (fragments : List Fragment)
    (size : groups.length = fragments.length) :
    (List.zipWith Fragment.grouped groups fragments).flatMap dialect.argumentsOf =
      fragments.flatMap dialect.argumentsOf := by
  induction groups generalizing fragments with
  | nil =>
    rw [List.length_eq_zero_iff.mp size.symm]
    rfl
  | cons group groups ih =>
    cases fragments with
    | nil => cases size
    | cons fragment fragments => simp [ih fragments (Nat.succ.inj size)]

theorem argumentsOf_predicates (keyword : String) {exprs : List Expr} {fragments : List Fragment}
    (size : fragments.length = exprs.length) :
    dialect.argumentsOf (predicates keyword exprs fragments) =
      fragments.flatMap dialect.argumentsOf := by
  rw [predicates, argumentsOf_clause]
  match exprs with
  | [] | [_] => rfl
  | first :: second :: rest =>
    exact flatMap_zipWith_grouped _ fragments (by simpa using size.symm)

/-- A source with joins; joins without a source are refused. -/
theorem source_accounts {source : Option Element} {joins : List Join}
    (supported : ¬ (joins ≠ [] ∧ source.isNone = true))
    (first : Accounts dialect.argumentsOfOption [] sites (Element.renderOption grammar source))
    (second : Accounts dialect.argumentsOf [] more (Join.renderAll grammar joins)) :
    Accounts dialect.argumentsOf [] (sites ++ more)
      (Form.source (Element.renderOption grammar source) (!joins.isEmpty)
        (Join.renderAll grammar joins)) := by
  refine first.bind fun element given => ?_
  cases element with
  | some fragment => exact second.map fun joined => by simp [Dialect.argumentsOfOption]
  | none =>
    have missing : source = none := by
      cases source with
      | none => rfl
      | some element =>
        rw [Element.renderOption] at given
        cases rendered : element.render grammar with
        | error refusal =>
          rw [rendered] at given
          cases given
        | ok fragment =>
          rw [rendered] at given
          cases given
    subst missing
    have none : joins = [] := by
      by_contra some
      exact supported ⟨some, rfl⟩
    subst none
    exact second

theorem argumentsOf_sortKey (fragment : Fragment) (key : SortKey) :
    dialect.argumentsOf (sortKey fragment key) = dialect.argumentsOf fragment := by
  cases key with
  | nullTest => simp [sortKey]
  | value descending nullsLast => cases descending <;> cases nullsLast <;> simp [sortKey]

theorem argumentsOf_order (style : NullOrder) (descending : Bool) (fragment : Fragment) :
    dialect.argumentsOf (order style descending fragment) =
      (List.replicate (style.keys descending).length (dialect.argumentsOf fragment)).flatten := by
  rw [order, Dialect.argumentsOf_separated, List.flatMap_map, List.flatMap_def,
    List.map_eq_replicate_iff.mpr fun key _ => argumentsOf_sortKey fragment key]

theorem not_maxRowCount_lt {count : UInt64} :
    ¬ Site.maxRowCount < count.toNat ↔ count.toNat < Nat.pow 2 63 := by
  rw [Nat.not_lt, Site.maxRowCount]
  exact Nat.le_sub_one_iff_lt (by decide)

private theorem rowCount_eq_ok {count : UInt64} (fits : ¬ Site.maxRowCount < count.toNat) :
    rowCount count = .ok (Site.rowCount count) := by
  rw [rowCount, if_pos (not_maxRowCount_lt.mp fits)]
  rfl

private theorem rowCount_eq_error {count : UInt64} (large : Site.maxRowCount < count.toNat) :
    rowCount count = Refusal.of (.rowCount count) := by
  rw [rowCount, if_neg fun small => not_maxRowCount_lt.mpr small large]

/-- A limit is refused if a count of it is no integer of the database. -/
theorem limit_accounts (conventional : dialect.Conventional) (count offset : UInt64) :
    Accounts dialect.argumentsOf [] [.limit count offset] (limit count offset) := by
  have present (count : UInt64) : (Site.rowCount count).isNull = false := rfl
  unfold limit
  by_cases large : Site.maxRowCount < count.toNat
  · rw [rowCount_eq_error large]
    exact .refused List.mem_cons_self (.inl large)
  · rw [rowCount_eq_ok large]
    change Accounts _ _ _ (if offset = 0 then _ else _)
    by_cases none : offset = 0
    · have supported : ¬ (Site.limit count offset).Unsupported := by
        rintro (beyond | ⟨some, -⟩)
        · exact large beyond
        · exact some none
      rw [if_pos none]
      refine ⟨by simpa using supported, ?_⟩
      simp [conventional.argumentsOf_value_cons, Site.arguments, present, none]
    · rw [if_neg none]
      by_cases largeOffset : Site.maxRowCount < offset.toNat
      · rw [rowCount_eq_error largeOffset]
        exact .refused List.mem_cons_self (.inr ⟨none, largeOffset⟩)
      · have supported : ¬ (Site.limit count offset).Unsupported := by
          rintro (beyond | ⟨-, beyond⟩)
          · exact large beyond
          · exact largeOffset beyond
        rw [rowCount_eq_ok largeOffset]
        refine ⟨by simpa using supported, ?_⟩
        simp [conventional.argumentsOf_value_cons, Site.arguments, present, none]

/-! ### Nodes with a syntax of their own -/

/-- The units that intervals have no word for. -/
theorem intervalUnit_eq_error {unit : TimeUnit} (missing : unit ∈ [.nanos, .millis, .decades]) :
    intervalUnit unit = .error (.timeUnit unit .interval) := by
  simp only [List.mem_cons, List.not_mem_nil, or_false] at missing
  rcases missing with rfl | rfl | rfl <;> rfl

private theorem intervalUnit_eq_ok {unit : TimeUnit} (present : unit ∉ [.nanos, .millis, .decades]) :
    ∃ word, intervalUnit unit = .ok word := by
  cases unit with
  | nanos | millis | decades => exact absurd (by decide) present
  | _ => exact ⟨_, rfl⟩

theorem interval_eq_error {unit : TimeUnit} (missing : unit ∈ [.nanos, .millis, .decades])
    (amount : Rendering) : interval unit amount = .error (.timeUnit unit .interval) := by
  rw [interval, intervalUnit_eq_error missing]
  rfl

theorem interval_accounts {unit : TimeUnit} (present : unit ∉ [.nanos, .millis, .decades])
    (inner : Accounts dialect.argumentsOf [] sites rendered) :
    Accounts dialect.argumentsOf [] sites (interval unit rendered) := by
  obtain ⟨word, known⟩ := intervalUnit_eq_ok present
  rw [interval, known]
  exact inner.map fun fragment => by simp

theorem setting_supported (omitted : Prop) [Decidable omitted] (value : Value) :
    ∀ site ∈ (if omitted then [] else [Site.setting value]), ¬ site.Unsupported := by
  intro site member
  obtain ⟨constant, rfl⟩ := Site.exists_setting_of_mem_ite value site member
  exact id

/-- A constant that is added to a number of units, unless it is 0. -/
private theorem argumentsOf_offset (conventional : dialect.Conventional) (offset : Int32) :
    dialect.argumentsOf (if offset = 0 then [] else [.text " + ", .value (.int offset.toInt64)]) =
      (if offset = 0 then [] else [Site.setting (.int offset.toInt64)]).flatMap Site.arguments := by
  split
  · rfl
  · simp [conventional.argumentsOf_value_cons, Site.arguments, Value.isNull]

theorem argumentsOf_extracted (conventional : dialect.Conventional) (word : String)
    (offset : Int32) (date : Fragment) :
    dialect.argumentsOf (extracted word offset date) = dialect.argumentsOf date ++
      (if offset = 0 then [] else [Site.setting (.int offset.toInt64)]).flatMap Site.arguments := by
  rw [← argumentsOf_offset conventional]
  simp [extracted]

theorem extractedInterval_accounts (conventional : dialect.Conventional) {unit : TimeUnit}
    (present : unit ∉ [.nanos, .millis, .decades]) (offset : Int32)
    (inner : Accounts dialect.argumentsOf [] sites rendered) :
    Accounts dialect.argumentsOf []
      (sites ++ if offset = 0 then [] else [.setting (.int offset.toInt64)])
      (extractedInterval unit offset rendered) := by
  obtain ⟨word, known⟩ := intervalUnit_eq_ok present
  rw [extractedInterval, known]
  exact inner.append (setting_supported (offset = 0) _) fun fragment =>
    argumentsOf_extracted conventional word offset fragment

theorem shift_accounts (direction : DateShift)
    (date : Accounts dialect.argumentsOf [] sites rendered)
    (moved : Accounts dialect.argumentsOf [] more other) :
    Accounts dialect.argumentsOf [] (sites ++ more) (shift direction rendered other) :=
  date.bind fun first _ => moved.map fun second => by simp

/-- A date is not moved by an interval that is refused. -/
theorem shift_eq_error (direction : DateShift) (date : Rendering) (refusal : Refusal) :
    ∃ first, shift direction date (.error refusal) = .error first := by
  cases date with
  | error first => exact ⟨first, rfl⟩
  | ok fragment => exact ⟨refusal, rfl⟩

private theorem argumentsOf_clockTruncation (conventional : dialect.Conventional) (words : List String)
    (last : String) (offset : Int32) (date : Fragment) :
    dialect.argumentsOf (clockTruncation words last offset date) =
      (List.replicate (words.length + 2) (dialect.argumentsOf date)).flatten ++
        (if offset = 0 then [] else [Site.setting (.int offset.toInt64)]).flatMap Site.arguments := by
  have clock (word : String) :
      dialect.argumentsOf (extracted word 0 date) = dialect.argumentsOf date := by
    simp [argumentsOf_extracted conventional]
  have all : (words.map fun word => extracted word 0 date).flatMap dialect.argumentsOf =
      (List.replicate words.length (dialect.argumentsOf date)).flatten := by
    rw [List.flatMap_map, List.flatMap_def, List.map_eq_replicate_iff.mpr fun word _ => clock word]
  rw [clockTruncation, Dialect.argumentsOf_parenthesised, Dialect.argumentsOf_separated,
    List.cons_append, List.flatMap_cons, List.flatMap_append, all, List.replicate_succ,
    List.replicate_succ', List.flatten_cons, List.flatten_append]
  simp [argumentsOf_extracted conventional]

/-- The start of a unit of days has two copies of the date and a constant. -/
private theorem dayTruncation_eq_ok (conventional : dialect.Conventional)
    (complete : grammar.Complete copies) (function : String) (date : Fragment) :
    ∃ fragment, dayTruncation grammar function date = .ok fragment ∧
      dialect.argumentsOf fragment =
        (List.replicate 2 (dialect.argumentsOf date)).flatten ++
          [Site.setting (.int 1)].flatMap Site.arguments := by
  obtain ⟨text, spelled⟩ := operator_eq_ok complete .sub
  rw [dayTruncation, spelled]
  refine ⟨_, rfl, ?_⟩
  simp [conventional.argumentsOf_value_cons, List.replicate_succ, Site.arguments, Value.isNull]

/-- The start of a unit mentions the date as often as the unit says; units without one are refused
whatever the date. -/
theorem truncation_accounts (conventional : dialect.Conventional)
    (complete : grammar.Complete copies) (date : Expr) (unit : TimeUnit) (offset : Int32)
    (inner : Accounts dialect.argumentsOf [] sites rendered) :
    Accounts dialect.argumentsOf []
      (.extension (.truncate date unit offset) ::
        (Site.repeated (Site.truncationDates unit) sites ++ Site.truncationConstant offset unit))
      (truncation grammar unit offset rendered) := by
  have start {unit : TimeUnit} (present : unit ∉ [TimeUnit.nanos, .micros, .millis, .decades])
      {others : List Site} {result : Rendering}
      (rest : Accounts dialect.argumentsOf [] others result) :
      Accounts dialect.argumentsOf [] (.extension (.truncate date unit offset) :: others) result :=
    .node present rfl rest
  have clock (words : List String) (last : String) :
      Accounts dialect.argumentsOf []
        (Site.repeated (words.length + 2) sites ++
          if offset = 0 then [] else [.setting (.int offset.toInt64)])
        (rendered >>= fun date => .ok (clockTruncation words last offset date)) := by
    refine (inner.repeated (Nat.succ_pos _)).append (setting_supported (offset = 0) _) fun date => ?_
    rw [argumentsOf_clockTruncation conventional, List.nil_append]
  have day (function : String) :
      Accounts dialect.argumentsOf [] (Site.repeated 2 sites ++ [.setting (.int 1)])
        (rendered >>= fun date => dayTruncation grammar function date) := by
    refine (inner.repeated Nat.two_pos).bind fun date _ => ?_
    obtain ⟨fragment, isOk, arguments⟩ := dayTruncation_eq_ok conventional complete function date
    rw [isOk]
    refine ⟨fun site member => ?_, arguments⟩
    rw [List.mem_singleton.mp member]
    exact id
  cases unit with
  | seconds => exact start (by decide) (clock ["HOUR", "MINUTE"] "SECOND")
  | minutes => exact start (by decide) (clock ["HOUR"] "MINUTE")
  | hours => exact start (by decide) (clock [] "HOUR")
  | days =>
    have once := (inner.repeated Nat.one_pos).map
      (fun date => by simp : ∀ date, dialect.argumentsOf (Fragment.call "DATE" [date]) =
        [] ++ (List.replicate 1 (dialect.argumentsOf date)).flatten)
    exact start (by decide) (once.append_silent fun site member => nomatch member)
  | weeks | months | years => exact start (by decide) (day _)
  | nanos | micros | millis | decades =>
    exact .refused List.mem_cons_self (by decide : _ ∈ [TimeUnit.nanos, .micros, .millis, .decades])

theorem argumentsOf_groupConcat (conventional : dialect.Conventional) (distinct : Bool)
    (columns order : List Fragment) (separator : String) :
    dialect.argumentsOf (groupConcat distinct columns order separator) =
      columns.flatMap dialect.argumentsOf ++ order.flatMap dialect.argumentsOf ++
        (if separator = "," then [] else [Site.setting (.text separator)]).flatMap
          Site.arguments := by
  have keyword : dialect.argumentsOf (if distinct then [.text "DISTINCT "] else []) = [] := by
    cases distinct <;> rfl
  by_cases comma : separator = ","
  · simp [groupConcat, Form.list, argumentsOf_clause, keyword, comma]
  · simp [groupConcat, Form.list, argumentsOf_clause, keyword, comma,
      conventional.argumentsOf_value_cons, Site.arguments, Value.isNull]

end Form

end SqlTree
