import SqlTree.Proofs.Alike.Tree

/-! # Forms of parts that differ in values only

Every form puts fragments that are alike together to fragments that are alike. The forms that look
at their parts themselves are stated for two runs of them: the runs are refused alike or give
fragments that are alike if those of the parts do.
-/

namespace SqlTree.Form

open Fragment Fragment.Alike

variable {function : String → Prop} {same : Value → Value → Prop} {grammar : Grammar}

/-! ## Expressions -/

theorem nullTest_alike (op : BinaryOp) {expr other : Expr} {rendered renderedOther : Rendering}
    (exprs : Expr.Alike function same expr other)
    (inner : Rendering.Alike function same rendered renderedOther) :
    Rendering.Alike function same (nullTest op expr rendered) (nullTest op other renderedOther) := by
  cases isTest : op.nullTest? with
  | none =>
    simp only [nullTest, isTest]
    exact Agree.error _
  | some test =>
    have plain : structuralMarks test = [] := by
      cases op <;> simp only [BinaryOp.nullTest?, reduceCtorEq, Option.some.injEq] at isTest <;>
        subst isTest <;> decide
    simp only [nullTest, isTest, exprs.needsGrouping op .left]
    exact inner.bind fun _ _ operand => .ok ((operand.grouped _).append (words plain))

/-- An operator has one spelling, which is plain, or is refused. -/
theorem operator_alike (plain : grammar.Plain) (op : BinaryOp) :
    Agree (fun text other => text = other ∧ structuralMarks text = [])
      (operator grammar op) (operator grammar op) := by
  refine Agree.refl _ fun text spelled => ⟨rfl, ?_⟩
  unfold operator at spelled
  split at spelled
  · rename_i found
    cases spelled
    exact plain.operator found
  · cases spelled

theorem binary_alike (plain : grammar.Plain) (op : BinaryOp) {left right otherLeft otherRight : Expr}
    {renderedLeft renderedRight renderedOtherLeft renderedOtherRight : Rendering}
    (lefts : Expr.Alike function same left otherLeft)
    (rights : Expr.Alike function same right otherRight)
    (before : Rendering.Alike function same renderedLeft renderedOtherLeft)
    (after : Rendering.Alike function same renderedRight renderedOtherRight) :
    Rendering.Alike function same (binary grammar op left right renderedLeft renderedRight)
      (binary grammar op otherLeft otherRight renderedOtherLeft renderedOtherRight) := by
  refine before.bind fun _ _ first => ?_
  refine (operator_alike plain op).bind ?_
  rintro text _ ⟨rfl, isPlain⟩
  refine after.bind fun _ _ second => ?_
  have spaced : structuralMarks (" " ++ text ++ " ") = [] := structuralMarks_spaced isPlain
  rw [lefts.needsGrouping op .left, rights.needsGrouping op .right]
  exact .ok (((first.grouped _).append (words spaced)).append (second.grouped _))

theorem operand_alike {expr other : Expr} {rendered renderedOther : Rendering}
    (exprs : Expr.Alike function same expr other)
    (inner : Rendering.Alike function same rendered renderedOther) :
    Rendering.Alike function same (operand expr rendered) (operand other renderedOther) := by
  refine inner.bind fun _ _ alike => ?_
  rw [exprs.isAtomic]
  exact .ok (alike.grouped _)

private theorem membership_opens (negated : Bool) : structuralMarks (membership negated) = ['('] := by
  cases negated <;> decide

private theorem values_alike {values others : List Value} (listed : List.Forall₂ same values others) :
    Alike function same (separated ", " (values.map fun value => [.value value]))
      (separated ", " (others.map fun value => [.value value])) := by
  refine .separated (by decide) ?_
  rw [List.forall₂_map_left_iff, List.forall₂_map_right_iff]
  exact listed.imp fun _ _ related => .value related

theorem inList_alike (negated : Bool) {expr other : Expr} {values others : List Value}
    {rendered renderedOther : Rendering} (exprs : Expr.Alike function same expr other)
    (listed : List.Forall₂ same values others)
    (inner : Rendering.Alike function same rendered renderedOther) :
    Rendering.Alike function same (inList negated expr values rendered)
      (inList negated other others renderedOther) := by
  cases listed with
  | nil => exact .ok (words (by cases negated <;> decide))
  | cons first rest =>
    refine (operand_alike exprs inner).bind fun _ _ operand => .ok ?_
    rw [List.append_assoc, List.append_assoc]
    exact operand.append (enclosed (membership_opens negated) (by decide)
      (values_alike (.cons first rest)))

theorem inQuery_alike (negated : Bool) {expr other : Expr}
    {rendered renderedOther query otherQuery : Rendering}
    (exprs : Expr.Alike function same expr other)
    (inner : Rendering.Alike function same rendered renderedOther)
    (rows : Rendering.Alike function same query otherQuery) :
    Rendering.Alike function same (inQuery negated expr rendered query)
      (inQuery negated other renderedOther otherQuery) := by
  refine (operand_alike exprs inner).bind fun _ _ operand => ?_
  refine rows.bind fun _ _ inside => .ok ?_
  rw [List.append_assoc, List.append_assoc]
  exact operand.append (enclosed (membership_opens negated) (by decide) inside)

theorem count_alike (distinct : Bool) {counted other : Fragment}
    (alike : Alike function same counted other) :
    Alike function same (count distinct counted) (count distinct other) :=
  enclosed (by cases distinct <;> decide) (by decide) alike

theorem caseTarget_alike {target other : Option Fragment}
    (alike : Option.Rel (Alike function same) target other) :
    Alike function same (caseTarget target) (caseTarget other) := by
  cases alike with
  | none => exact words (by decide)
  | some inner => exact enclosed (by decide) (by decide) inner

theorem branch_alike {condition result other otherResult : Fragment}
    (conditions : Alike function same condition other)
    (results : Alike function same result otherResult) :
    Alike function same (branch condition result) (branch other otherResult) := by
  have whens : Alike function same (.text " WHEN (" :: condition ++ [.text ") THEN "])
      (.text " WHEN (" :: other ++ [.text ") THEN "]) :=
    enclosed (by decide) (by decide) conditions
  simpa [branch] using whens.append results

theorem caseEnd_alike {otherwise other : Option Fragment}
    (alike : Option.Rel (Alike function same) otherwise other) :
    Alike function same (caseEnd otherwise) (caseEnd other) := by
  cases alike with
  | none => exact words (by decide)
  | some inner => exact (cons_words (by decide) inner).append (words (by decide))

theorem allColumns_alike {element other : Element}
    (alike : Element.Alike function same element other) :
    Rendering.Alike function same (allColumns element) (allColumns other) := by
  cases alike with
  | table name => exact .ok (cons_name (words (by decide)))
  | labelled label inner => exact .ok (cons_name (words (by decide)))
  | subquery rows => exact Agree.error _

/-! ## Clauses -/

theorem selection_alike {entries others : List Fragment}
    (all : List.Forall₂ (Alike function same) entries others) :
    Alike function same (selection entries) (selection others) := by
  cases all with
  | nil => exact cons_words (by decide) (words (by decide))
  | cons first rest => exact cons_words (by decide) (separated (by decide) (.cons first rest))

theorem source_alike {element other : Except Refusal (Option Fragment)} {hasJoins : Bool}
    {joins otherJoins : Rendering}
    (elements : Agree (Option.Rel (Alike function same)) element other)
    (joined : Rendering.Alike function same joins otherJoins) :
    Rendering.Alike function same (source element hasJoins joins)
      (source other hasJoins otherJoins) := by
  refine elements.bind fun _ _ alike => ?_
  cases alike with
  | some inner =>
    exact joined.bind fun _ _ rest => .ok (cons_words (by decide) (inner.append rest))
  | none =>
    cases hasJoins with
    | false => exact .ok nil
    | true => exact Agree.error _

theorem join_alike (kind : JoinKind) {element condition otherElement other : Fragment}
    (elements : Alike function same element otherElement)
    (conditions : Alike function same condition other) :
    Alike function same (join kind element condition) (join kind otherElement other) :=
  (cons_words (by cases kind <;> decide) elements).append (cons_words (by decide) conditions)

private theorem conjuncts_alike {exprs otherExprs : List Expr} {rendered others : List Fragment}
    (sameExprs : Expr.AlikeAll function same exprs otherExprs)
    (all : List.Forall₂ (Alike function same) rendered others) :
    List.Forall₂ (Alike function same) (conjuncts exprs rendered) (conjuncts otherExprs others) := by
  have zip (groups : List Bool) : List.Forall₂ (Alike function same)
      (List.zipWith grouped groups rendered) (List.zipWith grouped groups others) := by
    induction all generalizing groups with
    | nil => simp
    | cons head _ ih =>
      cases groups with
      | nil => simp
      | cons group groups => exact .cons (head.grouped group) (ih groups)
  have groups (op : BinaryOp) (side : Side) :
      exprs.map (·.needsGrouping op side) = otherExprs.map (·.needsGrouping op side) :=
    sameExprs.map_needsGrouping op side
  cases sameExprs with
  | nil => exact all
  | cons first tail =>
    cases tail with
    | nil => exact all
    | cons second rest =>
      have rights := groups .and .right
      simp only [List.map_cons, List.cons.injEq] at rights
      simp only [conjuncts, List.map_cons, first.needsGrouping, rights]
      exact zip _

private theorem clause_alike {keyword separator : String} (plain : structuralMarks keyword = [])
    (apart : structuralMarks separator = []) {fragments others : List Fragment}
    (all : List.Forall₂ (Alike function same) fragments others) :
    Alike function same (clause keyword separator fragments) (clause keyword separator others) := by
  cases all with
  | nil => exact nil
  | cons first rest => exact cons_words plain (separated apart (.cons first rest))

theorem predicates_alike {keyword : String} (plain : structuralMarks keyword = [])
    {exprs otherExprs : List Expr} {rendered others : List Fragment}
    (sameExprs : Expr.AlikeAll function same exprs otherExprs)
    (all : List.Forall₂ (Alike function same) rendered others) :
    Alike function same (predicates keyword exprs rendered)
      (predicates keyword otherExprs others) :=
  clause_alike plain (by decide) (conjuncts_alike sameExprs all)

theorem list_alike {keyword : String} (plain : structuralMarks keyword = [])
    {rendered others : List Fragment} (all : List.Forall₂ (Alike function same) rendered others) :
    Alike function same (list keyword rendered) (list keyword others) :=
  clause_alike plain (by decide) all

private theorem sortKey_alike {expr other : Fragment} (alike : Alike function same expr other)
    (key : SortKey) : Alike function same (sortKey expr key) (sortKey other key) := by
  cases key with
  | nullTest => exact enclosed (by decide) (by decide) alike
  | value descending nullsLast =>
    refine (alike.append ?_).append ?_
    · cases descending
      · exact nil
      · exact words (by decide)
    · cases nullsLast
      · exact nil
      · exact words (by decide)

theorem order_alike (style : NullOrder) (descending : Bool) {expr other : Fragment}
    (alike : Alike function same expr other) :
    Alike function same (order style descending expr) (order style descending other) := by
  refine separated (by decide) ?_
  rw [List.forall₂_map_left_iff, List.forall₂_map_right_iff, List.forall₂_same]
  exact fun key _ => sortKey_alike alike key

theorem limit_alike (count offset : UInt64) :
    Rendering.Alike function same (limit count offset) (limit count offset) := by
  refine Agree.refl _ fun fragment given => ?_
  simp only [limit, rowCount] at given
  split at given
  · split at given
    · cases given
      exact cons_words (by decide) (setting _)
    · split at given
      · cases given
        exact cons_words (by decide) (cons_setting (cons_words (by decide) (setting _)))
      · cases given
  · cases given

theorem union_alike (plain : grammar.Plain) (kind : UnionKind) {query other : Fragment}
    (alike : Alike function same query other) :
    Alike function same (union grammar kind query) (union grammar kind other) := by
  refine cons_words (structuralMarks_spaced ?_) alike
  cases kind with
  | distinct => exact plain.distinctUnion
  | all => exact (by decide : structuralMarks "UNION ALL" = [])

/-! ## Nodes with a syntax of their own -/

/-- A unit has one word, which is plain, or is refused. -/
theorem intervalUnit_alike (unit : TimeUnit) :
    Agree (fun word other => word = other ∧ structuralMarks word = [])
      (intervalUnit unit) (intervalUnit unit) := by
  refine Agree.refl _ fun word given => ⟨rfl, ?_⟩
  cases unit <;> cases given <;> decide

theorem interval_alike (unit : TimeUnit) {amount other : Rendering}
    (alike : Rendering.Alike function same amount other) :
    Rendering.Alike function same (interval unit amount) (interval unit other) := by
  refine (intervalUnit_alike unit).bind ?_
  rintro word _ ⟨rfl, plain⟩
  refine alike.bind fun _ _ amounts => .ok ?_
  refine (cons_words (by decide) amounts).append (words ?_)
  simp only [structuralMarks_append, plain]
  decide

private theorem extracted_alike {word : String} (plain : structuralMarks word = []) (offset : Int32)
    {date other : Fragment} (alike : Alike function same date other) :
    Alike function same (extracted word offset date) (extracted word offset other) := by
  have opens : structuralMarks ("INTERVAL EXTRACT(" ++ word ++ " FROM ") = ['('] := by
    simp only [structuralMarks_append, plain]
    decide
  have last : structuralMarks (" " ++ word) = [] := by
    simp only [structuralMarks_append, plain]
    decide
  have moved : Alike function same
      (if offset = 0 then [] else [.text " + ", .value (.int offset.toInt64)])
      (if offset = 0 then [] else [.text " + ", .value (.int offset.toInt64)]) := by
    split
    · exact nil
    · exact cons_words (by decide) (setting _)
  have read : Alike function same
      (.text ("INTERVAL EXTRACT(" ++ word ++ " FROM ") :: date ++ [.text ")"])
      (.text ("INTERVAL EXTRACT(" ++ word ++ " FROM ") :: other ++ [.text ")"]) :=
    enclosed opens (by decide) alike
  simpa [extracted] using (read.append moved).append (words last)

theorem extractedInterval_alike (unit : TimeUnit) (offset : Int32) {date other : Rendering}
    (alike : Rendering.Alike function same date other) :
    Rendering.Alike function same (extractedInterval unit offset date)
      (extractedInterval unit offset other) := by
  refine (intervalUnit_alike unit).bind ?_
  rintro word _ ⟨rfl, plain⟩
  exact alike.bind fun _ _ dates => .ok (extracted_alike plain offset dates)

theorem shift_alike (direction : DateShift) {date otherDate amount other : Rendering}
    (dates : Rendering.Alike function same date otherDate)
    (amounts : Rendering.Alike function same amount other) :
    Rendering.Alike function same (shift direction date amount)
      (shift direction otherDate other) := by
  refine dates.bind fun _ _ first => amounts.bind fun _ _ second => .ok ?_
  exact call_words (by cases direction <;> decide) (.cons first (.cons second .nil))

private theorem clockTruncation_alike {units : List String} {last : String}
    (plain : ∀ word ∈ units, structuralMarks word = []) (lastPlain : structuralMarks last = [])
    (offset : Int32) {date other : Fragment} (alike : Alike function same date other) :
    Alike function same (clockTruncation units last offset date)
      (clockTruncation units last offset other) := by
  have day : Alike function same (Fragment.call "DATE" [date]) (Fragment.call "DATE" [other]) :=
    call_words (by decide) (.cons alike .nil)
  have clock : List.Forall₂ (Alike function same) (units.map fun word => extracted word 0 date)
      (units.map fun word => extracted word 0 other) := by
    rw [List.forall₂_map_left_iff, List.forall₂_map_right_iff, List.forall₂_same]
    exact fun word known => extracted_alike (plain word known) 0 alike
  refine parenthesised (separated (by decide) (List.rel_append (.cons day clock) ?_))
  exact .cons (extracted_alike lastPlain offset alike) .nil

private theorem dayTruncation_alike (plain : grammar.Plain) {name : String}
    (named : structuralMarks name = []) {date other : Fragment}
    (alike : Alike function same date other) :
    Rendering.Alike function same (dayTruncation grammar name date)
      (dayTruncation grammar name other) := by
  refine (operator_alike plain .sub).bind ?_
  rintro minus _ ⟨rfl, isPlain⟩
  have spaced : structuralMarks (" " ++ minus ++ " ") = [] := structuralMarks_spaced isPlain
  refine shift_alike .earlier (.ok (call_words (by decide) (.cons alike .nil)))
    (interval_alike .days (.ok ?_))
  exact (call_words named (.cons alike .nil)).append (cons_words spaced (setting _))

theorem truncation_alike (plain : grammar.Plain) (unit : TimeUnit) (offset : Int32)
    {date other : Rendering} (alike : Rendering.Alike function same date other) :
    Rendering.Alike function same (truncation grammar unit offset date)
      (truncation grammar unit offset other) := by
  cases unit with
  | seconds | minutes | hours =>
    exact alike.bind fun _ _ dates =>
      .ok (clockTruncation_alike (by decide) (by decide) offset dates)
  | days =>
    exact alike.bind fun _ _ dates => .ok (call_words (by decide) (.cons dates .nil))
  | weeks | months | years =>
    exact alike.bind fun _ _ dates => dayTruncation_alike plain (by decide) dates
  | nanos | micros | millis | decades => exact Agree.error _

theorem groupConcat_alike (distinct : Bool) {columns keys others otherKeys : List Fragment}
    (separator : String) (parts : List.Forall₂ (Alike function same) columns others)
    (sortKeys : List.Forall₂ (Alike function same) keys otherKeys) :
    Alike function same (groupConcat distinct columns keys separator)
      (groupConcat distinct others otherKeys separator) := by
  refine enclosed (by decide) (by decide) (((append ?_ (separated (by decide) parts)).append
    (list_alike (by decide) sortKeys)).append ?_)
  · cases distinct
    · exact nil
    · exact words (by decide)
  · split
    · exact nil
    · exact cons_words (by decide) (setting _)

end SqlTree.Form
