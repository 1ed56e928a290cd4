import SqlTree.Proofs.Alike
import SqlTree.Proofs.Reading.Union

/-! # Forms and the unions they show

No form of an expression shows a union, and of the clauses only those of unions do. A clause begins
with a blank, so that no word goes on into it.
-/

namespace SqlTree

abbrev Rendering.Shows (dialect : Dialect) (kinds : List UnionKind) : Rendering → Prop :=
  Yields fun fragment => fragment.Shows dialect kinds

abbrev SilentAll (dialect : Dialect) : Except Refusal (List Fragment) → Prop :=
  Yields fun fragments => ∀ fragment ∈ fragments, fragment.Shows dialect []

/-- The fragment, if there is one, begins with SELECT and shows the unions. -/
def Rendering.ShowsQuery (dialect : Dialect) (kinds : List UnionKind) : Rendering → Prop :=
  Yields fun fragment =>
    (∃ rest, fragment = .text "SELECT " :: rest) ∧ fragment.Shows dialect kinds

theorem Rendering.ShowsQuery.unions {dialect : Dialect} {kinds : List UnionKind}
    {rendering : Rendering} (shown : rendering.ShowsQuery dialect kinds) :
    rendering.Shows dialect kinds :=
  fun fragment rendered => (shown fragment rendered).2

namespace Form

open Fragment

variable {dialect : Dialect} {rendered before after : Rendering} {fragment other : Fragment}
  {fragments : List Fragment}

private theorem leads_operator (op : BinaryOp) : Leads (" " ++ op.text ++ " ") 0 0 [] := by
  cases op <;> exact fun _ _ => rfl

/-! ## Expressions -/

theorem nullTest_shows (op : BinaryOp) (expr : Expr) (inner : rendered.Shows dialect []) :
    (nullTest op expr rendered).Shows dialect [] := by
  have tested (text : String) (word : List Char) (leads : Leads text 0 0 word)
      (apart : isUnionWord word = false) (delimits : Delimits text) :
      Rendering.Shows dialect [] (do
        return Fragment.grouped (expr.needsGrouping op .left) (← rendered) ++ [.text text]) :=
    inner.bind fun _ silent =>
      .ok ((silent.grouped _).append (.text delimits []) (.text leads apart))
  cases op with
  | eq =>
    exact tested " IS NULL" "NULL".toList (fun _ _ => rfl) (by decide) ⟨' ', _, rfl, by decide⟩
  | notEq =>
    exact tested " IS NOT NULL" "NULL".toList (fun _ _ => rfl) (by decide) ⟨' ', _, rfl, by decide⟩
  | _ => exact Yields.error _

theorem binary_shows (standard : dialect.Standard) (op : BinaryOp) (left right : Expr)
    (first : before.Shows dialect []) (second : after.Shows dialect []) :
    (binary dialect.grammar op left right before after).Shows dialect [] := by
  refine first.bind fun _ firstSilent => ?_
  rw [operator, standard.operator]
  refine second.bind fun _ secondSilent => .ok ?_
  rw [List.append_assoc]
  exact (firstSilent.grouped _).append (.text (delimits_operator op) _)
    ((secondSilent.grouped _).cons (leads_operator op))

theorem operand_shows (expr : Expr) (inner : rendered.Shows dialect []) :
    (operand expr rendered).Shows dialect [] :=
  inner.bind fun _ silent => .ok (silent.grouped _)

private theorem leads_membership (negated : Bool) : Leads (membership negated) 0 1 [] := by
  cases negated <;> exact fun _ _ => rfl

/-- What a membership test tests, and what stands between its parentheses. -/
theorem membership_shows (negated : Bool) {kinds : List UnionKind}
    (tested : fragment.Shows dialect []) (inner : other.Shows dialect kinds) :
    Fragment.Shows dialect (fragment ++ .text (membership negated) :: other ++ [.text ")"]) [] := by
  rw [List.append_assoc]
  exact tested.append (.text (delimits_membership negated) _)
    (inner.bracketed (leads_membership negated))

theorem inList_shows (standard : dialect.Standard) (negated : Bool) (expr : Expr)
    (values : List Value) (inner : rendered.Shows dialect []) :
    (inList negated expr values rendered).Shows dialect [] := by
  unfold inList
  split
  · refine .ok ?_
    cases negated with
    | false => exact .text (fun _ _ => rfl : Leads "1 = 0" 0 0 ['0']) (by decide)
    | true => exact .text (fun _ _ => rfl : Leads "1 = 1" 0 0 ['1']) (by decide)
  · have listed : Fragment.Shows dialect
        (Fragment.separated ", " (values.map fun value => [.value value])) [] := by
      refine .separated separates_comma fun fragment member => ?_
      obtain ⟨value, _, rfl⟩ := List.mem_map.mp member
      exact .value standard.spelling value
    exact (operand_shows expr inner).bind fun _ tested =>
      .ok (membership_shows negated tested listed)

theorem inQuery_shows (negated : Bool) (expr : Expr) {kinds : List UnionKind} {query : Rendering}
    (inner : rendered.Shows dialect []) (rows : query.Shows dialect kinds) :
    (inQuery negated expr rendered query).Shows dialect [] :=
  (operand_shows expr inner).bind fun _ tested =>
    rows.bind fun _ inside => .ok (membership_shows negated tested inside)

theorem count_shows (distinct : Bool) (silent : fragment.Shows dialect []) :
    (count distinct fragment).Shows dialect [] := by
  refine silent.bracketed ?_
  cases distinct <;> exact fun _ _ => rfl

theorem caseTarget_shows {target : Option Fragment}
    (silent : ∀ fragment ∈ target, fragment.Shows dialect []) :
    (caseTarget target).Shows dialect [] := by
  cases target with
  | none => exact .text (fun _ _ => rfl : Leads "CASE" 0 0 "CASE".toList) (by decide)
  | some target =>
    exact (silent target rfl).bracketed (fun _ _ => rfl : Leads "CASE (" 0 1 [])

theorem branch_follows (condition : fragment.Shows dialect []) (result : other.Shows dialect []) :
    (branch fragment other).Follows dialect [] where
  unions := condition.enclosed (fun _ _ => rfl : Leads " WHEN (" 0 1 [])
    (fun _ _ => rfl : Leads ") THEN " 1 0 []) ⟨')', _, rfl, by decide⟩ result
  begins := .text ⟨' ', _, rfl, by decide⟩ _

theorem caseEnd_follows {otherwise : Option Fragment}
    (silent : ∀ fragment ∈ otherwise, fragment.Shows dialect []) :
    (caseEnd otherwise).Follows dialect [] := by
  have end_ : Fragment.Follows dialect [.text " END"] [] :=
    ⟨.text (fun _ _ => rfl : Leads " END" 0 0 "END".toList) (by decide),
      .text ⟨' ', _, rfl, by decide⟩ _⟩
  cases otherwise with
  | none => exact end_
  | some otherwise =>
    refine ⟨?_, .text ⟨' ', _, rfl, by decide⟩ _⟩
    exact end_.after ((silent otherwise rfl).cons (fun _ _ => rfl : Leads " ELSE " 0 0 []))

theorem allColumns_shows (standard : dialect.Standard) (element : Element) :
    (allColumns element).Shows dialect [] := by
  have columns (name : Name) : Fragment.Shows dialect [.name name, .text ".*"] [] :=
    (Fragment.Shows.name standard.spelling name).append (.text ⟨'.', _, rfl, by decide⟩ _)
      (.text (fun _ _ => rfl : Leads ".*" 0 0 []) (by decide))
  cases element with
  | table name => exact .ok (columns name)
  | labelled element label => exact .ok (columns label)
  | subquery query => exact .error _

/-! ## Clauses -/

theorem selection_shows (silent : ∀ fragment ∈ fragments, fragment.Shows dialect []) :
    (selection fragments).Shows dialect [] := by
  refine Fragment.Shows.cons (fun _ _ => rfl) ?_
  split
  · exact .text (fun _ _ => rfl : Leads "*" 0 0 []) (by decide)
  · exact .separated separates_comma silent

theorem source_follows {element : Except Refusal (Option Fragment)} (hasJoins : Bool)
    {joins : Rendering} (rows : Yields (fun element => ∀ fragment ∈ element,
      Fragment.Shows dialect fragment []) element)
    (joined : Yields (fun fragment => fragment.Follows dialect []) joins) :
    Yields (fun fragment => fragment.Follows dialect []) (source element hasJoins joins) := by
  refine rows.bind fun element silent => ?_
  cases element with
  | none =>
    cases hasJoins with
    | false => exact .ok .nil
    | true => exact .error _
  | some element =>
    refine joined.bind fun rest joinsFollow => .ok ?_
    exact .text ⟨fun _ _ => rfl, ' ', _, rfl, by decide⟩ (joinsFollow.after (silent element rfl))

theorem join_follows (kind : JoinKind) (element : fragment.Shows dialect [])
    (condition : other.Shows dialect []) : (join kind fragment other).Follows dialect [] := by
  have on : Fragment.Follows dialect (.text " ON " :: other) [] :=
    .text ⟨fun _ _ => rfl, ' ', _, rfl, by decide⟩ condition
  refine .text ⟨?_, ' ', kind.text.toList ++ [' '], by simp, by decide⟩ (on.after element)
  cases kind <;> exact fun _ _ => rfl

private theorem clause_follows {keyword separator : String} (opens : Separates keyword)
    (separates : Separates separator) (silent : ∀ fragment ∈ fragments, fragment.Shows dialect []) :
    (clause keyword separator fragments).Follows dialect [] := by
  unfold clause
  split
  · exact .nil
  · exact .text opens (.separated separates silent)

private theorem conjuncts_shows (exprs : List Expr)
    (silent : ∀ fragment ∈ fragments, fragment.Shows dialect []) :
    ∀ fragment ∈ conjuncts exprs fragments, fragment.Shows dialect [] := by
  intro fragment member
  obtain ⟨group, part, inFragments, rfl⟩ := exists_of_mem_conjuncts member
  exact (silent part inFragments).grouped group

theorem predicates_follows {keyword : String} (opens : Separates keyword) (exprs : List Expr)
    (silent : ∀ fragment ∈ fragments, fragment.Shows dialect []) :
    (predicates keyword exprs fragments).Follows dialect [] :=
  clause_follows opens ⟨fun _ _ => rfl, ' ', _, rfl, by decide⟩ (conjuncts_shows exprs silent)

theorem list_follows {keyword : String} (opens : Separates keyword)
    (silent : ∀ fragment ∈ fragments, fragment.Shows dialect []) :
    (list keyword fragments).Follows dialect [] :=
  clause_follows opens separates_comma silent

private theorem sortKey_shows (key : SortKey) (silent : fragment.Shows dialect []) :
    (sortKey fragment key).Shows dialect [] := by
  cases key with
  | nullTest =>
    exact silent.bracketed (fun _ _ => rfl : Leads "ISNULL(" 0 1 [])
  | value descending nullsLast =>
    have word (given : Bool) (text : String) (last : List Char) (leads : Leads text 0 0 last)
        (apart : isUnionWord last = false) (delimits : Delimits text) :
        Fragment.Follows dialect (if given then [.text text] else []) [] := by
      cases given with
      | false => exact .nil
      | true => exact ⟨.text leads apart, .text delimits _⟩
    have direction := word descending " DESC" "DESC".toList (fun _ _ => rfl) (by decide)
      ⟨' ', _, rfl, by decide⟩
    have nulls := word nullsLast " NULLS LAST" "LAST".toList (fun _ _ => rfl) (by decide)
      ⟨' ', _, rfl, by decide⟩
    exact nulls.after (direction.after silent)

theorem order_shows (style : NullOrder) (descending : Bool) (silent : fragment.Shows dialect []) :
    (order style descending fragment).Shows dialect [] := by
  refine .separated separates_comma fun key member => ?_
  obtain ⟨sort, _, rfl⟩ := List.mem_map.mp member
  exact sortKey_shows sort silent

theorem limit_follows (standard : dialect.Standard) (count offset : UInt64) :
    Yields (fun fragment => fragment.Follows dialect []) (limit count offset) := by
  have bound (value : Value) : Fragment.Follows dialect [.text " LIMIT ", .value value] [] :=
    .text ⟨fun _ _ => rfl, ' ', _, rfl, by decide⟩ (.value standard.spelling value)
  have skipped (value : Value) : Fragment.Follows dialect [.text " OFFSET ", .value value] [] :=
    .text ⟨fun _ _ => rfl, ' ', _, rfl, by decide⟩ (.value standard.spelling value)
  intro fragment given
  obtain ⟨first, _, rest⟩ := bind_eq_ok.mp given
  split at rest
  · cases rest
    exact bound first
  · obtain ⟨second, _, last⟩ := bind_eq_ok.mp rest
    cases last
    exact (bound first).append (skipped second)

/-- The keywords of a union are read as the union. Without a word of its own the union is told by
the word after it, which is SELECT. -/
private theorem unions_keywords (standard : dialect.Standard) (kind : UnionKind) (depth : Nat)
    (rest : List Char) :
    Region.outside.unions depth []
        ((" " ++ unionKeywords dialect.grammar kind ++ " ").toList ++ ("SELECT ".toList ++ rest)) =
      (if depth = 0 then [kind] else []) ++
        Region.outside.unions depth [] ("SELECT ".toList ++ rest) := by
  obtain ⟨words, spelled, leads, told⟩ : ∃ words,
      " " ++ unionKeywords dialect.grammar kind ++ " " = " UNION" ++ " " ++ words ∧
      Leads words 0 0 [] ∧
      UnionKind.before (' ' :: (words.toList ++ ("SELECT ".toList ++ rest))) = kind := by
    cases kind with
    | all => exact ⟨"ALL ", rfl, fun _ _ => rfl, rfl⟩
    | distinct =>
      rw [unionKeywords]
      rcases standard.distinctUnion with given | given <;> rw [given]
      · exact ⟨"DISTINCT ", rfl, fun _ _ => rfl, rfl⟩
      · exact ⟨"", rfl, fun _ _ => rfl, rfl⟩
  have word : Leads " UNION" 0 0 "UNION".toList := fun _ _ => rfl
  have blank (others : List Char) : " ".toList ++ others = ' ' :: others := rfl
  rw [spelled, String.toList_append, String.toList_append, List.append_assoc, List.append_assoc,
    blank]
  refine (word depth _).trans ?_
  refine (Region.unions_unionWord depth _).trans ?_
  rw [told]
  exact congrArg _ (leads depth _)

/-- A union shows itself and then the unions of the query whose rows it adds. -/
theorem union_follows (standard : dialect.Standard) (kind : UnionKind) {kinds : List UnionKind}
    {rest : Fragment} (shown : Fragment.Shows dialect (.text "SELECT " :: rest) kinds) :
    (union dialect.grammar kind (.text "SELECT " :: rest)).Follows dialect (kind :: kinds) := by
  have begins : Delimits (" " ++ unionKeywords dialect.grammar kind ++ " ") :=
    ⟨' ', (unionKeywords dialect.grammar kind).toList ++ [' '], by simp, by decide⟩
  have read := unions_keywords standard kind
  refine ⟨?_, .text begins _⟩
  rw [union]
  generalize " " ++ unionKeywords dialect.grammar kind ++ " " = keywords at read
  intro bound depth after delimited
  have shownAfter := shown (bound + (dialect.argumentsOf [.text keywords]).length) depth after
    delimited
  rw [Dialect.appendText_cons, Dialect.pieceText, String.toList_append, List.append_assoc]
    at shownAfter
  rw [Dialect.appendText_cons, Dialect.pieceText, String.toList_append, List.append_assoc,
    Dialect.appendText_cons _ _ (.text "SELECT "), Dialect.pieceText, String.toList_append,
    List.append_assoc, read, shownAfter]
  split <;> rfl

/-! ## Nodes with a syntax of their own -/

/-- A word for a unit, after and before the texts that it stands between. -/
structure IsUnitWord (word : String) : Prop where
  opens : Leads ("INTERVAL EXTRACT(" ++ word ++ " FROM ") 0 1 []
  ends : Leads (" " ++ word) 0 0 word.toList
  apart : isUnionWord word.toList = false

private theorem IsUnitWord.follows {word : String} (unit : IsUnitWord word) :
    Fragment.Follows dialect [.text (" " ++ word)] [] :=
  ⟨.text unit.ends unit.apart, .text ⟨' ', word.toList, by simp, by decide⟩ _⟩

/-- A unit has one word or is refused. -/
theorem intervalUnit_yields (unit : TimeUnit) : Yields IsUnitWord (intervalUnit unit) := by
  cases unit with
  | nanos | millis | decades => exact .error _
  | _ => exact .ok ⟨fun _ _ => rfl, fun _ _ => rfl, by decide⟩

theorem interval_shows (unit : TimeUnit) (amount : rendered.Shows dialect []) :
    (interval unit rendered).Shows dialect [] := by
  refine (intervalUnit_yields unit).bind fun word isWord => ?_
  refine amount.bind fun _ silent => .ok ?_
  exact isWord.follows.after (silent.cons (fun _ _ => rfl : Leads "INTERVAL " 0 0 []))

private theorem extracted_shows (standard : dialect.Standard) {word : String} (unit : IsUnitWord word)
    (offset : Int32) (date : fragment.Shows dialect []) :
    (extracted word offset fragment).Shows dialect [] := by
  have moved : Fragment.Follows dialect
      (if offset = 0 then [] else [.text " + ", .value (.int offset.toInt64)]) [] := by
    split
    · exact .nil
    · exact .text ⟨fun _ _ => rfl, ' ', _, rfl, by decide⟩ (.value standard.spelling _)
  have rest := moved.append unit.follows
  have whole := date.enclosed unit.opens leads_closing delimits_closing rest.unions
  simpa [extracted] using whole

theorem extractedInterval_shows (standard : dialect.Standard) (unit : TimeUnit) (offset : Int32)
    (date : rendered.Shows dialect []) :
    (extractedInterval unit offset rendered).Shows dialect [] := by
  refine (intervalUnit_yields unit).bind fun word isWord => ?_
  exact date.bind fun _ silent => .ok (extracted_shows standard isWord offset silent)

theorem shift_shows (direction : DateShift) (date : before.Shows dialect [])
    (amount : after.Shows dialect []) : (shift direction before after).Shows dialect [] := by
  refine date.bind fun _ first => amount.bind fun _ second => .ok ?_
  have both : ∀ fragment ∈ [_, _], Fragment.Shows dialect fragment [] :=
    List.forall_mem_cons.mpr ⟨first, List.forall_mem_singleton.mpr second⟩
  cases direction with
  | later => exact .call (by decide) (by decide) both
  | earlier => exact .call (by decide) (by decide) both

/-- A function of one argument. -/
theorem call_shows {function : String} (word : function.toList.all Token.isWordChar = true)
    (apart : isUnionWord function.toList = false) (argument : fragment.Shows dialect []) :
    (Fragment.call function [fragment]).Shows dialect [] :=
  .call word apart (List.forall_mem_singleton.mpr argument)

private theorem clockTruncation_shows (standard : dialect.Standard) {words : List String} {last : String}
    (units : ∀ word ∈ words, IsUnitWord word) (lastUnit : IsUnitWord last) (offset : Int32)
    (date : fragment.Shows dialect []) :
    (clockTruncation words last offset fragment).Shows dialect [] := by
  refine Fragment.Shows.parenthesised (.separated ⟨fun _ _ => rfl, ' ', _, rfl, by decide⟩ ?_)
  intro part member
  rcases List.mem_append.mp member with first | final
  · rcases List.mem_cons.mp first with rfl | clock
    · exact call_shows (by decide) (by decide) date
    · obtain ⟨word, listed, rfl⟩ := List.mem_map.mp clock
      exact extracted_shows standard (units word listed) 0 date
  · rw [List.mem_singleton.mp final]
    exact extracted_shows standard lastUnit offset date

private theorem dayTruncation_shows (standard : dialect.Standard) {function : String}
    (word : function.toList.all Token.isWordChar = true)
    (apart : isUnionWord function.toList = false) (date : fragment.Shows dialect []) :
    (dayTruncation dialect.grammar function fragment).Shows dialect [] := by
  unfold dayTruncation
  rw [operator, standard.operator]
  refine shift_shows .earlier (.ok (call_shows (by decide) (by decide) date))
    (interval_shows .days (.ok ?_))
  exact (call_shows word apart date).append (.text (delimits_operator .sub) _)
    ((Fragment.Shows.value standard.spelling _).cons (leads_operator .sub))

theorem truncation_shows (standard : dialect.Standard) (unit : TimeUnit) (offset : Int32)
    (date : rendered.Shows dialect []) :
    (truncation dialect.grammar unit offset rendered).Shows dialect [] := by
  have hour : IsUnitWord "HOUR" := ⟨fun _ _ => rfl, fun _ _ => rfl, by decide⟩
  have minute : IsUnitWord "MINUTE" := ⟨fun _ _ => rfl, fun _ _ => rfl, by decide⟩
  have second : IsUnitWord "SECOND" := ⟨fun _ _ => rfl, fun _ _ => rfl, by decide⟩
  have both : ∀ word ∈ ["HOUR", "MINUTE"], IsUnitWord word :=
    List.forall_mem_cons.mpr ⟨hour, List.forall_mem_singleton.mpr minute⟩
  cases unit with
  | seconds =>
    exact date.bind fun _ silent => .ok (clockTruncation_shows standard both second offset silent)
  | minutes =>
    exact date.bind fun _ silent => .ok
      (clockTruncation_shows standard (List.forall_mem_singleton.mpr hour) minute offset silent)
  | hours =>
    exact date.bind fun _ silent => .ok
      (clockTruncation_shows standard (List.forall_mem_nil _) hour offset silent)
  | days =>
    exact date.bind fun _ silent => .ok (call_shows (by decide) (by decide) silent)
  | weeks | months | years =>
    exact date.bind fun _ silent => dayTruncation_shows standard (by decide) (by decide) silent
  | nanos | micros | millis | decades => exact .error _

theorem groupConcat_shows (standard : dialect.Standard) (distinct : Bool)
    {keys : List Fragment} (separator : String)
    (columns : ∀ fragment ∈ fragments, fragment.Shows dialect [])
    (order : ∀ fragment ∈ keys, fragment.Shows dialect []) :
    (groupConcat distinct fragments keys separator).Shows dialect [] := by
  have listed : Fragment.Shows dialect
      ((if distinct then [.text "DISTINCT "] else []) ++ Fragment.separated ", " fragments) [] := by
    have all := Fragment.Shows.separated separates_comma columns
    cases distinct with
    | false => exact all
    | true => exact all.cons (fun _ _ => rfl : Leads "DISTINCT " 0 0 [])
  have sorted : (list " ORDER BY " keys).Follows dialect [] :=
    list_follows ⟨fun _ _ => rfl, ' ', _, rfl, by decide⟩ order
  have apart : Fragment.Follows dialect
      (if separator = "," then [] else [.text " SEPARATOR ", .value (.text separator)]) [] := by
    split
    · exact .nil
    · exact .text ⟨fun _ _ => rfl, ' ', _, rfl, by decide⟩ (.value standard.spelling _)
  have inner := apart.after (sorted.after listed)
  exact inner.bracketed (fun _ _ => rfl : Leads "GROUP_CONCAT(" 0 1 [])

end Form

end SqlTree
