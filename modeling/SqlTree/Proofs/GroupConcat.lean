import SqlTree.Function
import SqlTree.Proofs.NullsLast

/-! # Joining the texts of a group

The calls that build the aggregate set three things: whether values are distinct, the separator and
the sort keys. What a run of calls leaves of each depends on the calls for it alone (`run_eq`), so
calls for different things can be made in any order. The text of the aggregate follows from the
three and from the texts of the columns and the keys (`compile_groupConcat`).
-/

namespace SqlTree

namespace GroupConcat

/-! ## What a run of calls leaves -/

/-- What calls set. -/
inductive Setting where
  | distinct | separator | order
deriving DecidableEq, Repr, Inhabited

namespace Step

def setting : Step → Setting
  | distinct => .distinct
  | separator _ => .separator
  | orderBy .. => .order

def separator? : Step → Option String
  | separator text => some text
  | _ => none

def key? : Step → Option Order
  | orderBy expr descending => some ⟨expr, descending⟩
  | _ => none

end Step

/-- The calls of a run that set one thing. -/
def calls (setting : Setting) (steps : List Step) : List Step :=
  steps.filter fun step => step.setting = setting

/-- Whether a run asks for distinct values. -/
def asksDistinct (steps : List Step) : Bool :=
  steps.any fun step => step.setting = .distinct

def separators (steps : List Step) : List String :=
  steps.filterMap Step.separator?

def keys (steps : List Step) : List Order :=
  steps.filterMap Step.key?

/-- What one call does: it replaces the separator or appends a sort key, if it has one. -/
private theorem apply_eq (settings : GroupConcat) (step : Step) :
    settings.apply step =
      { columns := settings.columns
        distinct := settings.distinct || step.setting = .distinct
        order := settings.order ++ step.key?.toList
        separator := step.separator?.getD settings.separator } := by
  cases step <;> simp [apply, Step.setting, Step.key?, Step.separator?]

/-- What a run does: the last separator stays, and all sort keys are appended. -/
theorem run_eq (settings : GroupConcat) (steps : List Step) :
    settings.run steps =
      { columns := settings.columns
        distinct := settings.distinct || asksDistinct steps
        order := settings.order ++ keys steps
        separator := (separators steps).getLast?.getD settings.separator } := by
  induction steps generalizing settings with
  | nil => simp [run, asksDistinct, separators, keys]
  | cons step rest ih =>
    have distinct : asksDistinct (step :: rest) =
        (decide (step.setting = .distinct) || asksDistinct rest) := rfl
    have order : keys (step :: rest) = step.key?.toList ++ keys rest := by
      cases key : step.key? <;> simp [keys, key]
    have separator : (separators (step :: rest)).getLast? =
        (separators rest).getLast?.or step.separator? := by
      cases own : step.separator? <;>
        cases later : (separators rest).getLast? <;> simp_all [separators, List.getLast?_cons]
    have first : settings.run (step :: rest) = (settings.apply step).run rest := rfl
    rw [first, ih, apply_eq, distinct, order, separator]
    simp only [Bool.or_assoc, List.append_assoc]
    cases (separators rest).getLast? <;> rfl

/-- What calls for one setting leave is left of the whole run. -/
private theorem filterMap_calls {α : Type} {setting : Setting} {part : Step → Option α}
    (own : ∀ step, step.setting ≠ setting → part step = none) (steps : List Step) :
    (calls setting steps).filterMap part = steps.filterMap part := by
  rw [calls, List.filterMap_filter]
  refine List.filterMap_congr fun step _ => ?_
  by_cases same : step.setting = setting
  · simp [same]
  · simp [same, own step same]

/-- Runs with the same calls for each setting leave the same settings. -/
theorem run_eq_run (settings : GroupConcat) {first second : List Step}
    (same : ∀ setting, calls setting first = calls setting second) :
    settings.run first = settings.run second := by
  have distinct (steps : List Step) :
      asksDistinct (calls .distinct steps) = asksDistinct steps := by
    simp [asksDistinct, calls, List.any_filter]
  have order (steps : List Step) : keys (calls .order steps) = keys steps := by
    refine filterMap_calls (fun step other => ?_) steps
    cases step <;> simp_all [Step.setting, Step.key?]
  have separator (steps : List Step) :
      separators (calls .separator steps) = separators steps := by
    refine filterMap_calls (fun step other => ?_) steps
    cases step <;> simp_all [Step.setting, Step.separator?]
  rw [run_eq, run_eq, ← distinct first, ← order first, ← separator first, same, same, same,
    distinct, order, separator]

end GroupConcat

/-! ## The text of the aggregate -/

/-- The aggregate around its columns and its sort keys. The separator is an argument, unless it is a
comma. -/
def Compiled.groupConcat (distinct : Bool) (columns keys : List Compiled) (separator : String) :
    Compiled :=
  { sql :=
      "GROUP_CONCAT(" ++ (if distinct then "DISTINCT " else "") ++
        ", ".intercalate (columns.map Compiled.sql) ++ (Compiled.orderBy keys).sql ++
        (if separator = "," then "" else " SEPARATOR ?") ++ ")"
    arguments :=
      columns.flatMap Compiled.arguments ++ (Compiled.orderBy keys).arguments ++
        if separator = "," then [] else [.text separator] }

/-- Where nothing is stated of NULL, a sort key is the expression in its direction. -/
private theorem Order.renderAll_unstated (grammar : Grammar) (order : List Order) :
    renderAll grammar .unstated order =
      (rowKeys .unstated order).mapM (RowKey.render grammar) := by
  induction order with
  | nil => rfl
  | cons entry rest ih =>
    obtain ⟨expr, descending⟩ := entry
    have split : rowKeys .unstated (⟨expr, descending⟩ :: rest) =
        ⟨expr, .value descending false⟩ :: rowKeys .unstated rest := rfl
    rw [renderAll, split, List.mapM_cons, ← ih, RowKey.render]
    cases expr.render grammar .inner <;> rfl

private theorem GroupConcat.render_toExpr (grammar : Grammar) (position : Position)
    (settings : GroupConcat) :
    settings.toExpr.render grammar position = do
      let columns ← settings.columns.mapM fun expr => expr.render grammar .inner
      let keys ← (Order.rowKeys .unstated settings.order).mapM (RowKey.render grammar)
      return Form.groupConcat settings.distinct columns keys settings.separator := by
  rw [← Expr.renderAll_eq_mapM, ← Order.renderAll_unstated]
  rfl

namespace Dialect

variable {dialect : Dialect}

private theorem text_groupConcat (marked : dialect.spelling.values = .mark "?") (distinct : Bool)
    (columns keys : List Fragment) (separator : String) :
    dialect.text (Form.groupConcat distinct columns keys separator) =
      "GROUP_CONCAT(" ++ (if distinct then "DISTINCT " else "") ++
        ", ".intercalate (columns.map dialect.text) ++ dialect.text (Form.list " ORDER BY " keys) ++
        (if separator = "," then "" else " SEPARATOR ?") ++ ")" := by
  have keyword : dialect.text (if distinct then [.text "DISTINCT "] else []) =
      if distinct then "DISTINCT " else "" := by
    cases distinct <;> rfl
  have setting : dialect.text
      (if separator = "," then [] else [.text " SEPARATOR ", .value (.text separator)]) =
        if separator = "," then "" else " SEPARATOR ?" := by
    split
    · rfl
    · rw [text_cons marked, text_singleton, pieceText_value marked]
      rfl
  rw [Form.groupConcat, text_append marked, text_append marked, text_append marked,
    text_append marked, text_cons marked, keyword, setting, text_separated marked]
  rfl

/-- The aggregate is made of the texts and the arguments of its columns and its keys. -/
private theorem groupConcat_map (conventional : dialect.Conventional) (distinct : Bool)
    (columns keys : List Fragment) (separator : String) :
    Compiled.groupConcat distinct
        (columns.map fun column => ⟨dialect.text column, dialect.argumentsOf column⟩)
        (keys.map fun key => ⟨dialect.text key, dialect.argumentsOf key⟩) separator =
      ⟨dialect.text (Form.groupConcat distinct columns keys separator),
        dialect.argumentsOf (Form.groupConcat distinct columns keys separator)⟩ := by
  have marked := conventional.values
  have ordered := orderBy_map marked keys
  have bound : (if separator = "," then [] else [Site.setting (.text separator)]).flatMap
      Site.arguments = if separator = "," then [] else [.text separator] := by
    split <;> rfl
  rw [text_groupConcat marked, Form.argumentsOf_groupConcat conventional, bound]
  refine congrArg₂ Compiled.mk ?_ ?_
  · rw [ordered, List.map_map]
    rfl
  · rw [ordered, List.flatMap_map, Form.list, Form.argumentsOf_clause]

private theorem mapM_compileExpr (dialect : Dialect) (exprs : List Expr) :
    exprs.mapM dialect.compileExpr =
      (dialect.refuse (exprs.mapM fun expr => expr.render dialect.grammar .inner)).map
        fun fragments =>
          fragments.map fun fragment => ⟨dialect.text fragment, dialect.argumentsOf fragment⟩ :=
  dialect.mapM_appendRendering (fun expr : Expr => expr.render dialect.grammar .inner) exprs

/-- The aggregate is compiled column by column and then key by key, and is refused like the first of
them that is. Each setting is what the calls for it left, so calls for different settings can be
made in any order. -/
theorem compile_groupConcat (known : dialect ∈ builtIn) (columns : List Expr)
    (steps : List GroupConcat.Step) :
    (∀ position, dialect.appendRendering ⟨"", []⟩
        ((GroupConcat.run { columns } steps).toExpr.render dialect.grammar position) = do
      let columns ← columns.mapM dialect.compileExpr
      let keys ← (Order.rowKeys .unstated (GroupConcat.keys steps)).mapM dialect.compileKey
      return Compiled.groupConcat (GroupConcat.asksDistinct steps) columns keys
        ((GroupConcat.separators steps).getLast?.getD ",")) ∧
      ∀ other, (∀ setting, GroupConcat.calls setting other = GroupConcat.calls setting steps) →
        GroupConcat.run { columns } other = GroupConcat.run { columns } steps := by
  have conventional := conventional_of_builtIn known
  refine ⟨fun position => ?_, fun other same => GroupConcat.run_eq_run _ same⟩
  have built : GroupConcat.run { columns } steps =
      { columns
        distinct := GroupConcat.asksDistinct steps
        order := GroupConcat.keys steps
        separator := (GroupConcat.separators steps).getLast?.getD "," } :=
    GroupConcat.run_eq { columns } steps
  rw [mapM_compileExpr, mapM_compileKey conventional.values, built, GroupConcat.render_toExpr,
    appendRendering_empty]
  cases columns.mapM fun expr => expr.render dialect.grammar .inner with
  | error refusal => rfl
  | ok columns =>
    cases (Order.rowKeys .unstated (GroupConcat.keys steps)).mapM
        (RowKey.render dialect.grammar) with
    | error refusal => rfl
    | ok keys => exact congrArg Except.ok (groupConcat_map conventional ..).symm

/-- Two separators and two sort keys among calls that ask for distinct values. -/
def mixedCalls : List GroupConcat.Step :=
  [.orderBy (.named (.identifier "rank")) true, .separator ";", .distinct,
    .orderBy (.binary .mul (.named (.identifier "cost")) (.literal (.int 2))) false,
    .separator " | ", .distinct]

/-- The same calls for each setting, one setting after the other. -/
def sortedCalls : List GroupConcat.Step :=
  [.distinct, .distinct, .separator ";", .separator " | ",
    .orderBy (.named (.identifier "rank")) true,
    .orderBy (.binary .mul (.named (.identifier "cost")) (.literal (.int 2))) false]

/-- The second separator stays. Of the columns, one has an argument; an aggregate with a column that
is refused has no text. -/
theorem compile_groupConcat_mixedCalls :
    let columns : List Expr :=
      [.named (.identifier "name"), .binary .add (.named (.identifier "x")) (.literal (.int 1))]
    mysql.compileExpr (GroupConcat.run { columns } mixedCalls).toExpr =
        .ok
          { sql := "GROUP_CONCAT(DISTINCT name, x + ? ORDER BY `rank` DESC, cost * ? SEPARATOR ?)"
            arguments := [.int 1, .int 2, .text " | "] } ∧
      GroupConcat.run { columns } sortedCalls = GroupConcat.run { columns } mixedCalls ∧
      mysql.compileExpr
          (GroupConcat.run { columns := [.allColumns (.table (.identifier "t"))] } mixedCalls).toExpr =
        .error ⟨"mysql", .unsupported .nestedAllColumns⟩ := by
  intro columns
  have known : mysql ∈ builtIn := by simp [builtIn]
  obtain ⟨written, commutes⟩ := compile_groupConcat known columns mixedCalls
  obtain ⟨refused, -⟩ :=
    compile_groupConcat known [.allColumns (.table (.identifier "t"))] mixedCalls
  refine ⟨?_, commutes sortedCalls fun setting => ?_, ?_⟩
  · rw [compileExpr, written]
    decide +kernel
  · cases setting <;> rfl
  · rw [compileExpr, refused]
    rfl

end Dialect

end SqlTree
