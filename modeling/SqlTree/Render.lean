import SqlTree.Form

/-! # Rendering trees

The fragment of every expression and query. The functions recurse on the tree, once into each
part; `Form` puts the parts together. An expression is rendered as a selection entry, where an
alias declares its name, or as part of another, where it refers to it.
-/

namespace SqlTree

/-- Where an expression stands: as a whole entry of a selection, or inside something else. -/
inductive Position where
  | entry | inner
deriving DecidableEq, Repr, Inhabited

mutual

def Expr.render (grammar : Grammar) (position : Position) : Expr → Rendering
  | .literal value => .ok [.value value]
  | .named name => .ok [.name name]
  | .binary op left right =>
    if right.isNullLiteral then Form.nullTest op left (left.render grammar .inner)
    else if left.isNullLiteral then Form.nullTest op right (right.render grammar .inner)
    else
      Form.binary grammar op left right (left.render grammar .inner) (right.render grammar .inner)
  | .not operand => do
    return .text "NOT " :: (← Form.operand operand (operand.render grammar .inner))
  | .isNull negated operand => do
    return (← Form.operand operand (operand.render grammar .inner)) ++
      [.text (if negated then " IS NOT NULL" else " IS NULL")]
  | .inList negated operand values =>
    Form.inList negated operand values (operand.render grammar .inner)
  | .inQuery negated operand query =>
    Form.inQuery negated operand (operand.render grammar .inner) (query.render grammar)
  | .call function arguments => do
    return Fragment.call function (← Expr.renderAll grammar .inner arguments)
  | .countAll distinct => .ok (Form.count distinct [.text "*"])
  | .count distinct operand => do
    return Form.count distinct (← operand.render grammar .inner)
  | .case target branches otherwise => do
    let target ← Expr.renderOption grammar target
    let branches ← Branch.renderAll grammar branches
    let otherwise ← Expr.renderOption grammar otherwise
    return Form.caseTarget target ++ branches ++ Form.caseEnd otherwise
  | .subquery query => do
    return Fragment.parenthesised (← query.render grammar)
  | .alias expr name =>
    match position with
    | .entry => do return (← expr.render grammar .inner) ++ [.text " AS ", .name name]
    | .inner => .ok [.name name]
  | .allColumns element =>
    match position with
    | .entry => Form.allColumns element
    | .inner => Refusal.of .nestedAllColumns
  | .extension node => node.render grammar

def Expr.renderAll (grammar : Grammar) (position : Position) :
    List Expr → Except Refusal (List Fragment)
  | [] => .ok []
  | expr :: rest => do
    return (← expr.render grammar position) :: (← Expr.renderAll grammar position rest)

def Expr.renderOption (grammar : Grammar) : Option Expr → Except Refusal (Option Fragment)
  | none => .ok none
  | some expr => do return some (← expr.render grammar .inner)

def Branch.renderAll (grammar : Grammar) : List Branch → Rendering
  | [] => .ok []
  | ⟨condition, result⟩ :: rest => do
    return Form.branch (← condition.render grammar .inner) (← result.render grammar .inner) ++
      (← Branch.renderAll grammar rest)

def Element.render (grammar : Grammar) : Element → Rendering
  | .table name => .ok [.name name]
  | .labelled element label => do
    return (← element.render grammar) ++ [.text " AS ", .name label]
  | .subquery query => do
    return Fragment.parenthesised (← query.render grammar)

def Element.renderOption (grammar : Grammar) : Option Element → Except Refusal (Option Fragment)
  | none => .ok none
  | some element => do return some (← element.render grammar)

def Join.renderAll (grammar : Grammar) : List Join → Rendering
  | [] => .ok []
  | ⟨kind, element, condition⟩ :: rest => do
    return Form.join kind (← element.render grammar) (← condition.render grammar .inner) ++
      (← Join.renderAll grammar rest)

/-- The sort keys with their directions, with NULL where `style` puts it. -/
def Order.renderAll (grammar : Grammar) (style : NullOrder) :
    List Order → Except Refusal (List Fragment)
  | [] => .ok []
  | ⟨expr, descending⟩ :: rest => do
    return Form.order style descending (← expr.render grammar .inner) ::
      (← Order.renderAll grammar style rest)

def Modifier.renderAll (grammar : Grammar) : List Modifier → Rendering
  | [] => .ok []
  | .limit count offset :: rest => do
    return (← Form.limit count offset) ++ (← Modifier.renderAll grammar rest)
  | .extension node :: rest => do
    return (← node.render grammar) ++ (← Modifier.renderAll grammar rest)

/-- The unions of a query, one after the other. The query of a union stands without parentheses,
so its own unions follow it as if they were further unions of the outer query. -/
def Union.renderAll (grammar : Grammar) : List Union → Rendering
  | [] => .ok []
  | ⟨kind, query⟩ :: rest => do
    return Form.union grammar kind (← query.render grammar) ++ (← Union.renderAll grammar rest)

def Query.render (grammar : Grammar) : Query → Rendering
  | ⟨selection, source, joins, filter, grouping, having, order, modifiers, unions⟩ => do
    let entries ← Expr.renderAll grammar .entry selection
    let source ← Form.source (Element.renderOption grammar source) (!joins.isEmpty)
      (Join.renderAll grammar joins)
    let filters ← Expr.renderAll grammar .inner filter
    let groups ← Expr.renderAll grammar .inner grouping
    let havings ← Expr.renderAll grammar .inner having
    let keys ← Order.renderAll grammar grammar.nullOrder order
    let modifiers ← Modifier.renderAll grammar modifiers
    let unions ← Union.renderAll grammar unions
    return Form.selection entries ++ source ++ Form.predicates " WHERE " filter filters ++
      Form.list " GROUP BY " groups ++ Form.predicates " HAVING " having havings ++
      Form.list " ORDER BY " keys ++ modifiers ++ unions

def Extension.render (grammar : Grammar) : Extension → Rendering
  | .interval amount unit => Form.interval unit (amount.render grammar .inner)
  | .extractedInterval date unit offset =>
    Form.extractedInterval unit offset (date.render grammar .inner)
  | .shift direction date amount unit =>
    Form.shift direction (date.render grammar .inner)
      (Form.interval unit (amount.render grammar .inner))
  | .truncate date unit offset =>
    Form.truncation grammar unit offset (date.render grammar .inner)
  | .groupConcat distinct columns order separator => do
    let columns ← Expr.renderAll grammar .inner columns
    let keys ← Order.renderAll grammar .unstated order
    return Form.groupConcat distinct columns keys separator
  | .custom parts => Part.renderAll grammar parts

def Part.renderAll (grammar : Grammar) : List Part → Rendering
  | [] => .ok []
  | .text text :: rest => do return .text text :: (← Part.renderAll grammar rest)
  | .expr expr :: rest => do
    return (← expr.render grammar .inner) ++ (← Part.renderAll grammar rest)
  | .literal value :: rest => do return .value value :: (← Part.renderAll grammar rest)
  | .argument value :: rest => do return .argument value :: (← Part.renderAll grammar rest)
  | .dialectName :: rest => do return .dialectName :: (← Part.renderAll grammar rest)
  | .unsupported construct :: _ => Refusal.of (.custom construct)

end

theorem Expr.renderAll_eq_mapM (grammar : Grammar) (position : Position) (exprs : List Expr) :
    Expr.renderAll grammar position exprs =
      exprs.mapM fun expr => expr.render grammar position := by
  induction exprs with
  | nil => rfl
  | cons expr rest ih => rw [Expr.renderAll, List.mapM_cons, ih]

theorem Expr.renderOption_eq_mapM (grammar : Grammar) (expr : Option Expr) :
    Expr.renderOption grammar expr = expr.mapM fun expr => expr.render grammar .inner := by
  cases expr <;> rfl

theorem Element.renderOption_eq_mapM (grammar : Grammar) (element : Option Element) :
    Element.renderOption grammar element = element.mapM fun element => element.render grammar := by
  cases element <;> rfl

theorem Order.renderAll_eq_mapM (grammar : Grammar) (style : NullOrder) (keys : List Order) :
    Order.renderAll grammar style keys = keys.mapM fun key => do
      return Form.order style key.descending (← key.expr.render grammar .inner) := by
  induction keys with
  | nil => rfl
  | cons key rest ih =>
    obtain ⟨expr, descending⟩ := key
    rw [Order.renderAll, List.mapM_cons, ih]
    simp

namespace Query

/-! ## The clauses of a query -/

variable (grammar : Grammar) (query : Query)

def sourceClause : Rendering :=
  Form.source (Element.renderOption grammar query.source) (!query.joins.isEmpty)
    (Join.renderAll grammar query.joins)

def filterClause : Rendering := do
  return Form.predicates " WHERE " query.filter (← Expr.renderAll grammar .inner query.filter)

def groupingClause : Rendering := do
  return Form.list " GROUP BY " (← Expr.renderAll grammar .inner query.grouping)

def havingClause : Rendering := do
  return Form.predicates " HAVING " query.having (← Expr.renderAll grammar .inner query.having)

def orderClause : Rendering := do
  return Form.list " ORDER BY " (← Order.renderAll grammar grammar.nullOrder query.order)

def modifierClauses : Rendering :=
  Modifier.renderAll grammar query.modifiers

def unionClauses : Rendering :=
  Union.renderAll grammar query.unions

/-- All clauses after the selection, in their fixed order. -/
def clauses : Rendering := do
  return (← sourceClause grammar query) ++ (← filterClause grammar query) ++
    (← groupingClause grammar query) ++ (← havingClause grammar query) ++
    (← orderClause grammar query) ++ (← modifierClauses grammar query) ++
    (← unionClauses grammar query)

/-- A query is its selection followed by its clauses. -/
theorem render_eq_selection_clauses :
    query.render grammar = do
      let entries ← Expr.renderAll grammar .entry query.selection
      return Form.selection entries ++ (← clauses grammar query) := by
  cases query
  simp [Query.render, clauses, sourceClause, filterClause, groupingClause, havingClause,
    orderClause, modifierClauses, unionClauses]

theorem render_unselected :
    ({ query with selection := [] } : Query).render grammar =
      (clauses grammar query >>= fun rest => .ok (Form.selection [] ++ rest)) := by
  rw [render_eq_selection_clauses]
  rfl

end Query

end SqlTree
