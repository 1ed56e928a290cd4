import SqlTree.Statement

/-! # The nodes of a tree

Every expression, element, query and vendor node that a tree is made of, the tree itself first. A
condition on all parts of a statement, at every depth, is a condition on its list of nodes. The
body of an alias and the element behind `T.*` count as parts, although their text does not show
them everywhere.
-/

namespace SqlTree

/-- A part of a tree. -/
inductive Node where
  | expr (expr : Expr)
  | element (element : Element)
  | query (query : Query)
  | extension (node : Extension)

mutual

def Expr.nodes : Expr → List Node
  | .literal value => [.expr (.literal value)]
  | .named name => [.expr (.named name)]
  | .binary op left right => .expr (.binary op left right) :: left.nodes ++ right.nodes
  | .not operand => .expr (.not operand) :: operand.nodes
  | .isNull negated operand => .expr (.isNull negated operand) :: operand.nodes
  | .inList negated operand values => .expr (.inList negated operand values) :: operand.nodes
  | .inQuery negated operand query =>
    .expr (.inQuery negated operand query) :: operand.nodes ++ query.nodes
  | .call function arguments => .expr (.call function arguments) :: Expr.nodesOfAll arguments
  | .countAll distinct => [.expr (.countAll distinct)]
  | .count distinct operand => .expr (.count distinct operand) :: operand.nodes
  | .case target branches otherwise =>
    .expr (.case target branches otherwise) :: Expr.nodesOfOption target ++
      Branch.nodesOfAll branches ++ Expr.nodesOfOption otherwise
  | .subquery query => .expr (.subquery query) :: query.nodes
  | .alias expr name => .expr (.alias expr name) :: expr.nodes
  | .allColumns element => .expr (.allColumns element) :: element.nodes
  | .extension node => .expr (.extension node) :: node.nodes

def Expr.nodesOfAll : List Expr → List Node
  | [] => []
  | expr :: rest => expr.nodes ++ Expr.nodesOfAll rest

def Expr.nodesOfOption : Option Expr → List Node
  | none => []
  | some expr => expr.nodes

def Branch.nodesOfAll : List Branch → List Node
  | [] => []
  | ⟨condition, result⟩ :: rest => condition.nodes ++ result.nodes ++ Branch.nodesOfAll rest

def Element.nodes : Element → List Node
  | .table name => [.element (.table name)]
  | .labelled element label => .element (.labelled element label) :: element.nodes
  | .subquery query => .element (.subquery query) :: query.nodes

def Element.nodesOfOption : Option Element → List Node
  | none => []
  | some element => element.nodes

def Join.nodesOfAll : List Join → List Node
  | [] => []
  | ⟨_, element, condition⟩ :: rest => element.nodes ++ condition.nodes ++ Join.nodesOfAll rest

def Order.nodesOfAll : List Order → List Node
  | [] => []
  | ⟨expr, _⟩ :: rest => expr.nodes ++ Order.nodesOfAll rest

def Modifier.nodesOfAll : List Modifier → List Node
  | [] => []
  | .limit _ _ :: rest => Modifier.nodesOfAll rest
  | .extension node :: rest => node.nodes ++ Modifier.nodesOfAll rest

def Union.nodesOfAll : List Union → List Node
  | [] => []
  | ⟨_, query⟩ :: rest => query.nodes ++ Union.nodesOfAll rest

def Query.nodes : Query → List Node
  | ⟨selection, source, joins, filter, grouping, having, order, modifiers, unions⟩ =>
    .query ⟨selection, source, joins, filter, grouping, having, order, modifiers, unions⟩ ::
      Expr.nodesOfAll selection ++ Element.nodesOfOption source ++ Join.nodesOfAll joins ++
      Expr.nodesOfAll filter ++ Expr.nodesOfAll grouping ++ Expr.nodesOfAll having ++
      Order.nodesOfAll order ++ Modifier.nodesOfAll modifiers ++ Union.nodesOfAll unions

def Extension.nodes : Extension → List Node
  | .interval amount unit => .extension (.interval amount unit) :: amount.nodes
  | .extractedInterval date unit offset =>
    .extension (.extractedInterval date unit offset) :: date.nodes
  | .shift direction date amount unit =>
    .extension (.shift direction date amount unit) :: date.nodes ++ amount.nodes
  | .truncate date unit offset => .extension (.truncate date unit offset) :: date.nodes
  | .groupConcat distinct columns order separator =>
    .extension (.groupConcat distinct columns order separator) :: Expr.nodesOfAll columns ++
      Order.nodesOfAll order
  | .custom parts => .extension (.custom parts) :: Part.nodesOfAll parts

def Part.nodesOfAll : List Part → List Node
  | [] => []
  | .expr expr :: rest => expr.nodes ++ Part.nodesOfAll rest
  | .text _ :: rest | .literal _ :: rest | .argument _ :: rest | .dialectName :: rest
  | .unsupported _ :: rest => Part.nodesOfAll rest

end

def Assignments.nodes (assignments : Assignments Expr) : List Node :=
  assignments.flatMap fun assignment => assignment.2.nodes

def Statement.nodes : Statement → List Node
  | .query selected => selected.nodes
  | .insert _ => []
  | .insertQuery inserted => inserted.query.nodes
  | .update change => change.assignments.nodes ++ change.rows.nodes
  | .delete deletion => deletion.rows.nodes

/-! ## Nodes of nodes -/

/-- The nodes of the part that a node is. -/
def Node.nodes : Node → List Node
  | .expr tree => tree.nodes
  | .element source => source.nodes
  | .query rows => rows.nodes
  | .extension part => part.nodes

/-- The nodes of each of the nodes are among them. -/
def HoldsParts (nodes : List Node) : Prop :=
  ∀ node ∈ nodes, node.nodes ⊆ nodes

namespace HoldsParts

variable {nodes others : List Node}

theorem nil : HoldsParts [] := nofun

theorem append (first : HoldsParts nodes) (second : HoldsParts others) :
    HoldsParts (nodes ++ others) := by
  intro node member
  rcases List.mem_append.mp member with inFirst | inSecond
  · exact List.subset_append_of_subset_left others (first node inFirst)
  · exact List.subset_append_of_subset_right nodes (second node inSecond)

/-- A node in front whose nodes all these are. -/
theorem cons {node : Node} (own : node.nodes = node :: nodes) (inner : HoldsParts nodes) :
    HoldsParts (node :: nodes) := by
  intro other member
  rcases List.mem_cons.mp member with rfl | inside
  · rw [own]
    exact List.Subset.refl _
  · exact List.subset_cons_of_subset node (inner other inside)

end HoldsParts

mutual

theorem Expr.holdsParts : (expr : Expr) → HoldsParts expr.nodes
  | .literal _ => .cons rfl .nil
  | .named _ => .cons rfl .nil
  | .binary _ left right => .cons rfl (left.holdsParts.append right.holdsParts)
  | .not operand => .cons rfl operand.holdsParts
  | .isNull _ operand => .cons rfl operand.holdsParts
  | .inList _ operand _ => .cons rfl operand.holdsParts
  | .inQuery _ operand query => .cons rfl (operand.holdsParts.append query.holdsParts)
  | .call _ arguments => .cons rfl (Expr.holdsParts_all arguments)
  | .countAll _ => .cons rfl .nil
  | .count _ operand => .cons rfl operand.holdsParts
  | .case target branches otherwise =>
    .cons rfl (((Expr.holdsParts_option target).append (Branch.holdsParts_all branches)).append
      (Expr.holdsParts_option otherwise))
  | .subquery query => .cons rfl query.holdsParts
  | .alias expr _ => .cons rfl expr.holdsParts
  | .allColumns element => .cons rfl element.holdsParts
  | .extension node => .cons rfl node.holdsParts

theorem Expr.holdsParts_all : (exprs : List Expr) → HoldsParts (Expr.nodesOfAll exprs)
  | [] => .nil
  | expr :: rest => expr.holdsParts.append (Expr.holdsParts_all rest)

theorem Expr.holdsParts_option : (expr : Option Expr) → HoldsParts (Expr.nodesOfOption expr)
  | none => .nil
  | some expr => expr.holdsParts

theorem Branch.holdsParts_all : (branches : List Branch) → HoldsParts (Branch.nodesOfAll branches)
  | [] => .nil
  | ⟨condition, result⟩ :: rest =>
    (condition.holdsParts.append result.holdsParts).append (Branch.holdsParts_all rest)

theorem Element.holdsParts : (element : Element) → HoldsParts element.nodes
  | .table _ => .cons rfl .nil
  | .labelled element _ => .cons rfl element.holdsParts
  | .subquery query => .cons rfl query.holdsParts

theorem Element.holdsParts_option :
    (element : Option Element) → HoldsParts (Element.nodesOfOption element)
  | none => .nil
  | some element => element.holdsParts

theorem Join.holdsParts_all : (joins : List Join) → HoldsParts (Join.nodesOfAll joins)
  | [] => .nil
  | ⟨_, element, condition⟩ :: rest =>
    (element.holdsParts.append condition.holdsParts).append (Join.holdsParts_all rest)

theorem Order.holdsParts_all : (order : List Order) → HoldsParts (Order.nodesOfAll order)
  | [] => .nil
  | ⟨expr, _⟩ :: rest => expr.holdsParts.append (Order.holdsParts_all rest)

theorem Modifier.holdsParts_all :
    (modifiers : List Modifier) → HoldsParts (Modifier.nodesOfAll modifiers)
  | [] => .nil
  | .limit _ _ :: rest => Modifier.holdsParts_all rest
  | .extension node :: rest => node.holdsParts.append (Modifier.holdsParts_all rest)

theorem Union.holdsParts_all : (unions : List Union) → HoldsParts (Union.nodesOfAll unions)
  | [] => .nil
  | ⟨_, query⟩ :: rest => query.holdsParts.append (Union.holdsParts_all rest)

theorem Query.holdsParts : (query : Query) → HoldsParts query.nodes
  | ⟨selection, source, joins, filter, grouping, having, order, modifiers, unions⟩ => by
    have rows := (Expr.holdsParts_all selection).append (Element.holdsParts_option source)
    have picked := (rows.append (Join.holdsParts_all joins)).append (Expr.holdsParts_all filter)
    have grouped :=
      (picked.append (Expr.holdsParts_all grouping)).append (Expr.holdsParts_all having)
    have sorted := grouped.append (Order.holdsParts_all order)
    have whole :=
      (sorted.append (Modifier.holdsParts_all modifiers)).append (Union.holdsParts_all unions)
    exact .cons rfl whole

theorem Extension.holdsParts : (node : Extension) → HoldsParts node.nodes
  | .interval amount _ => .cons rfl amount.holdsParts
  | .extractedInterval date _ _ => .cons rfl date.holdsParts
  | .shift _ date amount _ => .cons rfl (date.holdsParts.append amount.holdsParts)
  | .truncate date _ _ => .cons rfl date.holdsParts
  | .groupConcat _ columns order _ =>
    .cons rfl ((Expr.holdsParts_all columns).append (Order.holdsParts_all order))
  | .custom parts => .cons rfl (Part.holdsParts_all parts)

theorem Part.holdsParts_all : (parts : List Part) → HoldsParts (Part.nodesOfAll parts)
  | [] => .nil
  | .expr expr :: rest => expr.holdsParts.append (Part.holdsParts_all rest)
  | .text _ :: rest => Part.holdsParts_all rest
  | .literal _ :: rest => Part.holdsParts_all rest
  | .argument _ :: rest => Part.holdsParts_all rest
  | .dialectName :: rest => Part.holdsParts_all rest
  | .unsupported _ :: rest => Part.holdsParts_all rest

end

/-- What is asked of all nodes of a statement is asked of all nodes of each of them. -/
theorem Statement.holdsParts (statement : Statement) : HoldsParts statement.nodes := by
  have assigned (assignments : Assignments Expr) : HoldsParts assignments.nodes := by
    induction assignments with
    | nil => exact .nil
    | cons entry rest ih => exact entry.2.holdsParts.append ih
  cases statement with
  | query selected => exact selected.holdsParts
  | insert inserted => exact .nil
  | insertQuery inserted => exact inserted.query.holdsParts
  | update change => exact (assigned change.assignments).append change.rows.holdsParts
  | delete deletion => exact deletion.rows.holdsParts

end SqlTree
