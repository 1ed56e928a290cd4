import SqlTree.Dialect

/-! # Fragments

A fragment is a piece-by-piece account of a text: words that are the same in every spelling, and
names and values that each dialect spells in its own way. A fragment does not know where it will
stand. Appending it to a compiled text spells its pieces one after the other; the only thing that a
spelling may ask of what stands before is how many arguments it has.
-/

namespace SqlTree

/-- A piece of a text. `argument` adds an argument and no text. -/
inductive Piece where
  | text (text : String)
  | name (name : Name)
  | value (value : Value)
  | argument (value : Value)
  | dialectName
deriving DecidableEq, Repr, Inhabited

/-- The pieces of a text in order. -/
abbrev Fragment := List Piece

namespace Fragment

/-- The fragments in order with `separator` between them. -/
def separated (separator : String) : List Fragment → Fragment
  | [] => []
  | [last] => last
  | first :: second :: rest => first ++ .text separator :: separated separator (second :: rest)

theorem separated_cons (separator : String) (first : Fragment) (rest : List Fragment) :
    separated separator (first :: rest) =
      first ++ rest.flatMap fun fragment => .text separator :: fragment := by
  induction rest generalizing first with
  | nil => simp [separated]
  | cons second others ih => rw [separated, ih, List.flatMap_cons, List.cons_append]

theorem separated_append (separator : String) {first second : List Fragment} (some : first ≠ [])
    (more : second ≠ []) :
    separated separator (first ++ second) =
      separated separator first ++ .text separator :: separated separator second := by
  obtain ⟨head, tail, rfl⟩ := List.exists_cons_of_ne_nil some
  obtain ⟨next, others, rfl⟩ := List.exists_cons_of_ne_nil more
  rw [List.cons_append, separated_cons, separated_cons, separated_cons, List.flatMap_append,
    List.flatMap_cons, List.append_assoc, List.cons_append]

/-- Fragments that are separated already can stand among others as they are. -/
theorem separated_nested (separator : String) (first : List Fragment) {middle : List Fragment}
    (some : middle ≠ []) (last : List Fragment) :
    separated separator (first ++ separated separator middle :: last) =
      separated separator (first ++ (middle ++ last)) := by
  have front : separated separator (separated separator middle :: last) =
      separated separator (middle ++ last) := by
    obtain ⟨head, tail, rfl⟩ := List.exists_cons_of_ne_nil some
    rw [List.cons_append, separated_cons, separated_cons, separated_cons, List.flatMap_append,
      List.append_assoc]
  by_cases none : first = []
  · rw [none, List.nil_append, List.nil_append, front]
  · have more : middle ++ last ≠ [] := List.append_ne_nil_of_left_ne_nil some last
    rw [separated_append separator none (List.cons_ne_nil _ _),
      separated_append separator none more, front]

theorem separated_flatten (separator : String) (before : List Fragment)
    {nested : List (List Fragment)} (filled : ∀ fragments ∈ nested, fragments ≠ []) :
    separated separator (before ++ nested.map (separated separator)) =
      separated separator (before ++ nested.flatten) := by
  induction nested generalizing before with
  | nil => rfl
  | cons first rest ih =>
    have own : first ≠ [] := filled first List.mem_cons_self
    have others : ∀ fragments ∈ rest, fragments ≠ [] := fun fragments member =>
      filled fragments (List.mem_cons_of_mem first member)
    rw [List.map_cons, separated_nested separator before own, ← List.append_assoc, ih _ others,
      List.append_assoc, List.flatten_cons]

def parenthesised (fragment : Fragment) : Fragment :=
  .text "(" :: fragment ++ [.text ")"]

/-- The fragment, between parentheses if `group` says so. -/
def grouped (group : Bool) (fragment : Fragment) : Fragment :=
  if group then fragment.parenthesised else fragment

def call (function : String) (arguments : List Fragment) : Fragment :=
  .text function :: .text "(" :: separated ", " arguments ++ [.text ")"]

end Fragment

/-- A text for a database, with its arguments in the order of their placeholders. -/
structure Compiled where
  sql : String
  arguments : List Value
deriving DecidableEq, Repr, Inhabited

namespace ValueStyle

/-- How a value is written after `bound` arguments. NULL is a literal in every style. -/
def text (style : ValueStyle) (bound : Nat) (value : Value) : String :=
  if value.isNull then "NULL"
  else
    match style with
    | mark text => text
    | numbered => "$" ++ naturalText (bound + 1)
    | inline => value.inline

/-- The argument that a piece adds, if it adds one. -/
def argument? (style : ValueStyle) : Piece → Option Value
  | .value value => if value.isNull || style == inline then none else some value
  | .argument value => some value
  | _ => none

end ValueStyle

namespace Dialect

/-- The text of a piece after `bound` arguments. -/
def pieceText (dialect : Dialect) (bound : Nat) : Piece → String
  | .text text => text
  | .name name => dialect.spelling.name name
  | .value value => dialect.spelling.values.text bound value
  | .argument _ => ""
  | .dialectName => dialect.name

/-- The text `before`, which has `bound` arguments, followed by the text of the fragment. -/
def appendText (dialect : Dialect) (before : String) (bound : Nat) : Fragment → String
  | [] => before
  | piece :: rest =>
    dialect.appendText (before ++ dialect.pieceText bound piece)
      (bound + (dialect.spelling.values.argument? piece).toList.length) rest

def argumentsOf (dialect : Dialect) (fragment : Fragment) : List Value :=
  fragment.filterMap dialect.spelling.values.argument?

def append (dialect : Dialect) (compiled : Compiled) (fragment : Fragment) : Compiled :=
  { sql := dialect.appendText compiled.sql compiled.arguments.length fragment
    arguments := compiled.arguments ++ dialect.argumentsOf fragment }

/-! ## Appending in turn -/

/-- Appending keeps the text before. -/
theorem appendText_eq (dialect : Dialect) (before : String) (bound : Nat) (fragment : Fragment) :
    dialect.appendText before bound fragment = before ++ dialect.appendText "" bound fragment := by
  induction fragment generalizing before bound with
  | nil => simp [appendText]
  | cons piece rest ih =>
    rw [appendText, appendText, ih, ih ("" ++ _)]
    simp [String.append_assoc]

@[simp] theorem argumentsOf_append (dialect : Dialect) (first second : Fragment) :
    dialect.argumentsOf (first ++ second) =
      dialect.argumentsOf first ++ dialect.argumentsOf second :=
  List.filterMap_append

theorem argumentsOf_cons (dialect : Dialect) (piece : Piece) (rest : Fragment) :
    dialect.argumentsOf (piece :: rest) =
      dialect.argumentsOf [piece] ++ dialect.argumentsOf rest :=
  dialect.argumentsOf_append [piece] rest

/-- The text of a fragment is the text of its first piece followed by that of the others. -/
theorem appendText_cons (dialect : Dialect) (bound : Nat) (piece : Piece) (rest : Fragment) :
    dialect.appendText "" bound (piece :: rest) = dialect.pieceText bound piece ++
      dialect.appendText "" (bound + (dialect.argumentsOf [piece]).length) rest := by
  have size : (dialect.argumentsOf [piece]).length =
      (dialect.spelling.values.argument? piece).toList.length := by
    cases given : dialect.spelling.values.argument? piece <;> simp [argumentsOf, given]
  rw [appendText, String.empty_append, appendText_eq, size]

/-- Placeholders in the second fragment are numbered after the arguments of the first. -/
theorem appendText_append (dialect : Dialect) (before : String) (bound : Nat)
    (first second : Fragment) :
    dialect.appendText before bound (first ++ second) =
      dialect.appendText (dialect.appendText before bound first)
        (bound + (dialect.argumentsOf first).length) second := by
  induction first generalizing before bound with
  | nil => rfl
  | cons piece rest ih =>
    rw [List.cons_append, appendText, appendText, ih, argumentsOf, argumentsOf,
      List.filterMap_cons]
    cases dialect.spelling.values.argument? piece with
    | none => rfl
    | some _ => simp [Nat.add_assoc, Nat.add_comm 1]

/-- Appending one fragment and then another appends the two together. -/
theorem append_append (dialect : Dialect) (compiled : Compiled) (first second : Fragment) :
    dialect.append (dialect.append compiled first) second =
      dialect.append compiled (first ++ second) := by
  simp [append, appendText_append]

end Dialect

end SqlTree
