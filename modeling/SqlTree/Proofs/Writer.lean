import SqlTree.Proofs.Outcome
import SqlTree.Proofs.Text

/-! # Writers

A writer takes what is compiled so far, adds to it and hands it on, or fails. A writer sees what
stands before it; a rendering does not. Spelling turns a rendering into a writer, and two
renderings spelled in turn are their fragments spelled as one. So a writer that is made of spelled
renderings spells a rendering too, and what it adds does not depend on what stands before it.
-/

namespace SqlTree

/-- Takes what is compiled so far and adds to it, or fails. -/
abbrev Writer := Compiled → Except CompileError Compiled

def Writer.nothing : Writer := .ok

namespace Dialect

variable (dialect : Dialect)

/-- Writes a piece: its text at the end of the text and its argument, if it has one, as the last
of the arguments. -/
def push (piece : Piece) : Writer := fun before =>
  .ok {
    sql := before.sql ++ dialect.pieceText before.arguments.length piece
    arguments := before.arguments ++ (dialect.spelling.values.argument? piece).toList }

/-- Goes on with a result, or fails with a refusal. -/
def unlessRefused {α : Type} (result : Except Refusal α) (next : α → Writer) : Writer :=
  fun before => do next (← dialect.refuse result) before

def reject (refusal : Refusal) : Writer := fun _ =>
  .error ⟨dialect.name, refusal⟩

def spell (rendering : Rendering) : Writer := fun before =>
  dialect.appendRendering before rendering

theorem spell_pure (fragment : Fragment) (before : Compiled) :
    dialect.spell (pure fragment) before = .ok (dialect.append before fragment) := rfl

@[simp] theorem push_eq_spell (piece : Piece) :
    dialect.push piece = dialect.spell (pure [piece]) := by
  funext before
  cases given : dialect.spelling.values.argument? piece <;>
    simp [push, spell_pure, append, appendText, argumentsOf, given]

@[simp] theorem reject_eq_spell (refusal : Refusal) :
    dialect.reject refusal = dialect.spell (.error refusal) := rfl

theorem nothing_eq_spell : Writer.nothing = dialect.spell (pure []) := by
  funext before
  simp [Writer.nothing, spell_pure, append, appendText, argumentsOf]

/-- Two renderings spelled in turn are their fragments spelled as one. The second is looked at only
if the first is not refused. -/
@[simp] theorem spell_comp (first second : Rendering) :
    (dialect.spell first >=> dialect.spell second) =
      dialect.spell (do return (← first) ++ (← second)) := by
  funext before
  cases first with
  | error refusal => rfl
  | ok fragment =>
    cases second with
    | error refusal => rfl
    | ok added => exact congrArg Except.ok (dialect.append_append before fragment added)

@[simp] theorem unlessRefused_spell {α : Type} (result : Except Refusal α) (next : α → Rendering) :
    (dialect.unlessRefused result fun value => dialect.spell (next value)) =
      dialect.spell (result >>= next) := by
  cases result <;> rfl

end Dialect

namespace Writer

variable (dialect : Dialect)

/-- The writers in turn, with `separator` between them. -/
def separated (separator : String) : List Writer → Writer
  | [] => nothing
  | [last] => last
  | first :: second :: rest =>
    first >=> dialect.push (.text separator) >=> separated separator (second :: rest)

def parenthesised (writer : Writer) : Writer :=
  dialect.push (.text "(") >=> writer >=> dialect.push (.text ")")

/-- The writer, between parentheses if `group` says so. -/
def grouped (group : Bool) (writer : Writer) : Writer :=
  if group then parenthesised dialect writer else writer

def call (function : String) (arguments : List Writer) : Writer :=
  dialect.push (.text function) >=> dialect.push (.text "(") >=>
    separated dialect ", " arguments >=> dialect.push (.text ")")

@[simp] theorem separated_spell {α : Type} (separator : String) (render : α → Rendering)
    (members : List α) :
    separated dialect separator (members.map fun member => dialect.spell (render member)) =
      dialect.spell (Fragment.separated separator <$> members.mapM render) := by
  induction members with
  | nil => exact dialect.nothing_eq_spell
  | cons first rest ih =>
    cases rest with
    | nil =>
      rw [List.map_singleton, List.mapM_cons, List.mapM_nil, separated]
      cases render first <;> rfl
    | cons second others =>
      rw [List.map_cons] at ih
      rw [List.map_cons, List.map_cons, separated, ih]
      simp only [Dialect.push_eq_spell, Dialect.spell_comp, List.mapM_cons]
      cases render first with
      | error refusal => rfl
      | ok fragment =>
        cases render second with
        | error refusal => rfl
        | ok next => cases others.mapM render <;> rfl

/-- A part that is written several times is looked at once. -/
theorem separated_copies {α : Type} (separator : String) (form : α → Fragment → Fragment)
    {members : List α} (some : members ≠ []) (rendered : Rendering) :
    separated dialect separator
        (members.map fun member => dialect.spell (form member <$> rendered)) =
      dialect.spell ((fun fragment =>
        Fragment.separated separator (members.map fun member => form member fragment)) <$>
          rendered) := by
  rw [separated_spell, mapM_copies form some]
  cases rendered <;> rfl

@[simp] theorem grouped_spell (group : Bool) (rendered : Rendering) :
    grouped dialect group (dialect.spell rendered) =
      dialect.spell (Fragment.grouped group <$> rendered) := by
  cases group with
  | false => exact congrArg dialect.spell (id_map rendered).symm
  | true =>
    simp only [grouped, parenthesised, if_true, Dialect.push_eq_spell, Dialect.spell_comp]
    cases rendered <;> rfl

@[simp] theorem parenthesised_spell (rendered : Rendering) :
    parenthesised dialect (dialect.spell rendered) =
      dialect.spell (Fragment.parenthesised <$> rendered) :=
  grouped_spell dialect true rendered

@[simp] theorem call_spell {α : Type} (function : String) (render : α → Rendering)
    (members : List α) :
    call dialect function (members.map fun member => dialect.spell (render member)) =
      dialect.spell (Fragment.call function <$> members.mapM render) := by
  simp only [call, separated_spell, Dialect.push_eq_spell, Dialect.spell_comp]
  cases members.mapM render <;> rfl

theorem call_single (function : String) (argument : Rendering) :
    call dialect function [dialect.spell argument] =
      dialect.spell ((fun fragment => Fragment.call function [fragment]) <$> argument) := by
  simp [call, separated, Fragment.call, Fragment.separated]

end Writer

end SqlTree
