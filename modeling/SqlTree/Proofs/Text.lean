import SqlTree.Compile

/-! # The text of a fragment

A dialect that writes the same mark for every value writes a fragment as the same text wherever it
stands. The text of a fragment is then made of the texts of its parts.
-/

namespace SqlTree.Dialect

/-- The text of a fragment on its own. -/
def text (dialect : Dialect) (fragment : Fragment) : String :=
  dialect.appendText "" 0 fragment

/-- A rendering on its own is compiled to its text and its arguments. -/
theorem appendRendering_empty (dialect : Dialect) (rendering : Rendering) :
    dialect.appendRendering ⟨"", []⟩ rendering =
      (dialect.refuse rendering).map fun fragment =>
        ⟨dialect.text fragment, dialect.argumentsOf fragment⟩ := by
  cases rendering <;> rfl

/-- Renderings on their own are compiled one by one, and refused like the first that is. -/
theorem mapM_appendRendering (dialect : Dialect) {α : Type} (render : α → Rendering)
    (members : List α) :
    (members.mapM fun member => dialect.appendRendering ⟨"", []⟩ (render member)) =
      (dialect.refuse (members.mapM render)).map fun fragments =>
        fragments.map fun fragment => ⟨dialect.text fragment, dialect.argumentsOf fragment⟩ := by
  induction members with
  | nil => rfl
  | cons member rest ih =>
    rw [List.mapM_cons, List.mapM_cons, ih, appendRendering_empty]
    cases render member with
    | error refusal => rfl
    | ok fragment => cases rest.mapM render <;> rfl

def compileExpr (dialect : Dialect) (expr : Expr) : Except CompileError Compiled :=
  dialect.appendRendering ⟨"", []⟩ (expr.render dialect.grammar .inner)

theorem exists_appendRendering_eq_ok {dialect : Dialect} {rendering : Rendering} :
    (∃ compiled, dialect.appendRendering ⟨"", []⟩ rendering = .ok compiled) ↔
      ∃ fragment, rendering = .ok fragment := by
  cases rendering with
  | error refusal => exact ⟨nofun, nofun⟩
  | ok fragment => exact ⟨fun _ => ⟨fragment, rfl⟩, fun _ => ⟨_, rfl⟩⟩

theorem appendRendering_eq_error {dialect : Dialect} {compiled : Compiled} {rendering : Rendering}
    {refusal : Refusal} :
    dialect.appendRendering compiled rendering = .error ⟨dialect.name, refusal⟩ ↔
      rendering = .error refusal := by
  cases rendering with
  | error given =>
    rw [appendRendering_error, Except.error.injEq, CompileError.mk.injEq, Except.error.injEq]
    exact and_iff_right rfl
  | ok fragment => exact ⟨nofun, nofun⟩

@[simp] theorem text_nil (dialect : Dialect) : dialect.text [] = "" := rfl

theorem text_singleton (dialect : Dialect) (piece : Piece) :
    dialect.text [piece] = dialect.pieceText 0 piece :=
  String.empty_append

section

variable {dialect : Dialect} {mark : String} (marked : dialect.spelling.values = .mark mark)

include marked

private theorem pieceText_eq_zero (bound : Nat) (piece : Piece) :
    dialect.pieceText bound piece = dialect.pieceText 0 piece := by
  cases piece <;> simp [pieceText, ValueStyle.text, marked]

theorem pieceText_value (bound : Nat) (value : Value) :
    dialect.pieceText bound (.value value) = if value.isNull then "NULL" else mark := by
  simp [pieceText, ValueStyle.text, marked]

theorem appendText_eq_text (bound : Nat) (fragment : Fragment) :
    dialect.appendText "" bound fragment = dialect.text fragment := by
  suffices general : ∀ other : Nat,
      dialect.appendText "" bound fragment = dialect.appendText "" other fragment from general 0
  intro other
  induction fragment generalizing bound other with
  | nil => rfl
  | cons piece rest ih =>
    rw [appendText_cons, appendText_cons, pieceText_eq_zero marked, pieceText_eq_zero marked other,
      ih]

theorem text_cons (piece : Piece) (rest : Fragment) :
    dialect.text (piece :: rest) = dialect.pieceText 0 piece ++ dialect.text rest := by
  rw [text, appendText_cons, appendText_eq_text marked]

theorem text_append (first second : Fragment) :
    dialect.text (first ++ second) = dialect.text first ++ dialect.text second := by
  rw [text, appendText_append, appendText_eq, appendText_eq_text marked,
    appendText_eq_text marked]

theorem text_separated (separator : String) (fragments : List Fragment) :
    dialect.text (Fragment.separated separator fragments) =
      separator.intercalate (fragments.map dialect.text) := by
  induction fragments with
  | nil => simp [Fragment.separated]
  | cons first rest ih =>
    cases rest with
    | nil => simp [Fragment.separated]
    | cons second others =>
      rw [Fragment.separated, text_append marked, text_cons marked, ih]
      simp only [List.map_cons, String.intercalate_cons_cons, String.append_assoc]
      rfl

theorem text_parenthesised (fragment : Fragment) :
    dialect.text fragment.parenthesised = "(" ++ dialect.text fragment ++ ")" := by
  rw [Fragment.parenthesised, List.cons_append, text_cons marked, text_append marked,
    text_singleton, ← String.append_assoc]
  rfl

theorem text_call (function : String) (arguments : List Fragment) :
    dialect.text (Fragment.call function arguments) =
      function ++ "(" ++ ", ".intercalate (arguments.map dialect.text) ++ ")" := by
  rw [Fragment.call, List.cons_append, List.cons_append, text_cons marked, text_cons marked,
    text_append marked, text_separated marked, text_singleton]
  simp only [pieceText, String.append_assoc]

end

end SqlTree.Dialect
