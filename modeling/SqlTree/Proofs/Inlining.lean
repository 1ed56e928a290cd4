import SqlTree.Proofs.Placeholder

/-! # Inlining in several passes

Putting arguments into a text leaves a text that later arguments can be put into: a literal that
has taken the place of a placeholder is closed, so a reader that comes to it outside quotes leaves
it outside quotes and finds no placeholder in it, whatever texts and bytes it stands for. Two
passes therefore give what one pass with all arguments gives (`inlined_append`), for every text,
also one whose last quotes are never closed.
-/

namespace SqlTree

namespace Region

/-- The text with its placeholders replaced by the literals of `values` in turn. -/
def withValues (region : Region) (values : List Value) (text : List Char) : List Char :=
  (region.appendInlined values "" text).toList

@[simp] theorem withValues_nil (region : Region) (values : List Value) :
    region.withValues values [] = [] := rfl

private theorem withValues_text {region : Region} {c : Char} (kept : region.isPlaceholder c = false)
    (values : List Value) (rest : List Char) :
    region.withValues values (c :: rest) = c :: (region.next c).withValues values rest := by
  rw [withValues, appendInlined.eq_def]
  dsimp only
  rw [if_neg (by simp [kept]), appendInlined_eq]
  simp [withValues]

private theorem withValues_placeholder {region : Region} {c : Char} (marks : region.isPlaceholder c = true)
    (value : Value) (others : List Value) (rest : List Char) :
    region.withValues (value :: others) (c :: rest) =
      value.inline.toList ++ region.withValues others rest := by
  rw [withValues, appendInlined, if_pos marks, appendInlined_eq]
  simp [withValues]

/-- A placeholder is met outside quotes and leaves the reader there. -/
theorem next_placeholder {region : Region} {c : Char} (marks : region.isPlaceholder c = true) :
    region = outside ∧ region.next c = outside := by
  simp only [isPlaceholder, Bool.and_eq_true, beq_iff_eq] at marks
  obtain ⟨rfl, rfl⟩ := marks
  exact ⟨rfl, rfl⟩

/-- Without values a text stays as it is. -/
theorem withValues_none (region : Region) (text : List Char) :
    region.withValues [] text = text := by
  induction text generalizing region with
  | nil => rfl
  | cons c rest ih =>
    cases marks : region.isPlaceholder c with
    | false => rw [withValues_text marks, ih]
    | true =>
      rw [withValues, appendInlined, if_pos marks, appendInlined_eq]
      simpa [withValues] using ih region

/-- Values are put into what follows a closed text as if it stood alone. -/
private theorem withValues_closed {text : List Char} (closed : Closed text) (values : List Value)
    (rest : List Char) :
    outside.withValues values (text ++ rest) = text ++ outside.withValues values rest := by
  rw [withValues, appendInlined_closed closed, appendInlined_eq]
  simp [withValues]

/-- Literals leave a reader in the region that their placeholders leave it in. -/
private theorem after_withValues (region : Region) (values : List Value) (text : List Char) :
    region.after (region.withValues values text) = region.after text := by
  induction text generalizing region values with
  | nil => rfl
  | cons c rest ih =>
    cases marks : region.isPlaceholder c with
    | false =>
      rw [withValues_text marks]
      exact ih (region.next c) values
    | true =>
      obtain ⟨rfl, stays⟩ := next_placeholder marks
      cases values with
      | nil => rw [withValues_none]
      | cons value others =>
        have skipped : outside.after (c :: rest) = outside.after rest := by
          rw [after, List.foldl_cons, stays, ← after]
        rw [withValues_placeholder marks, after_append, value.closed_inline.1, ih, skipped]

/-- Each value takes away one placeholder, as long as there are any, and brings none. -/
private theorem addPlaceholders_withValues (region : Region) (values : List Value) (text : List Char) :
    region.addPlaceholders 0 (region.withValues values text) =
      region.addPlaceholders 0 text - values.length := by
  induction text generalizing region values with
  | nil => simp [addPlaceholders]
  | cons c rest ih =>
    cases marks : region.isPlaceholder c with
    | false =>
      rw [withValues_text marks, addPlaceholders, addPlaceholders]
      simpa [marks] using ih (region.next c) values
    | true =>
      obtain ⟨rfl, stays⟩ := next_placeholder marks
      cases values with
      | nil => rw [withValues_none, List.length_nil, Nat.sub_zero]
      | cons value others =>
        have counted : outside.addPlaceholders 0 (c :: rest) =
            1 + outside.addPlaceholders 0 rest := by
          rw [addPlaceholders, stays, if_pos marks, addPlaceholders_eq]
        rw [withValues_placeholder marks, addPlaceholders_append, value.closed_inline.1,
          value.closed_inline.2, ih, counted, List.length_cons]
        omega

/-- What is left over after the first values takes the second ones. -/
theorem withValues_append (region : Region) (first second : List Value) (text : List Char) :
    region.withValues (first ++ second) text =
      region.withValues second (region.withValues first text) := by
  induction text generalizing region first with
  | nil => rfl
  | cons c rest ih =>
    cases marks : region.isPlaceholder c with
    | false => rw [withValues_text marks, withValues_text marks, withValues_text marks, ih]
    | true =>
      obtain ⟨rfl, -⟩ := next_placeholder marks
      cases first with
      | nil => rw [withValues_none, List.nil_append]
      | cons value others =>
        rw [List.cons_append, withValues_placeholder marks, withValues_placeholder marks,
          withValues_closed value.closed_inline, ih]

end Region

namespace Compiled

private theorem toList_inlined (compiled : Compiled) :
    compiled.inlined.toList = Region.outside.withValues compiled.arguments compiled.sql.toList :=
  rfl

/-- Inlining some arguments and then others gives what inlining all of them at once gives, in every
text. Each argument takes away one placeholder as long as there are any, and a reader ends up in
the same region, so that literals neither bring a placeholder nor hide one. -/
theorem inlined_append (sql : String) (first second : List Value) :
    inlined ⟨sql, first ++ second⟩ = inlined ⟨inlined ⟨sql, first⟩, second⟩ ∧
      (∀ others, placeholderCount ⟨inlined ⟨sql, first⟩, others⟩ =
        placeholderCount ⟨sql, first⟩ - first.length) ∧
      Region.outside.after (inlined ⟨sql, first⟩).toList = Region.outside.after sql.toList := by
  refine ⟨?_, fun others => ?_, ?_⟩
  · refine String.toList_injective ?_
    rw [toList_inlined, toList_inlined, toList_inlined]
    exact Region.withValues_append _ _ _ _
  · exact Region.addPlaceholders_withValues _ _ _
  · exact Region.after_withValues _ _ _

/-- A text may end inside quotes, and literals may hold quotes and question marks. -/
example :
    inlined ⟨"a = ? AND b = 'x?' AND c = ? AND d = \"?", [.text "?'\"", .null]⟩ =
      "a = '?''\"' AND b = 'x?' AND c = NULL AND d = \"?" := by
  decide

end Compiled

end SqlTree
