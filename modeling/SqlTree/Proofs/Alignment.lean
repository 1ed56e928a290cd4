import SqlTree.Proofs.Alike.Render

/-! # Placeholders and arguments

A compiled text read from its beginning has a placeholder for every argument and ends outside
quotes (`compile_aligned`); putting the arguments into it as literals gives the text that a dialect
writes which puts them there itself (`compile_inlining`). Both hold whatever the identifiers,
labels and values are, and for each dialect of the library. Functions are assumed to have names
without quotes and question marks, and custom nodes, which write texts of their own, are left out.
-/

namespace SqlTree

private theorem isUnmarked_of_structuralMarks {text : String}
    (only : ∀ c ∈ structuralMarks text, c = '(' ∨ c = ')') : IsUnmarked text := by
  intro c member
  refine Bool.eq_false_iff.mpr fun mark => ?_
  have listed : c ∈ structuralMarks text := List.mem_filter.mpr ⟨member, by simp [mark]⟩
  rcases only c listed with rfl | rfl <;> exact absurd mark (by decide)

/-- A piece that a reader passes over, or a value. -/
def Piece.Passed : Piece → Prop
  | .text words => Region.Closed words.toList
  | .name _ | .value _ => True
  | .argument _ | .dialectName => False

/-- Readers pass over all texts of a fragment with functions that they pass over. -/
private theorem Fragment.Alike.passed {same : Value → Value → Prop} {fragment other : Fragment}
    (alike : Fragment.Alike IsUnmarked same fragment other) : ∀ piece ∈ fragment, piece.Passed := by
  have unmarked {text : String} (only : ∀ c ∈ structuralMarks text, c = '(' ∨ c = ')') :
      (Piece.text text).Passed :=
    Region.closed_of_unmarked (isUnmarked_of_structuralMarks only)
  induction alike with
  | nil => simp
  | append _ _ before rest => exact List.forall_mem_append.mpr ⟨before, rest⟩
  | words plain => exact List.forall_mem_singleton.mpr (unmarked (by simp [plain]))
  | function named => exact List.forall_mem_singleton.mpr (Region.closed_of_unmarked named)
  | name name => exact List.forall_mem_singleton.mpr trivial
  | value _ => exact List.forall_mem_singleton.mpr trivial
  | setting value => exact List.forall_mem_singleton.mpr trivial
  | enclosed opens closes _ inner =>
    refine List.forall_mem_append.mpr ⟨List.forall_mem_cons.mpr ⟨?_, inner⟩, ?_⟩
    · exact unmarked (by simp [opens])
    · exact List.forall_mem_singleton.mpr (unmarked (by simp [closes]))
  | joined _ apart =>
    obtain ⟨before, first, second, after⟩ : _ ∧ _ ∧ _ ∧ _ := by
      simpa only [List.forall_mem_append, List.forall_mem_cons] using apart
    refine List.forall_mem_append.mpr ⟨before, List.forall_mem_cons.mpr ⟨?_, after⟩⟩
    simpa only [Piece.Passed, String.toList_append] using Region.Closed.append first second

namespace Dialect

/-- The dialect that is the same except that it writes values as literals. -/
def inlining (dialect : Dialect) : Dialect :=
  { dialect with spelling := { dialect.spelling with values := .inline } }

private theorem argumentsOf_inlining (dialect : Dialect) {fragment : Fragment}
    (passed : ∀ piece ∈ fragment, piece.Passed) :
    dialect.inlining.argumentsOf fragment = [] := by
  refine List.filterMap_eq_nil_iff.mpr fun piece member => ?_
  cases piece with
  | argument value => exact (passed _ member).elim
  | value value => simp [inlining, ValueStyle.argument?]
  | text _ | name _ | dialectName => rfl

end Dialect

namespace Dialect.Conventional

variable {dialect : Dialect} (conventional : dialect.Conventional)

include conventional

/-- A piece has as many placeholders as arguments and leaves a reader outside quotes. -/
theorem pieceText_aligned (bound : Nat) {piece : Piece} (passed : piece.Passed) :
    Region.outside.after (dialect.pieceText bound piece).toList = .outside ∧
      Region.outside.addPlaceholders 0 (dialect.pieceText bound piece).toList =
        (dialect.argumentsOf [piece]).length := by
  cases piece with
  | text text => exact passed
  | name name => exact Spelling.closed_name conventional.quote name
  | value value =>
    simp only [conventional.argumentsOf_value, pieceText, conventional.values, ValueStyle.text]
    cases value.isNull <;> exact ⟨rfl, rfl⟩
  | argument value => exact passed.elim
  | dialectName => exact passed.elim

/-- Putting its argument into a piece gives the piece with the value in its place. -/
private theorem appendInlined_pieceText (bound other : Nat) {piece : Piece} (passed : piece.Passed)
    (values : List Value) (before : String) (after : List Char) :
    Region.outside.appendInlined (dialect.argumentsOf [piece] ++ values) before
        ((dialect.pieceText bound piece).toList ++ after) =
      Region.outside.appendInlined values
        (before ++ dialect.inlining.pieceText other piece) after := by
  cases piece with
  | text words =>
    have pass := Region.appendInlined_closed passed values before after
    rwa [String.ofList_toList] at pass
  | name name =>
    have pass := Region.appendInlined_closed (Spelling.closed_name conventional.quote name) values
      before after
    have spelled : dialect.inlining.spelling.name name = dialect.spelling.name name :=
      dialect.spelling.name_withValues .inline name
    rw [String.ofList_toList] at pass
    rw [pieceText, pieceText, spelled]
    exact pass
  | value value =>
    simp only [conventional.argumentsOf_value, pieceText, conventional.values, ValueStyle.text,
      inlining]
    cases null : value.isNull with
    | true =>
      have closed : Region.Closed "NULL".toList := ⟨by decide, by decide⟩
      have pass := Region.appendInlined_closed closed values before after
      rwa [String.ofList_toList] at pass
    | false => rfl
  | argument value => exact passed.elim
  | dialectName => exact passed.elim

/-- A fragment has as many placeholders as arguments and leaves a reader outside quotes. -/
theorem appendText_aligned (bound : Nat) {fragment : Fragment}
    (passed : ∀ piece ∈ fragment, piece.Passed) :
    Region.outside.after (dialect.appendText "" bound fragment).toList = .outside ∧
      Region.outside.addPlaceholders 0 (dialect.appendText "" bound fragment).toList =
        (dialect.argumentsOf fragment).length := by
  induction fragment generalizing bound with
  | nil => exact ⟨rfl, rfl⟩
  | cons piece rest ih =>
    obtain ⟨first, others⟩ := List.forall_mem_cons.mp passed
    obtain ⟨closed, count⟩ := conventional.pieceText_aligned bound first
    obtain ⟨restClosed, restCount⟩ := ih (bound + (dialect.argumentsOf [piece]).length) others
    rw [appendText_cons, String.toList_append]
    refine ⟨?_, ?_⟩
    · rw [Region.after_append, closed, restClosed]
    · rw [Region.addPlaceholders_append, closed, count, Region.addPlaceholders_eq, restCount,
        dialect.argumentsOf_cons piece rest, List.length_append]

/-- Putting its arguments into a fragment gives the text with the values in their places. -/
theorem appendInlined_appendText (bound other : Nat) {fragment : Fragment}
    (passed : ∀ piece ∈ fragment, piece.Passed) (values : List Value) (before : String)
    (after : List Char) :
    Region.outside.appendInlined (dialect.argumentsOf fragment ++ values) before
        ((dialect.appendText "" bound fragment).toList ++ after) =
      Region.outside.appendInlined values
        (before ++ dialect.inlining.appendText "" other fragment) after := by
  induction fragment generalizing bound other before with
  | nil => simp [argumentsOf, appendText]
  | cons piece rest ih =>
    obtain ⟨first, others⟩ := List.forall_mem_cons.mp passed
    rw [appendText_cons, appendText_cons, argumentsOf_cons, String.toList_append,
      List.append_assoc, List.append_assoc, conventional.appendInlined_pieceText bound other first,
      ih _ _ others, String.append_assoc]

end Dialect.Conventional

namespace Dialect

variable {dialect : Dialect}

/-- The fragment behind a compiled statement of standard nodes is passed over by readers. -/
theorem passed_of_render {statement : Statement} (conventional : dialect.Conventional)
    (standard : ∀ node ∈ statement.nodes, node.Standard IsUnmarked) {fragment : Fragment}
    (rendered : statement.render dialect.grammar = .ok fragment) :
    ∀ piece ∈ fragment, piece.Passed := by
  have alike := Statement.render_alike_self conventional.plain standard
  rw [rendered] at alike
  exact alike.passed

/-- A statement with question marks and quotes in its names and values. -/
def markedStatement : Statement :=
  .query
    { selection := [.named (.identifier "it's ?"), .literal (.text "?'")]
      source := some (.table (.identifier "a`?"))
      filter := [.inList false (.call "LOWER" [.named (.identifier "?\"")]) [.null, .int 3]] }

/-- A compiled text has as many placeholders as arguments, and ends outside quotes. -/
theorem compile_aligned (known : dialect ∈ builtIn) {statement : Statement}
    (standard : ∀ node ∈ statement.nodes, node.Standard IsUnmarked) {compiled : Compiled}
    (success : dialect.compile statement = .ok compiled) :
    compiled.placeholderCount = compiled.arguments.length ∧
      Region.outside.after compiled.sql.toList = .outside := by
  have conventional := conventional_of_builtIn known
  obtain ⟨fragment, rendered, rfl⟩ := appendRendering_eq_ok.mp success
  have passed := passed_of_render conventional standard rendered
  exact (conventional.appendText_aligned 0 passed).symm

theorem compile_aligned_markedStatement :
    ∃ compiled, mysql.compile markedStatement = .ok compiled ∧
      compiled.arguments = [.text "?'", .int 3] ∧ compiled.placeholderCount = 2 ∧
      Region.outside.after compiled.sql.toList = .outside := by
  have success : mysql.compile markedStatement =
      .ok ⟨"SELECT `it's ?`, ? FROM `a``?` WHERE LOWER(`?\"`) IN (NULL, ?)",
        [.text "?'", .int 3]⟩ := rfl
  obtain ⟨count, closed⟩ := compile_aligned (by simp [builtIn]) (by decide) success
  exact ⟨_, success, rfl, count, closed⟩

/-- Putting the arguments into a compiled text gives what the dialect that writes values as
literals compiles, and refusals are the same. -/
theorem compile_inlining (known : dialect ∈ builtIn) {statement : Statement}
    (standard : ∀ node ∈ statement.nodes, node.Standard IsUnmarked) :
    dialect.inlining.compile statement =
      (dialect.compile statement).map fun compiled => ⟨compiled.inlined, []⟩ := by
  have conventional := conventional_of_builtIn known
  change dialect.inlining.appendRendering _ (statement.render dialect.grammar) = _
  unfold compile
  cases rendered : statement.render dialect.grammar with
  | error refusal => rfl
  | ok fragment =>
    have passed := passed_of_render conventional standard rendered
    have inlined := conventional.appendInlined_appendText 0 0 passed [] "" []
    simp only [List.append_nil, String.empty_append, Region.appendInlined] at inlined
    rw [appendRendering_ok, appendRendering_ok, Except.map, append, append,
      dialect.argumentsOf_inlining passed, Compiled.inlined]
    simp only [List.nil_append, List.length_nil]
    rw [inlined]

theorem compile_inlining_markedStatement :
    mysql.inlining.compile markedStatement =
      .ok ⟨"SELECT `it's ?`, '?''' FROM `a``?` WHERE LOWER(`?\"`) IN (NULL, 3)", []⟩ := by
  have success : mysql.compile markedStatement =
      .ok ⟨"SELECT `it's ?`, ? FROM `a``?` WHERE LOWER(`?\"`) IN (NULL, ?)",
        [.text "?'", .int 3]⟩ := rfl
  have inlined := compile_inlining (by simp [builtIn] : mysql ∈ builtIn)
    (by decide : ∀ node ∈ markedStatement.nodes, node.Standard IsUnmarked)
  have text : Compiled.inlined
      ⟨"SELECT `it's ?`, ? FROM `a``?` WHERE LOWER(`?\"`) IN (NULL, ?)", [.text "?'", .int 3]⟩ =
      "SELECT `it's ?`, '?''' FROM `a``?` WHERE LOWER(`?\"`) IN (NULL, 3)" := by decide
  rw [inlined, success, Except.map, text]

end Dialect

end SqlTree
