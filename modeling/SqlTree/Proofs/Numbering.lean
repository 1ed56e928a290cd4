import SqlTree.Proofs.Alignment

/-! # Numbered placeholders

A dialect may write the number of a value among the arguments in its place. The number depends on
everything that stands before, in every clause and nested query of the statement, and values that
are not bound take none. Such a dialect writes what the dialect with question marks writes, with
the question marks outside quotes numbered from 1 on, hands over the same arguments and refuses the
same statements (`compile_numbering`).
-/

namespace SqlTree

namespace Region

/-- The text with its placeholders replaced by their numbers, of which the first comes after
`count`. -/
def numbered : (region : Region) → (count : Nat) → List Char → List Char
  | _, _, [] => []
  | region, count, c :: rest =>
    if region.isPlaceholder c then
      ("$" ++ naturalText (count + 1)).toList ++ numbered (region.next c) (count + 1) rest
    else c :: numbered (region.next c) count rest

/-- Numbers go on in the second text where they end in the first. -/
theorem numbered_append (region : Region) (count : Nat) (first second : List Char) :
    region.numbered count (first ++ second) =
      region.numbered count first ++
        (region.after first).numbered (region.addPlaceholders count first) second := by
  induction first generalizing region count with
  | nil => rfl
  | cons c rest ih =>
    have left : region.after (c :: rest) = (region.next c).after rest := rfl
    rw [List.cons_append, numbered, numbered, addPlaceholders, left]
    split
    · rw [ih, List.append_assoc]
    · rw [ih, List.cons_append]

/-- A text without placeholders is written as it stands. -/
private theorem numbered_closed {text : List Char} (closed : Closed text) (count : Nat) :
    outside.numbered count text = text := by
  suffices general : ∀ region : Region, region.addPlaceholders 0 text = 0 →
      region.numbered count text = text from general outside closed.2
  clear closed
  intro region none
  induction text generalizing region with
  | nil => rfl
  | cons c rest ih =>
    obtain ⟨noMark, others⟩ := addPlaceholders_cons_eq_zero.mp none
    rw [numbered, noMark, if_neg Bool.false_ne_true, ih _ others]

end Region

/-- The text with its placeholders replaced by their numbers, and the same arguments. -/
def Compiled.numbered (compiled : Compiled) : Compiled :=
  { compiled with sql := String.ofList (Region.outside.numbered 0 compiled.sql.toList) }

namespace Dialect

/-- The dialect of another name that is the same except that it writes values as numbers. -/
def numbering (dialect : Dialect) (name : String) : Dialect :=
  { dialect with name, spelling := { dialect.spelling with values := .numbered } }

variable {dialect : Dialect}

namespace Conventional

variable (conventional : dialect.Conventional) (title : String)

include conventional

/-- Values have numbers exactly if they have question marks. -/
theorem argumentsOf_numbering (fragment : Fragment) :
    (dialect.numbering title).argumentsOf fragment = dialect.argumentsOf fragment := by
  have same : (dialect.numbering title).spelling.values.argument? =
      dialect.spelling.values.argument? := by
    funext piece
    cases piece <;> simp [numbering, ValueStyle.argument?, conventional.values]
  rw [argumentsOf, argumentsOf, same]

/-- The number of a piece is one more than the number of arguments before it. -/
private theorem numbered_pieceText (bound : Nat) {piece : Piece} (passed : piece.Passed) :
    Region.outside.numbered bound (dialect.pieceText bound piece).toList =
      ((dialect.numbering title).pieceText bound piece).toList := by
  cases piece with
  | text words => exact Region.numbered_closed passed bound
  | name name =>
    have spelled : (dialect.numbering title).spelling.name name = dialect.spelling.name name :=
      dialect.spelling.name_withValues .numbered name
    rw [pieceText, pieceText, spelled]
    exact Region.numbered_closed (Spelling.closed_name conventional.quote name) bound
  | value value =>
    rw [pieceText, pieceText, conventional.values]
    simp only [numbering, ValueStyle.text]
    cases value.isNull with
    | true =>
      have closed : Region.Closed "NULL".toList := ⟨by decide, by decide⟩
      exact Region.numbered_closed closed bound
    | false => exact List.append_nil _
  | argument value => exact passed.elim
  | dialectName => exact passed.elim

/-- Numbering the placeholders of a fragment gives the fragment with numbers for values. -/
theorem numbered_appendText (bound : Nat) {fragment : Fragment}
    (passed : ∀ piece ∈ fragment, piece.Passed) :
    Region.outside.numbered bound (dialect.appendText "" bound fragment).toList =
      ((dialect.numbering title).appendText "" bound fragment).toList := by
  induction fragment generalizing bound with
  | nil => rfl
  | cons piece rest ih =>
    obtain ⟨first, others⟩ := List.forall_mem_cons.mp passed
    obtain ⟨closed, count⟩ := conventional.pieceText_aligned bound first
    -- A piece has as many placeholders as arguments, so the rest is numbered as it is bound.
    have behind : Region.outside.addPlaceholders bound (dialect.pieceText bound piece).toList =
        bound + (dialect.argumentsOf [piece]).length := by
      rw [Region.addPlaceholders_eq, count]
    rw [appendText_cons, appendText_cons, String.toList_append, String.toList_append,
      Region.numbered_append, closed, behind, conventional.numbered_pieceText title bound first,
      ih _ others, conventional.argumentsOf_numbering]

end Conventional

/-- A dialect that numbers its values compiles a statement to the text with question marks, in which
the first question mark outside quotes has become the number 1, the second the number 2 and so on,
with the same arguments; and it refuses what is refused with question marks, in its own name. -/
theorem compile_numbering (known : dialect ∈ builtIn) (title : String) {statement : Statement}
    (standard : ∀ node ∈ statement.nodes, node.Standard IsUnmarked) :
    (dialect.numbering title).compile statement =
      ((dialect.compile statement).mapError fun error => ⟨title, error.refusal⟩).map
        Compiled.numbered := by
  have conventional := conventional_of_builtIn known
  change (dialect.numbering title).appendRendering _ (statement.render dialect.grammar) = _
  unfold compile
  cases rendered : statement.render dialect.grammar with
  | error refusal => rfl
  | ok fragment =>
    have passed := passed_of_render conventional standard rendered
    have texts := conventional.numbered_appendText title 0 passed
    have written : (dialect.numbering title).appendText "" 0 fragment =
        String.ofList (Region.outside.numbered 0 (dialect.appendText "" 0 fragment).toList) := by
      rw [texts, String.ofList_toList]
    rw [appendRendering_ok, appendRendering_ok, Except.mapError, Except.map, append, append,
      conventional.argumentsOf_numbering, List.length_nil, written]
    rfl

/-- A statement with values in most clauses, in a nested query and in a union, one of them NULL. -/
def countedStatement : Statement :=
  .query
    { selection := [.literal (.text "?"), .named (.identifier "a?")]
      source := some (.table (.identifier "t"))
      filter :=
        [.inList false (.named (.identifier "b")) [.int 7, .null, .int 7],
          .inQuery true (.named (.identifier "c"))
            { selection := [.literal (.int 8)], modifiers := [.limit 2 0] }]
      modifiers := [.limit 10 5]
      unions := [⟨.all, { selection := [.literal .null, .literal (.text "u")] }⟩] }

theorem compile_numbering_countedStatement :
    (generic.numbering "counting").compile countedStatement =
      .ok ⟨"SELECT $1, \"a?\" FROM t WHERE b IN ($2, NULL, $3) AND c NOT IN " ++
          "(SELECT $4 LIMIT $5) LIMIT $6 OFFSET $7 UNION ALL SELECT NULL, $8",
        [.text "?", .int 7, .int 7, .int 8, .int 2, .int 10, .int 5, .text "u"]⟩ := by
  have success : generic.compile countedStatement =
      .ok ⟨"SELECT ?, \"a?\" FROM t WHERE b IN (?, NULL, ?) AND c NOT IN " ++
          "(SELECT ? LIMIT ?) LIMIT ? OFFSET ? UNION ALL SELECT NULL, ?",
        [.text "?", .int 7, .int 7, .int 8, .int 2, .int 10, .int 5, .text "u"]⟩ := by
    decide +kernel
  rw [compile_numbering (by simp [builtIn]) "counting" (by decide), success]
  decide +kernel

end Dialect

end SqlTree
