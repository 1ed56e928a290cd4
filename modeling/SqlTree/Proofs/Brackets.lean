import SqlTree.Proofs.Alike.Render
import SqlTree.Proofs.Text

/-! # Brackets

A text is well bracketed if a reader that skips quoted regions never meets a closing bracket that
nothing opened, and meets as many closing as opening ones in the end. Texts that are well bracketed
stay so next to each other and between brackets, which is how fragments are built. Every compiled
text is therefore well bracketed, and so is the text of each part of a statement
(`compile_wellBracketed`), whatever brackets and quotes the identifiers hold.
-/

namespace SqlTree

namespace Region

/-- The characters outside quoted regions, without the quotes. -/
def unquoted : Region → List Char → List Char
  | _, [] => []
  | region, c :: rest =>
    if region = .outside ∧ region.next c = .outside then c :: unquoted (region.next c) rest
    else unquoted (region.next c) rest

/-- The second text is read from the region that the first one leaves the reader in. -/
theorem unquoted_append (region : Region) (first second : List Char) :
    region.unquoted (first ++ second) =
      region.unquoted first ++ (region.after first).unquoted second := by
  induction first generalizing region with
  | nil => rfl
  | cons c rest ih =>
    have left : region.after (c :: rest) = (region.next c).after rest := rfl
    rw [List.cons_append, unquoted, unquoted, ih, left]
    split
    · rfl
    · rfl

private theorem unquoted_subset (region : Region) (text : List Char) : region.unquoted text ⊆ text := by
  induction text generalizing region with
  | nil => exact List.Subset.refl _
  | cons c rest ih =>
    rw [unquoted]
    split
    · exact List.cons_subset_cons c (ih _)
    · exact List.subset_cons_of_subset c (ih _)

/-- Brackets outside quotes are opened before they are closed, all of them are closed, and no quote
is left open. -/
structure WellBracketed (text : List Char) : Prop where
  ends : outside.after text = outside
  prefixes (start : List Char) (begins : start <+: text) :
    (outside.unquoted start).count ')' ≤ (outside.unquoted start).count '('
  whole : (outside.unquoted text).count '(' = (outside.unquoted text).count ')'

namespace WellBracketed

variable {text first second : List Char}

/-- A text that shows no brackets outside quotes. -/
theorem of_silent (ends : outside.after text = outside)
    (silent : ∀ c ∈ outside.unquoted text, c ≠ '(' ∧ c ≠ ')') : WellBracketed text := by
  have none (start : List Char) (begins : start <+: text) :
      (outside.unquoted start).count '(' = 0 ∧ (outside.unquoted start).count ')' = 0 := by
    obtain ⟨rest, rfl⟩ := begins
    rw [unquoted_append] at silent
    have before := (List.forall_mem_append.mp silent).1
    constructor
    · exact List.count_eq_zero.mpr fun member => (before _ member).1 rfl
    · exact List.count_eq_zero.mpr fun member => (before _ member).2 rfl
  constructor
  · exact ends
  · intro start begins
    have counts := none start begins
    omega
  · have counts := none text (List.prefix_refl text)
    omega

theorem nil : WellBracketed [] :=
  of_silent rfl nofun

/-- A text after a well bracketed one opens and closes its own brackets. -/
theorem append (before : WellBracketed first) (rest : WellBracketed second) :
    WellBracketed (first ++ second) := by
  have shown (start : List Char) : outside.unquoted (first ++ start) =
      outside.unquoted first ++ outside.unquoted start := by
    rw [unquoted_append, before.ends]
  constructor
  · rw [after_append, before.ends, rest.ends]
  · rintro start ⟨more, equal⟩
    rcases List.append_eq_append_iff.mp equal with ⟨left, inFirst, -⟩ | ⟨further, rfl, inSecond⟩
    · exact before.prefixes start ⟨left, inFirst.symm⟩
    · have opened := rest.prefixes further ⟨more, inSecond.symm⟩
      have balanced := before.whole
      rw [shown, List.count_append, List.count_append]
      omega
  · rw [shown, List.count_append, List.count_append, before.whole, rest.whole]

/-- A well bracketed text between brackets. -/
theorem bracketed (inner : WellBracketed text) : WellBracketed ('(' :: text ++ [')']) := by
  have opened (start : List Char) :
      outside.unquoted ('(' :: start) = '(' :: outside.unquoted start := rfl
  have shown : outside.unquoted ('(' :: text ++ [')']) = '(' :: outside.unquoted text ++ [')'] := by
    rw [List.cons_append, opened, unquoted_append, inner.ends]
    rfl
  have opening : ('(' :: outside.unquoted text ++ [')']).count '(' =
      (outside.unquoted text).count '(' + 1 := by simp
  have closing : ('(' :: outside.unquoted text ++ [')']).count ')' =
      (outside.unquoted text).count ')' + 1 := by simp
  have balanced := inner.whole
  constructor
  · rw [List.cons_append]
    change outside.after (text ++ [')']) = outside
    rw [after_append, inner.ends]
    rfl
  · intro start begins
    rcases List.prefix_cons_iff.mp begins with rfl | ⟨further, rfl, inside⟩
    · exact Nat.le_refl 0
    · rcases List.prefix_concat_iff.mp inside with rfl | inText
      · rw [← List.cons_append, shown, opening, closing]
        omega
      · have counts := inner.prefixes further inText
        rw [opened, List.count_cons_self, List.count_cons_of_ne (by decide)]
        omega
  · rw [shown, opening, closing]
    omega

/-- Words without quotes and brackets. -/
theorem of_plain (plain : ∀ c ∈ text, ¬ (isMark c || c == '(' || c == ')') = true) :
    WellBracketed text := by
  have unmarked : ∀ c ∈ text, isMark c = false := by
    intro c member
    have none := plain c member
    simp only [Bool.or_eq_true, not_or, Bool.not_eq_true] at none
    exact none.1.1
  refine of_silent (closed_of_unmarked unmarked).1 fun c shown => ?_
  have none := plain c (unquoted_subset outside text shown)
  simp only [Bool.or_eq_true, not_or, beq_iff_eq] at none
  exact ⟨none.1.2, none.2⟩

theorem of_structuralMarks {words : String} (plain : structuralMarks words = []) :
    WellBracketed words.toList :=
  of_plain (List.filter_eq_nil_iff.mp plain)

/-- The bracket may stand anywhere in the words that open and close. -/
theorem enclosed {opening closing : String} (opens : structuralMarks opening = ['('])
    (closes : structuralMarks closing = [')']) (inner : WellBracketed text) :
    WellBracketed (opening.toList ++ text ++ closing.toList) := by
  obtain ⟨before, first, openingSplit, beforePlain, -, firstPlain⟩ := List.filter_eq_cons_iff.mp opens
  obtain ⟨last, behind, closingSplit, lastPlain, -, behindPlain⟩ := List.filter_eq_cons_iff.mp closes
  have within : WellBracketed (first ++ text ++ last) :=
    ((of_plain (List.filter_eq_nil_iff.mp firstPlain)).append inner).append (of_plain lastPlain)
  have whole : WellBracketed (before ++ ('(' :: (first ++ text ++ last) ++ [')']) ++ behind) :=
    ((of_plain beforePlain).append within.bracketed).append
      (of_plain (List.filter_eq_nil_iff.mp behindPlain))
  rw [openingSplit, closingSplit]
  simpa using whole

end WellBracketed

/-- Nothing of a text between quotes is outside them, also where a quote is written twice. -/
private theorem unquoted_doubled {quote : Char} (isQuoted : isQuote quote = true) (text : List Char) :
    (inside quote).unquoted (Quoted.doubled quote text) = [] := by
  induction text with
  | nil => rfl
  | cons c rest ih =>
    rw [Quoted.doubled, List.flatMap_cons, ← Quoted.doubled, unquoted_append]
    by_cases same : c = quote
    · subst same
      simpa [unquoted, after, next, isQuoted] using ih
    · simpa [unquoted, after, next, same] using ih

private theorem unquoted_enclose {quote : Char} (isQuoted : isQuote quote = true) (text : String) :
    outside.unquoted (Quoted.enclose quote text).toList = [] := by
  have opens (rest : List Char) :
      outside.unquoted (quote :: rest) = (inside quote).unquoted rest := by
    simp [unquoted, next, isQuoted]
  rw [Quoted.enclose, String.toList_ofList, List.cons_append, opens, unquoted_append,
    unquoted_doubled isQuoted, after_doubled quote isQuoted]
  simp [unquoted]

end Region

namespace Spelling

variable {spelling : Spelling}

open Region

private theorem wellBracketed_identifier (isQuoted : isQuote spelling.quote = true) (id : String) :
    WellBracketed (spelling.identifier id).toList := by
  unfold identifier
  split
  · rename_i bare
    simp only [isBare, Bool.and_eq_true] at bare
    refine .of_plain fun c member mark => ?_
    have letter := isAlphanum_of_isWord bare.1.2 c member
    simp only [Bool.or_eq_true, beq_iff_eq] at mark
    rcases mark with (quotes | rfl) | rfl
    · exact absurd quotes (Bool.eq_false_iff.mp (not_isMark_of_isWord bare.1.2 c member))
    · exact absurd letter (by decide)
    · exact absurd letter (by decide)
  · refine .of_silent (closed_enclose isQuoted id).1 ?_
    rw [quoted, unquoted_enclose isQuoted]
    intro c member
    cases member

private theorem wellBracketed_name (isQuoted : isQuote spelling.quote = true) (name : Name) :
    WellBracketed (spelling.name name).toList := by
  induction name with
  | identifier id => exact wellBracketed_identifier isQuoted id
  | qualified parent id ih =>
    have dot : WellBracketed ".".toList := .of_structuralMarks (by decide)
    rw [Spelling.name, String.toList_append, String.toList_append]
    exact (ih.append dot).append (wellBracketed_identifier isQuoted id)

end Spelling

namespace Dialect.Conventional

variable {dialect : Dialect} (conventional : dialect.Conventional)

include conventional

private theorem wellBracketed_value (value : Value) :
    Region.WellBracketed (dialect.text [.value value]).toList := by
  rw [text_singleton, pieceText_value conventional.values]
  split
  · exact .of_structuralMarks (by decide)
  · refine .of_silent rfl ?_
    exact List.forall_mem_singleton.mpr ⟨by decide, by decide⟩

/-- A fragment is well bracketed if functions are named by plain words. -/
private theorem wellBracketed_text {same : Value → Value → Prop} {fragment other : Fragment}
    (alike : Fragment.Alike (fun name => structuralMarks name = []) same fragment other) :
    Region.WellBracketed (dialect.text fragment).toList := by
  have glued (first second : Fragment) : dialect.text (first ++ second) = _ :=
    text_append conventional.values first second
  have led (piece : Piece) (rest : Fragment) : dialect.text (piece :: rest) = _ :=
    text_cons conventional.values piece rest
  induction alike with
  | nil => exact .nil
  | append _ _ before rest =>
    rw [glued, String.toList_append]
    exact before.append rest
  | words plain =>
    rw [text_singleton]
    exact .of_structuralMarks plain
  | function named =>
    rw [text_singleton]
    exact .of_structuralMarks named
  | name name =>
    rw [text_singleton]
    exact Spelling.wellBracketed_name conventional.quote name
  | value _ => exact conventional.wellBracketed_value _
  | setting value => exact conventional.wellBracketed_value value
  | enclosed opens closes _ inner =>
    rw [glued, led, text_singleton, String.toList_append, String.toList_append]
    exact .enclosed opens closes inner
  | joined _ apart =>
    -- Two texts next to each other are written like the two in one piece.
    rw [glued, led, led] at apart
    rw [glued, led]
    simpa only [pieceText, String.toList_append, List.append_assoc] using apart

end Dialect.Conventional

/-- What is written for a node where it stands. An expression is written in two ways: as an entry of
a selection and inside of others. -/
def Node.renderings (grammar : Grammar) : Node → List Rendering
  | .expr tree => [tree.render grammar .entry, tree.render grammar .inner]
  | .element source => [source.render grammar]
  | .query rows => [rows.render grammar]
  | .extension part => [part.render grammar]

/-- What is written for a node is alike to itself if the nodes in it are standard. -/
private theorem Node.alike_renderings {function : String → Prop} {grammar : Grammar}
    (plain : grammar.Plain) {node : Node} (standard : ∀ inner ∈ node.nodes, inner.Standard function) :
    ∀ rendering ∈ node.renderings grammar, Rendering.Alike function Eq rendering rendering := by
  have equal (value : Value) : value = value := rfl
  have null (value other : Value) (same : value = other) : value.isNull = other.isNull :=
    congrArg Value.isNull same
  cases node with
  | expr tree =>
    have alike := tree.alike_self equal standard
    refine List.forall_mem_cons.mpr ⟨alike.render plain null .entry, ?_⟩
    exact List.forall_mem_singleton.mpr (alike.render plain null .inner)
  | element source =>
    exact List.forall_mem_singleton.mpr ((source.alike_self equal standard).render plain null)
  | query rows =>
    exact List.forall_mem_singleton.mpr ((rows.alike_self equal standard).parts plain null).render
  | extension part =>
    exact List.forall_mem_singleton.mpr ((part.alike_self equal standard).render plain null)

namespace Dialect

variable {dialect : Dialect}

private theorem wellBracketed_of_alike (conventional : dialect.Conventional) {rendering : Rendering}
    (alike : Rendering.Alike (fun name => structuralMarks name = []) Eq rendering rendering)
    {compiled : Compiled} (success : dialect.appendRendering ⟨"", []⟩ rendering = .ok compiled) :
    Region.WellBracketed compiled.sql.toList := by
  obtain ⟨fragment, rfl, rfl⟩ := appendRendering_eq_ok.mp success
  exact conventional.wellBracketed_text alike

/-- Every compiled text is well bracketed, and so is the text of each part of the statement, as long
as functions are named by words without quotes, brackets and question marks. -/
theorem compile_wellBracketed (known : dialect ∈ builtIn) {statement : Statement}
    (standard : ∀ node ∈ statement.nodes, node.Standard fun name => structuralMarks name = []) :
    (∀ compiled, dialect.compile statement = .ok compiled →
      Region.WellBracketed compiled.sql.toList) ∧
      ∀ node ∈ statement.nodes, ∀ rendering ∈ node.renderings dialect.grammar, ∀ compiled,
        dialect.appendRendering ⟨"", []⟩ rendering = .ok compiled →
          Region.WellBracketed compiled.sql.toList := by
  have conventional := conventional_of_builtIn known
  constructor
  · intro compiled success
    have alike := Statement.render_alike_self conventional.plain standard
    exact wellBracketed_of_alike conventional alike success
  · intro node member rendering written compiled success
    have inner : ∀ part ∈ node.nodes, part.Standard fun name => structuralMarks name = [] :=
      fun part inside => standard part (statement.holdsParts node member inside)
    have alike := Node.alike_renderings conventional.plain inner rendering written
    exact wellBracketed_of_alike conventional alike success

/-- The hours of the rows of a table, with brackets and quotes in the names. -/
def crookedQuery : Query :=
  { selection := [.extension (.truncate (.named (.identifier "(day")) .hours 2)]
    source := some (.table (.identifier ")\x60(")) }

/-- A query within a query, with brackets and quotes in the names of both. -/
def crookedStatement : Statement :=
  .query
    { selection :=
        [.case (some (.named (.identifier "a)'"))) [⟨.literal (.int 1), .countAll true⟩] none]
      filter := [.inQuery true (.call "LOWER" [.named (.identifier "(\"")]) crookedQuery] }

theorem compile_wellBracketed_crookedStatement :
    (∃ compiled, mysql.compile crookedStatement = .ok compiled ∧
      Region.WellBracketed compiled.sql.toList) ∧
      ∃ compiled, mysql.appendRendering ⟨"", []⟩ (crookedQuery.render mysql.grammar) =
          .ok compiled ∧ Region.WellBracketed compiled.sql.toList := by
  have whole : mysql.compile crookedStatement =
      .ok ⟨"SELECT CASE (`a)'`) WHEN (?) THEN COUNT(DISTINCT *) END WHERE LOWER(`(\"`) NOT IN " ++
          "(SELECT (DATE(`(day`) + INTERVAL EXTRACT(HOUR FROM `(day`) + ? HOUR) FROM `)``(`)",
        [.int 1, .int 2]⟩ := by
    decide +kernel
  have inner : mysql.appendRendering ⟨"", []⟩ (crookedQuery.render mysql.grammar) =
      .ok ⟨"SELECT (DATE(`(day`) + INTERVAL EXTRACT(HOUR FROM `(day`) + ? HOUR) FROM `)``(`",
        [.int 2]⟩ := by
    decide +kernel
  have inside : Node.query crookedQuery ∈ crookedStatement.nodes := by
    simp [crookedStatement, Statement.nodes, Query.nodes, Expr.nodesOfAll, Expr.nodes, crookedQuery]
  obtain ⟨balanced, parts⟩ := compile_wellBracketed (by simp [builtIn] : mysql ∈ builtIn)
    (by decide : ∀ node ∈ crookedStatement.nodes,
      node.Standard fun name => structuralMarks name = [])
  constructor
  · exact ⟨_, whole, balanced _ whole⟩
  · exact ⟨_, inner, parts _ inside _ List.mem_cons_self _ inner⟩

end Dialect

end SqlTree
