import SqlTree.Proofs.Account.Render
import SqlTree.Proofs.Alike.Render
import SqlTree.Proofs.Alike.Site
import SqlTree.Proofs.Text

/-! # Values stay out of the text

Two statements that differ in values only compile to the same text, or are refused with the same
error. What differs are the arguments, and those only in the places of the values that differ: both
lists of arguments are read off the sites of the statements, which differ in values only, one by
one. All that a text shows of a value is whether it is NULL.
-/

namespace SqlTree.Dialect

variable {dialect : Dialect} {function : String → Prop} {same : Value → Value → Prop}

/-- Fragments that differ in values only have the same text. -/
theorem Conventional.text_alike (conventional : dialect.Conventional)
    (null : ∀ value other, same value other → value.isNull = other.isNull)
    {fragment other : Fragment} (alike : Fragment.Alike function same fragment other) :
    dialect.text fragment = dialect.text other := by
  have marked := conventional.values
  have joined (before after : Fragment) (first second : String) :
      dialect.text (before ++ .text (first ++ second) :: after) =
        dialect.text (before ++ .text first :: .text second :: after) := by
    rw [text_append marked, text_append marked, text_cons marked, text_cons marked,
      text_cons marked]
    simp only [pieceText, String.append_assoc]
  induction alike with
  | nil | words | function | name | setting => rfl
  | value related =>
    rw [text_singleton, text_singleton, pieceText_value marked, pieceText_value marked,
      null _ _ related]
  | append _ _ first second => rw [text_append marked, text_append marked, first, second]
  | enclosed _ _ _ inner =>
    simp only [text_append marked, text_cons marked, inner]
  | joined _ apart => rw [joined, joined, apart]

/-- Two statements that differ in values only, with NULL in the same places, are refused with the
same error or compile to the same text. Their arguments are then as many, and are those of their
sites. The sites differ in values only, one by one, and add equally many arguments each. -/
theorem compile_alike (known : dialect ∈ builtIn)
    (null : ∀ value other, same value other → value.isNull = other.isNull)
    {statement other : Statement}
    (alike : Statement.Alike (fun _ => True) same statement other) :
    (∃ error, dialect.compile statement = .error error ∧ dialect.compile other = .error error) ∨
      ∃ compiled another, dialect.compile statement = .ok compiled ∧
        dialect.compile other = .ok another ∧ compiled.sql = another.sql ∧
        compiled.arguments.length = another.arguments.length ∧
        compiled.arguments = (statement.sites dialect.keyCopies).flatMap Site.arguments ∧
        another.arguments = (other.sites dialect.keyCopies).flatMap Site.arguments ∧
        List.Forall₂
          (fun site place => site.Alike (fun _ => True) same place ∧
            site.arguments.length = place.arguments.length)
          (statement.sites dialect.keyCopies) (other.sites dialect.keyCopies) := by
  have conventional := conventional_of_builtIn known
  have sites := alike.sites dialect.keyCopies
  rcases (alike.render conventional.plain null).error_or_ok with
    ⟨refusal, rendered, renderedOther⟩ | ⟨fragment, otherFragment, rendered, renderedOther, both⟩
  · rw [compile, compile, rendered, renderedOther]
    exact .inl ⟨_, rfl, rfl⟩
  · have arguments := binds_of_builtIn known statement fragment rendered
    have otherArguments := binds_of_builtIn known other otherFragment renderedOther
    have size : (dialect.argumentsOf fragment).length =
        (dialect.argumentsOf otherFragment).length := by
      rw [arguments, otherArguments, sites.length_arguments null]
    rw [compile, compile, rendered, renderedOther]
    refine .inr ⟨_, _, rfl, rfl, conventional.text_alike null both, size, arguments,
      otherArguments, ?_⟩
    exact sites.imp fun site place alikeSites => ⟨alikeSites, alikeSites.length_arguments null⟩

/-- A deletion of five rows at most, of those whose `limit?` is the first value and none of the two
others, by the week that holds the second. -/
def boundedDeletion (value first second : Value) : Statement :=
  .delete
    { table := .identifier "old rows"
      rows :=
        { filter :=
            [.binary .eq (.named (.identifier "limit?")) (.literal value),
              .inList true (.named (.identifier "limit?")) [first, second]]
          order := [⟨.extension (.truncate (.literal first) .weeks 0), false⟩]
          modifiers := [.limit 5 0] } }

theorem compile_alike_boundedDeletion :
    ∃ compiled another,
      mysql.compile (boundedDeletion (.text "1 OR 1 = 1") (.int 2) .null) = .ok compiled ∧
      mysql.compile (boundedDeletion (.int 7) (.bool true) .null) = .ok another ∧
      compiled.sql = another.sql ∧
      compiled.arguments =
        [.text "1 OR 1 = 1", .int 2, .int 2, .int 2, .int 1, .int 2, .int 2, .int 1, .int 5] ∧
      another.arguments =
        [.int 7, .bool true, .bool true, .bool true, .int 1, .bool true, .bool true, .int 1,
          .int 5] := by
  obtain ⟨compiled, success⟩ : ∃ compiled,
      mysql.compile (boundedDeletion (.text "1 OR 1 = 1") (.int 2) .null) = .ok compiled := ⟨_, rfl⟩
  have null (value other : Value) (paired : (value, other) ∈
      [(Value.text "1 OR 1 = 1", Value.int 7), (.int 2, .bool true), (.null, .null)]) :
      value.isNull = other.isNull := by
    simp only [List.mem_cons, Prod.mk.injEq, List.not_mem_nil, or_false] at paired
    rcases paired with ⟨rfl, rfl⟩ | ⟨rfl, rfl⟩ | ⟨rfl, rfl⟩ <;> rfl
  have alike : Statement.Alike (fun _ => True) (fun value other => (value, other) ∈
      [(Value.text "1 OR 1 = 1", Value.int 7), (.int 2, .bool true), (.null, .null)])
      (boundedDeletion (.text "1 OR 1 = 1") (.int 2) .null)
      (boundedDeletion (.int 7) (.bool true) .null) :=
    .delete _ (.clauses .nil .none .nil
      (.cons (.binary .eq (.named _) (.literal (by simp)))
        (.cons (.inList true (.named _) (.cons (by simp) (.cons (by simp) .nil))) .nil))
      .nil .nil (.cons false (.extension (.truncate .weeks 0 (.literal (by simp)))) .nil)
      (.limit 5 0 .nil) .nil)
  rcases compile_alike (by simp [builtIn] : mysql ∈ builtIn) null alike with
    ⟨error, refused, -⟩ | ⟨compiled, another, given, givenOther, text, -, arguments, others, -⟩
  · rw [success] at refused
    cases refused
  · exact ⟨compiled, another, given, givenOther, text, arguments.trans rfl, others.trans rfl⟩

end SqlTree.Dialect
