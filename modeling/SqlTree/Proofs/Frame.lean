import SqlTree.Proofs.Alike
import SqlTree.Proofs.Writer.Tree

/-! # What stands before a phrase

Every phrase of a statement is written after what is compiled already. In a dialect with the same
mark for every value, what stands before has no part in what is added: a phrase is refused, or adds
its text and its arguments, as it does with nothing before it (`Phrase.write_frame`). So phrases
written in turn add up to what they are one by one (`Phrase.foldlM_write`).
-/

namespace SqlTree

/-- A part of a statement, or a statement, that is written as a whole. The entries of a selection
are expressions in a position of their own. -/
inductive Phrase where
  | expr (position : Position) (expr : Expr)
  | element (element : Element)
  | query (query : Query)
  | clauses (query : Query)
  | modifiers (modifiers : List Modifier)
  | node (node : Extension)
  | statement (statement : Statement)

namespace Phrase

def write (dialect : Dialect) : Phrase → Writer
  | .expr position tree => tree.write dialect position
  | .element tree => tree.write dialect
  | .query tree => tree.write dialect
  | .clauses tree => tree.writeClauses dialect
  | .modifiers trees => Modifier.writeAll dialect trees
  | .node tree => tree.write dialect
  | .statement tree => tree.write dialect

def render (grammar : Grammar) : Phrase → Rendering
  | .expr position tree => tree.render grammar position
  | .element tree => tree.render grammar
  | .query tree => tree.render grammar
  | .clauses tree => tree.clauses grammar
  | .modifiers trees => Modifier.renderAll grammar trees
  | .node tree => tree.render grammar
  | .statement tree => tree.render grammar

theorem write_eq_spell (dialect : Dialect) (phrase : Phrase) :
    phrase.write dialect = dialect.spell (phrase.render dialect.grammar) := by
  cases phrase with
  | expr position tree => exact tree.write_eq_spell dialect position
  | element tree => exact tree.write_eq_spell dialect
  | query tree => exact tree.write_eq_spell dialect
  | clauses tree => exact tree.writeClauses_eq_spell dialect
  | modifiers trees => exact Modifier.writeAll_eq_spell dialect trees
  | node tree => exact tree.write_eq_spell dialect
  | statement tree => exact tree.write_eq_spell dialect

end Phrase

/-- What is compiled so far with more after it. -/
def Compiled.followedBy (before added : Compiled) : Compiled :=
  { sql := before.sql ++ added.sql
    arguments := before.arguments ++ added.arguments }

namespace Dialect

variable {dialect : Dialect}

private theorem append_eq_followedBy {mark : String} (marked : dialect.spelling.values = .mark mark)
    (before : Compiled) (fragment : Fragment) :
    dialect.append before fragment = before.followedBy (dialect.append ⟨"", []⟩ fragment) := by
  rw [append, append, Compiled.followedBy, appendText_eq, appendText_eq_text marked,
    appendText_eq_text marked, List.nil_append]

private theorem spell_eq_map {mark : String} (marked : dialect.spelling.values = .mark mark)
    (rendering : Rendering) (before : Compiled) :
    dialect.spell rendering before =
      (dialect.spell rendering ⟨"", []⟩).map before.followedBy := by
  cases rendering with
  | error refusal => rfl
  | ok fragment => exact congrArg Except.ok (append_eq_followedBy marked before fragment)

-- Where values have numbers, what stands before tells which number comes next.
example :
    ({ generic with spelling := { values := .numbered } }).push (.value (.int 7))
      ⟨"x = $1 AND y = ", [.int 3]⟩ = .ok ⟨"x = $1 AND y = $2", [.int 3, .int 7]⟩ := by
  decide +kernel

end Dialect

namespace Phrase

variable {dialect : Dialect}

/-- Phrases written in turn add what they are with nothing before them, one after the other, and
are refused as the first that is refused. -/
theorem foldlM_write (known : dialect ∈ Dialect.builtIn) (phrases : List Phrase)
    (before : Compiled) :
    phrases.foldlM (fun compiled phrase => phrase.write dialect compiled) before = do
      let added ← phrases.mapM fun phrase => phrase.write dialect ⟨"", []⟩
      return added.foldl Compiled.followedBy before := by
  induction phrases generalizing before with
  | nil => rfl
  | cons phrase rest ih =>
    have marked := (Dialect.conventional_of_builtIn known).values
    rw [List.foldlM_cons, List.mapM_cons, write_eq_spell, Dialect.spell_eq_map marked]
    cases dialect.spell (phrase.render dialect.grammar) ⟨"", []⟩ with
    | error refused => rfl
    | ok added =>
      change rest.foldlM _ (before.followedBy added) = _
      rw [ih]
      cases rest.mapM fun phrase => phrase.write dialect ⟨"", []⟩ <;> rfl

/-- Writing a phrase after anything gives what rendering it and spelling the fragment there gives.
With nothing before it, the phrase is refused with the same error, or it is written as the text and
the arguments that stand here after those before it. -/
theorem write_frame (known : dialect ∈ Dialect.builtIn) (phrase : Phrase) (before : Compiled) :
    phrase.write dialect before =
        dialect.appendRendering before (phrase.render dialect.grammar) ∧
      ((∃ error, phrase.write dialect ⟨"", []⟩ = .error error ∧
          phrase.write dialect before = .error error) ∨
        ∃ added, phrase.write dialect ⟨"", []⟩ = .ok added ∧
          phrase.write dialect before =
            .ok {
              sql := before.sql ++ added.sql
              arguments := before.arguments ++ added.arguments }) := by
  have marked := (Dialect.conventional_of_builtIn known).values
  have spelled := phrase.write_eq_spell dialect
  refine ⟨congrFun spelled before, ?_⟩
  rw [spelled, Dialect.spell_eq_map marked _ before]
  cases dialect.spell (phrase.render dialect.grammar) ⟨"", []⟩ with
  | error error => exact .inl ⟨error, rfl, rfl⟩
  | ok added => exact .inr ⟨added, rfl, rfl⟩

/-- The first days of the weeks of some dates. -/
def weekStarts : Phrase :=
  .query {
    selection := [.extension (.truncate (.named (.identifier "d")) .weeks 0)]
    source := some (.table (.identifier "t"))
    modifiers := [.limit 3 0] }

/-- A query goes into a text that has an argument, and a part that is refused is refused there
too. -/
theorem write_frame_weekStarts :
    let before : Compiled := ⟨"a = ? AND b IN (", [.int 7]⟩
    let starred : Phrase := .expr .inner (.allColumns (.table (.identifier "t")))
    weekStarts.write Dialect.mysql before =
        .ok {
          sql :=
            "a = ? AND b IN (SELECT DATE_SUB(DATE(d), INTERVAL DAYOFWEEK(d) - ? DAY) FROM t LIMIT ?"
          arguments := [.int 7, .int 1, .int 3] } ∧
      starred.write Dialect.mysql before = .error ⟨"mysql", .unsupported .nestedAllColumns⟩ := by
  intro before starred
  have known : Dialect.mysql ∈ Dialect.builtIn := by simp [Dialect.builtIn]
  have alone : weekStarts.write Dialect.mysql ⟨"", []⟩ =
      .ok {
        sql := "SELECT DATE_SUB(DATE(d), INTERVAL DAYOFWEEK(d) - ? DAY) FROM t LIMIT ?"
        arguments := [.int 1, .int 3] } := by decide +kernel
  refine ⟨?_, ?_⟩
  · obtain ⟨-, ⟨error, refused, -⟩ | ⟨added, given, here⟩⟩ := write_frame known weekStarts before
    · rw [alone] at refused
      cases refused
    · rw [alone] at given
      cases given
      rw [here]
      decide +kernel
  · obtain ⟨rendered, -⟩ := write_frame known starred before
    rw [rendered]
    rfl

end Phrase

end SqlTree
