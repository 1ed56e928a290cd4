import SqlTree.Proofs.Outcome
import SqlTree.Proofs.Placeholder

/-! # Fragments that differ in values only

What the fragments of two trees have in common that differ in values only. Apart from names, values
and the names of functions, both hold the same words, without quotes, question marks and
parentheses, and the same parentheses, which they close themselves. A fragment that is alike to
itself is therefore one of which all this is known.
-/

namespace SqlTree

/-- The characters of a text that quote, hold a place or enclose, in order. -/
def structuralMarks (text : String) : List Char :=
  text.toList.filter fun c => Region.isMark c || c == '(' || c == ')'

theorem structuralMarks_append (first second : String) :
    structuralMarks (first ++ second) = structuralMarks first ++ structuralMarks second := by
  simp [structuralMarks]

theorem structuralMarks_spaced {text : String} (plain : structuralMarks text = []) :
    structuralMarks (" " ++ text ++ " ") = [] := by
  rw [structuralMarks_append, structuralMarks_append, plain]
  decide

/-- The spellings that the grammar chooses have no structural marks. -/
structure Grammar.Plain (grammar : Grammar) : Prop where
  operator {op : BinaryOp} {text : String} (spelled : grammar.operator? op = some text) :
    structuralMarks text = []
  distinctUnion : structuralMarks grammar.distinctUnion = []

/-- Fragments of the same words, names and functions in which what is opened is closed. Values are
related by `same`, or are settings that both have, such as row counts. Two texts next to each other
may be one piece. -/
inductive Fragment.Alike (function : String → Prop) (same : Value → Value → Prop) :
    Fragment → Fragment → Prop where
  | nil : Alike function same [] []
  | append {first second other another : Fragment} (before : Alike function same first other)
      (rest : Alike function same second another) :
      Alike function same (first ++ second) (other ++ another)
  | words {text : String} (plain : structuralMarks text = []) :
      Alike function same [.text text] [.text text]
  | function {name : String} (named : function name) : Alike function same [.text name] [.text name]
  | name (name : Name) : Alike function same [.name name] [.name name]
  | value {value other : Value} (related : same value other) :
      Alike function same [.value value] [.value other]
  | setting (value : Value) : Alike function same [.value value] [.value value]
  | enclosed {opening closing : String} {fragment other : Fragment}
      (opens : structuralMarks opening = ['(']) (closes : structuralMarks closing = [')'])
      (alike : Alike function same fragment other) :
      Alike function same (.text opening :: fragment ++ [.text closing])
        (.text opening :: other ++ [.text closing])
  | joined {before after otherBefore otherAfter : Fragment} {first second : String}
      (apart : Alike function same (before ++ .text first :: .text second :: after)
        (otherBefore ++ .text first :: .text second :: otherAfter)) :
      Alike function same (before ++ .text (first ++ second) :: after)
        (otherBefore ++ .text (first ++ second) :: otherAfter)

/-- Two runs of a renderer that are refused alike or give fragments that differ in values only. -/
abbrev Rendering.Alike (function : String → Prop) (same : Value → Value → Prop) :
    Rendering → Rendering → Prop :=
  Agree (Fragment.Alike function same)

namespace Fragment.Alike

variable {function : String → Prop} {same : Value → Value → Prop} {fragment other : Fragment}

theorem cons_words {text : String} (plain : structuralMarks text = [])
    (rest : Alike function same fragment other) :
    Alike function same (.text text :: fragment) (.text text :: other) :=
  (words plain).append rest

theorem cons_name {name : Name} (rest : Alike function same fragment other) :
    Alike function same (.name name :: fragment) (.name name :: other) :=
  (Alike.name name).append rest

theorem cons_setting {value : Value} (rest : Alike function same fragment other) :
    Alike function same (.value value :: fragment) (.value value :: other) :=
  (setting value).append rest

/-- Of two enclosed fragments, the first may close in the text that opens the second. -/
theorem enclosed_twice {opening closing reopening ending : String} {second another : Fragment}
    (opens : structuralMarks opening = ['(']) (closes : structuralMarks closing = [')'])
    (reopens : structuralMarks reopening = ['(']) (ends : structuralMarks ending = [')'])
    (before : Alike function same fragment other) (rest : Alike function same second another) :
    Alike function same
      (.text opening :: fragment ++ .text (closing ++ reopening) :: (second ++ [.text ending]))
      (.text opening :: other ++ .text (closing ++ reopening) :: (another ++ [.text ending])) := by
  have apart : Alike function same
      (.text opening :: fragment ++ .text closing :: .text reopening :: (second ++ [.text ending]))
      (.text opening :: other ++ .text closing :: .text reopening :: (another ++ [.text ending])) := by
    simpa using (enclosed opens closes before).append (enclosed reopens ends rest)
  exact apart.joined

theorem parenthesised (alike : Alike function same fragment other) :
    Alike function same fragment.parenthesised other.parenthesised :=
  enclosed (by decide) (by decide) alike

theorem grouped (group : Bool) (alike : Alike function same fragment other) :
    Alike function same (Fragment.grouped group fragment) (Fragment.grouped group other) := by
  cases group with
  | false => exact alike
  | true => exact alike.parenthesised

theorem separated {separator : String} (plain : structuralMarks separator = [])
    {fragments others : List Fragment} (all : List.Forall₂ (Alike function same) fragments others) :
    Alike function same (Fragment.separated separator fragments)
      (Fragment.separated separator others) := by
  induction all with
  | nil => exact nil
  | cons head tail ih =>
    cases tail with
    | nil => exact head
    | cons => exact head.append (cons_words plain ih)

theorem call {name : String} {arguments others : List Fragment} (named : function name)
    (all : List.Forall₂ (Alike function same) arguments others) :
    Alike function same (Fragment.call name arguments) (Fragment.call name others) :=
  (Alike.function named).append (enclosed (by decide) (by decide) (separated (by decide) all))

/-- A call of a function whose name is a plain word, whatever is asked of other names. -/
theorem call_words {name : String} {arguments others : List Fragment}
    (plain : structuralMarks name = []) (all : List.Forall₂ (Alike function same) arguments others) :
    Alike function same (Fragment.call name arguments) (Fragment.call name others) :=
  cons_words plain (enclosed (by decide) (by decide) (separated (by decide) all))

end Fragment.Alike

/-! ## What the dialects of the library have in common

The dialects differ in how they quote identifiers, in what they support and in a few spellings.
They agree on what a reader of their texts relies on.
-/

namespace Dialect

/-- Identifiers stand between quotes that readers know, values have question marks in their place,
and the chosen spellings are plain words. -/
structure Conventional (dialect : Dialect) : Prop where
  plain : dialect.grammar.Plain
  quote : Region.isQuote dialect.spelling.quote = true
  values : dialect.spelling.values = .mark "?"

private theorem plain_text (op : BinaryOp) : structuralMarks op.text = [] := by
  cases op <;> decide

theorem conventional_of_builtIn {dialect : Dialect} (known : dialect ∈ builtIn) :
    dialect.Conventional := by
  rcases mem_builtIn.mp known with rfl | rfl | rfl | rfl
  all_goals
    refine ⟨⟨?_, by decide⟩, by decide, rfl⟩
    rintro op _ ⟨⟩
    exact plain_text op

/-- No dialect of the library has a spelling of its own for an operator. -/
theorem operator?_of_builtIn {dialect : Dialect} (known : dialect ∈ builtIn) (op : BinaryOp) :
    dialect.grammar.operator? op = some op.text := by
  rcases mem_builtIn.mp known with rfl | rfl | rfl | rfl <;> rfl

/-- Identifiers, values, operators and unions are spelled as in standard SQL, in which a union
without repeated rows need not say so. -/
structure Standard (dialect : Dialect) : Prop where
  spelling : dialect.spelling = {}
  operator (op : BinaryOp) : dialect.grammar.operator? op = some op.text
  distinctUnion : dialect.grammar.distinctUnion = "UNION DISTINCT" ∨
    dialect.grammar.distinctUnion = "UNION"

theorem standard_of_mem {dialect : Dialect} (member : dialect ∈ [generic, sqlite]) :
    dialect.Standard := by
  rcases List.mem_pair.mp member with rfl | rfl
  · exact ⟨rfl, fun _ => rfl, .inl rfl⟩
  · exact ⟨rfl, fun _ => rfl, .inr rfl⟩

theorem Conventional.argumentsOf_value {dialect : Dialect} (conventional : dialect.Conventional)
    (value : Value) :
    dialect.argumentsOf [.value value] = if value.isNull then [] else [value] := by
  cases null : value.isNull <;>
    simp [argumentsOf, ValueStyle.argument?, null, conventional.values]

end Dialect

end SqlTree
