import SqlTree.Proofs.Reading.Spelled
import SqlTree.Scan

/-! # Unions in a text

A reader of a compiled text finds the unions of its outermost queries: the words UNION that stand
outside quotes and parentheses. What follows the word decides whether repeated rows are kept.
Fragments are put together so that no word goes on from one into the next, and so the unions of a
text are those of its parts.
-/

namespace SqlTree

def isUnionWord (word : List Char) : Bool :=
  word.map Char.toUpper == "UNION".toList

/-- The kind of union that the word UNION before the text stands for. -/
def UnionKind.before (rest : List Char) : UnionKind :=
  if (rest.take 5).map Char.toUpper == " ALL ".toList then .all else .distinct

/-- The number of open parentheses after a character. -/
def nesting (depth : Nat) (c : Char) : Nat :=
  if c = '(' then depth + 1 else if c = ')' then depth - 1 else depth

/-- The unions of a text outside quotes and parentheses, when `depth` parentheses are open and a
word that may go on has begun with `word`. -/
def Region.unions (region : Region) (depth : Nat) (word : List Char) : List Char → List UnionKind
  | [] => []
  | c :: rest =>
    match region with
    | .inside close => unions ((inside close).next c) depth [] rest
    | .outside =>
      if Token.isWordChar c then unions .outside depth (word ++ [c]) rest
      else
        let others := unions (outside.next c) (nesting depth c) [] rest
        if isUnionWord word && depth == 0 then UnionKind.before (c :: rest) :: others else others

def Compiled.unions (compiled : Compiled) : List UnionKind :=
  Region.outside.unions 0 [] compiled.sql.toList

namespace Region

/-! ## Words and quotes -/

private theorem unions_word (depth : Nat) (start : List Char) {word : List Char}
    (whole : word.all Token.isWordChar = true) (rest : List Char) :
    outside.unions depth start (word ++ rest) = outside.unions depth (start ++ word) rest := by
  induction word generalizing start with
  | nil => simp
  | cons c word ih =>
    simp only [List.all_cons, Bool.and_eq_true] at whole
    rw [List.cons_append, unions, if_pos whole.1, ih _ whole.2]
    simp

/-- A word that is not UNION and does not go on is nothing to the reader. -/
theorem unions_of_delimited (depth : Nat) {word rest : List Char}
    (apart : isUnionWord word = false) (delimited : Delimited rest) :
    outside.unions depth word rest = outside.unions depth [] rest := by
  cases rest with
  | nil => rfl
  | cons c rest =>
    have ends : ¬ Token.isWordChar c = true := by simp [(delimited c rfl).1]
    have empty : isUnionWord [] = false := by decide
    rw [unions, unions, if_neg ends, if_neg ends, apart, empty]

/-- The word UNION is a union unless it stands between parentheses. -/
theorem unions_unionWord (depth : Nat) (rest : List Char) :
    outside.unions depth "UNION".toList (' ' :: rest) =
      (if depth = 0 then [UnionKind.before (' ' :: rest)] else []) ++
        outside.unions depth [] rest := by
  cases depth <;> rfl

/-- A quote is neither part of a word nor a parenthesis, and opens and closes a region. -/
private theorem unions_quote {quote : Char} (isQuoted : isQuote quote = true) (depth : Nat)
    (rest : List Char) :
    outside.unions depth [] (quote :: rest) = (inside quote).unions depth [] rest ∧
      (inside quote).unions depth [] (quote :: rest) = outside.unions depth [] rest := by
  have plain : Token.isWordChar quote = false ∧ quote ≠ '(' ∧ quote ≠ ')' := by
    simp only [isQuote, Bool.or_eq_true, beq_iff_eq] at isQuoted
    rcases isQuoted with (rfl | rfl) | rfl <;> decide
  have empty : isUnionWord [] = false := by decide
  constructor
  · rw [unions, plain.1, empty]
    simp [nesting, plain.2.1, plain.2.2, next, isQuoted]
  · simp [unions, next]

/-- What stands between quotes is nothing to the reader. -/
private theorem unions_enclose {quote : Char} (isQuoted : isQuote quote = true) (depth : Nat)
    (text : String) (rest : List Char) :
    outside.unions depth [] ((Quoted.enclose quote text).toList ++ rest) =
      outside.unions depth [] rest := by
  have doubled (text : List Char) :
      (inside quote).unions depth [] (Quoted.doubled quote text ++ quote :: rest) =
        outside.unions depth [] rest := by
    induction text with
    | nil => exact (unions_quote isQuoted depth rest).2
    | cons c text ih =>
      rw [Quoted.doubled, List.flatMap_cons, ← Quoted.doubled]
      by_cases same : c = quote
      · subst same
        simp only [↓reduceIte, List.cons_append, List.nil_append]
        rw [(unions_quote isQuoted depth _).2, (unions_quote isQuoted depth _).1, ih]
      · simp only [same, ↓reduceIte, List.cons_append, List.nil_append]
        rw [unions]
        simp only [next, same, ↓reduceIte]
        exact ih
  rw [Quoted.enclose, String.toList_ofList, List.cons_append, List.cons_append, List.append_assoc,
    List.singleton_append, (unions_quote isQuoted depth _).1, doubled]

/-- UNION is reserved, so no identifier is read as it. -/
private theorem isUnionWord_of_not_isReserved {id : String} (free : ReservedWord.isReserved id = false) :
    isUnionWord id.toList = false := by
  refine Bool.eq_false_iff.mpr fun union => ?_
  have spelled : id.map Char.toUpper = "UNION" := by
    have chars : id.toList.map Char.toUpper = "UNION".toList := by simpa [isUnionWord] using union
    rw [String.map_eq_internal, chars, String.ofList_toList]
  have reserved : ReservedWord.foundIn ReservedWord.table "UNION" = true := by decide +kernel
  rw [ReservedWord.isReserved, spelled, reserved] at free
  cases free

/-- An identifier is nothing to the reader, be it bare or quoted. -/
private theorem unions_identifier (depth : Nat) (id : String) {rest : List Char}
    (delimited : Delimited rest) :
    outside.unions depth [] ((Spelling.identifier {} id).toList ++ rest) =
      outside.unions depth [] rest := by
  unfold Spelling.identifier
  split
  · rename_i bare
    simp only [Spelling.isBare, Bool.not_false, Bool.true_and, Bool.and_eq_true,
      Bool.not_eq_true'] at bare
    obtain ⟨word, free⟩ := bare
    have whole : id.toList.all Token.isWordChar = true :=
      List.all_eq_true.mpr (Spelling.isAlphanum_of_isWord word)
    rw [unions_word depth [] whole, List.nil_append,
      unions_of_delimited depth (isUnionWord_of_not_isReserved free) delimited]
  · exact unions_enclose (by decide) depth id rest

/-- A name is nothing to the reader. -/
private theorem unions_name (depth : Nat) (name : Name) {rest : List Char} (delimited : Delimited rest) :
    outside.unions depth [] ((Spelling.name {} name).toList ++ rest) =
      outside.unions depth [] rest := by
  induction name generalizing rest with
  | identifier id => exact unions_identifier depth id delimited
  | qualified parent id ih =>
    have apart : Delimited (".".toList ++ ((Spelling.identifier {} id).toList ++ rest)) := by
      intro c head
      cases head
      decide
    have dot (rest : List Char) :
        outside.unions depth [] (".".toList ++ rest) = outside.unions depth [] rest := rfl
    rw [Spelling.name, String.toList_append, String.toList_append, List.append_assoc,
      List.append_assoc, ih apart, dot, unions_identifier depth id delimited]

end Region

/-! ## Fragments -/

/-- All that the text is to the reader is that it opens or closes parentheses, of which `opened`
are open before it and `open` after it, and that it may end in a word. -/
def Leads (text : String) (before after : Nat) (word : List Char) : Prop :=
  ∀ depth rest, Region.outside.unions (depth + before) [] (text.toList ++ rest) =
    Region.outside.unions (depth + after) word rest

private theorem Leads.of_word {text : String} (whole : text.toList.all Token.isWordChar = true) :
    Leads text 0 0 text.toList := by
  intro depth rest
  exact Region.unions_word depth [] whole rest

/-- The text ends the word before it, and ends in no word itself. -/
structure Separates (text : String) : Prop where
  leads : Leads text 0 0 []
  delimits : Delimits text

theorem separates_comma : Separates ", " :=
  ⟨fun _ _ => rfl, ',', [' '], rfl, by decide⟩

theorem leads_closing : Leads ")" 1 0 [] :=
  fun _ _ => rfl

theorem delimits_closing : Delimits ")" :=
  ⟨')', [], rfl, by decide⟩

/-- Wherever it stands outside quotes, the fragment shows a reader the unions, unless it stands
between parentheses. -/
def Fragment.Shows (dialect : Dialect) (fragment : Fragment) (kinds : List UnionKind) : Prop :=
  ∀ (bound depth : Nat) (rest : List Char), Delimited rest →
    Region.outside.unions depth [] ((dialect.appendText "" bound fragment).toList ++ rest) =
      (if depth = 0 then kinds else []) ++ Region.outside.unions depth [] rest

/-- A word before the fragment ends with it. -/
def Fragment.Begins (dialect : Dialect) (fragment : Fragment) : Prop :=
  ∀ (bound : Nat) (rest : List Char), Delimited rest →
    Delimited ((dialect.appendText "" bound fragment).toList ++ rest)

namespace Fragment.Begins

variable {dialect : Dialect} {fragment other : Fragment}

theorem nil : Begins dialect [] := by
  intro bound rest delimited
  exact delimited

theorem text {text : String} (delimits : Delimits text) (rest : Fragment) :
    Begins dialect (.text text :: rest) := by
  intro bound after _
  obtain ⟨c, tail, chars, apart⟩ := delimits
  rw [Dialect.appendText_cons, Dialect.pieceText, String.toList_append, chars]
  simpa [Delimited] using apart

theorem append (first : Begins dialect fragment) (second : Begins dialect other) :
    Begins dialect (fragment ++ other) := by
  intro bound rest delimited
  rw [Dialect.appendText_append, Dialect.appendText_eq, String.toList_append, List.append_assoc]
  exact first _ _ (second _ _ delimited)

end Fragment.Begins

namespace Fragment.Shows

variable {dialect : Dialect} {fragment other : Fragment} {kinds more : List UnionKind}

theorem nil : Shows dialect [] [] := by
  intro bound depth rest _
  simp [Dialect.appendText]

/-- A text that ends in no word, and what follows it. -/
theorem cons {text : String} (leads : Leads text 0 0 []) (after : Shows dialect fragment kinds) :
    Shows dialect (.text text :: fragment) kinds := by
  intro bound depth rest delimited
  rw [Dialect.appendText_cons, Dialect.pieceText, String.toList_append, List.append_assoc]
  exact (leads depth _).trans (after _ depth rest delimited)

/-- A text that may end in a word. -/
theorem text {text : String} {word : List Char} (leads : Leads text 0 0 word)
    (apart : isUnionWord word = false) : Shows dialect [.text text] [] := by
  intro bound depth rest delimited
  rw [Dialect.appendText_cons, Dialect.pieceText, String.toList_append, List.append_assoc,
    ite_self, List.nil_append]
  exact (leads depth _).trans (Region.unions_of_delimited depth apart delimited)

/-- The unions of a fragment come before those of the next. -/
theorem append (before : Shows dialect fragment kinds) (begins : other.Begins dialect)
    (after : Shows dialect other more) : Shows dialect (fragment ++ other) (kinds ++ more) := by
  intro bound depth rest delimited
  rw [Dialect.appendText_append, Dialect.appendText_eq, String.toList_append, List.append_assoc,
    before _ _ _ (begins _ _ delimited), after _ _ _ delimited, ← List.append_assoc]
  split <;> rfl

/-- Between parentheses a fragment shows nothing. -/
theorem enclosed {opening closing : String} (opens : Leads opening 0 1 [])
    (closes : Leads closing 1 0 []) (delimits : Delimits closing)
    (inner : Shows dialect fragment kinds) (after : Shows dialect other more) :
    Shows dialect (.text opening :: fragment ++ .text closing :: other) more := by
  intro bound depth rest delimited
  have begins : Begins dialect (.text closing :: other) := .text delimits other
  rw [List.cons_append, Dialect.appendText_cons, Dialect.pieceText, String.toList_append,
    List.append_assoc, Dialect.appendText_append, Dialect.appendText_eq, String.toList_append,
    List.append_assoc]
  refine (opens depth _).trans ?_
  rw [inner _ _ _ (begins _ _ delimited), if_neg (Nat.succ_ne_zero depth), List.nil_append,
    Dialect.appendText_cons, Dialect.pieceText, String.toList_append, List.append_assoc]
  exact (closes depth _).trans (after _ depth rest delimited)

/-- A text that opens a parenthesis, and the fragment that stands in it. -/
theorem bracketed {opening : String} (opens : Leads opening 0 1 [])
    (inner : Shows dialect fragment kinds) :
    Shows dialect (.text opening :: fragment ++ [.text ")"]) [] :=
  inner.enclosed opens leads_closing delimits_closing nil

theorem parenthesised (inner : Shows dialect fragment kinds) :
    Shows dialect fragment.parenthesised [] :=
  inner.bracketed fun _ _ => rfl

theorem grouped (group : Bool) (inner : Shows dialect fragment []) :
    Shows dialect (fragment.grouped group) [] := by
  cases group with
  | false => exact inner
  | true => exact inner.parenthesised

/-- Fragments that show nothing, with a text between them that shows nothing. -/
theorem separated {separator : String} (separates : Separates separator)
    {fragments : List Fragment} (silent : ∀ fragment ∈ fragments, Shows dialect fragment []) :
    Shows dialect (Fragment.separated separator fragments) [] := by
  match fragments with
  | [] => exact nil
  | [last] => exact silent last List.mem_cons_self
  | first :: second :: rest =>
    obtain ⟨firstSilent, others⟩ := List.forall_mem_cons.mp silent
    exact firstSilent.append (.text separates.delimits _)
      ((separated separates others).cons separates.leads)

theorem call {function : String} (word : function.toList.all Token.isWordChar = true)
    (apart : isUnionWord function.toList = false) {arguments : List Fragment}
    (silent : ∀ fragment ∈ arguments, Shows dialect fragment []) :
    Shows dialect (Fragment.call function arguments) [] := by
  have name : Shows dialect [.text function] [] := text (.of_word word) apart
  have listed : Shows dialect (Fragment.separated ", " arguments) [] :=
    separated separates_comma silent
  exact name.append (.text ⟨'(', [], rfl, by decide⟩ _)
    (listed.bracketed (fun _ _ => rfl : Leads "(" 0 1 []))

variable (standard : dialect.spelling = {})

include standard

theorem name (name : Name) : Shows dialect [.name name] [] := by
  intro bound depth rest delimited
  have text : dialect.appendText "" bound [.name name] = Spelling.name {} name := by
    rw [Dialect.appendText, Dialect.appendText, Dialect.pieceText, standard, String.empty_append]
  rw [text, Region.unions_name depth name delimited, ite_self, List.nil_append]

theorem value (value : Value) : Shows dialect [.value value] [] := by
  intro bound depth rest delimited
  cases null : value.isNull with
  | true =>
    have text : dialect.appendText "" bound [.value value] = "NULL" := by
      simp [Dialect.appendText, Dialect.pieceText, ValueStyle.text, null]
    have leads : Leads "NULL" 0 0 "NULL".toList := .of_word (by decide)
    rw [text, ite_self, List.nil_append]
    exact (leads depth _).trans (Region.unions_of_delimited depth (by decide) delimited)
  | false =>
    have text : dialect.appendText "" bound [.value value] = "?" := by
      simp [Dialect.appendText, Dialect.pieceText, ValueStyle.text, null, standard]
    rw [text, ite_self, List.nil_append]
    rfl

end Fragment.Shows

/-- The fragment shows the unions and may stand after a word. -/
structure Fragment.Follows (dialect : Dialect) (fragment : Fragment) (kinds : List UnionKind) :
    Prop where
  unions : fragment.Shows dialect kinds
  begins : fragment.Begins dialect

namespace Fragment.Follows

variable {dialect : Dialect} {fragment other : Fragment} {kinds more : List UnionKind}

theorem after (follows : Follows dialect other more) (before : Shows dialect fragment kinds) :
    Shows dialect (fragment ++ other) (kinds ++ more) :=
  before.append follows.begins follows.unions

theorem nil : Follows dialect [] [] :=
  ⟨.nil, .nil⟩

theorem text {text : String} (separates : Separates text) (shown : Shows dialect fragment kinds) :
    Follows dialect (.text text :: fragment) kinds :=
  ⟨shown.cons separates.leads, .text separates.delimits _⟩

theorem append (first : Follows dialect fragment kinds) (second : Follows dialect other more) :
    Follows dialect (fragment ++ other) (kinds ++ more) :=
  ⟨second.after first.unions, first.begins.append second.begins⟩

end Fragment.Follows

end SqlTree
