import SqlTree.Form
import SqlTree.Proofs.Reading.Grammar

/-! # Fragments and their tokens

Which tokens the text of a fragment is read as, in a dialect that spells identifiers and values as
standard SQL does. A word or an identifier ends where something else begins, so a fragment is read
as its tokens before every text that does not go on with it; a text that opens something is read as
its tokens before every text.
-/

namespace SqlTree

/-! ## Texts between operands -/

/-- Whatever follows, the text is read as the tokens. -/
def Opens (text : List Char) (tokens : List Token) : Prop :=
  ∀ arguments rest, lex arguments (text ++ rest) = (lex arguments rest).map (tokens ++ ·)

theorem Opens.append {first second : List Char} {tokens more : List Token}
    (before : Opens first tokens) (after : Opens second more) :
    Opens (first ++ second) (tokens ++ more) := by
  intro arguments rest
  rw [List.append_assoc, before, after, Option.map_map]
  simp [Function.comp_def]

private theorem opens_blank : Opens [' '] [] := by
  intro arguments rest
  simpa using lex_blank arguments rest

/-- A token that a blank follows. -/
theorem opens_spelling {first : Char} {body : List Char} {token : Token}
    (plain : first ≠ ' ' ∧ first ≠ '?' ∧ first ≠ '\"')
    (whole : body.all (Token.goesOn first) = true)
    (spelled : Token.ofSpelling first body = some token) :
    Opens (first :: body ++ [' ']) [token] := by
  intro arguments rest
  have apart : Token.goesOn first ' ' = false := by
    simp [Token.goesOn, Token.isWordChar, Token.isComparisonChar, Char.isAlphanum]
  have read := lex_spelling plain whole spelled arguments
    (by simpa using apart : ∀ c ∈ (' ' :: rest).head?, Token.goesOn first c = false)
  rw [lex_blank] at read
  simpa using read

/-- A sign of one character that nothing goes on with. -/
theorem opens_sign {sign : Char} {token : Token} (plain : sign ≠ ' ' ∧ sign ≠ '?' ∧ sign ≠ '\"')
    (single : Token.isWordChar sign = false ∧ Token.isComparisonChar sign = false)
    (spelled : Token.ofSpelling sign [] = some token) :
    Opens [sign] [token] := by
  intro arguments rest
  have ends : ∀ c ∈ rest.head?, Token.goesOn sign c = false := by
    simp [Token.goesOn, single.1, single.2]
  have none : ([] : List Char).all (Token.goesOn sign) = true := rfl
  exact lex_spelling plain none spelled arguments ends

theorem opens_operator (op : BinaryOp) : Opens (" " ++ op.text ++ " ").toList [.operator op] := by
  obtain ⟨first, body, text, plain, whole, spelled⟩ : ∃ first body, op.text.toList = first :: body ∧
      (first ≠ ' ' ∧ first ≠ '?' ∧ first ≠ '\"') ∧
      body.all (Token.goesOn first) = true ∧
      Token.ofSpelling first body = some (.operator op) := by
    cases op <;> exact ⟨_, _, rfl, by decide, by decide, by decide⟩
  rw [String.toList_append, String.toList_append, text]
  exact opens_blank.append (opens_spelling plain whole spelled)

private theorem opens_opening : Opens "(".toList [.opening] :=
  opens_sign (by decide) (by decide) (by decide)

theorem opens_closing : Opens ")".toList [.closing] :=
  opens_sign (by decide) (by decide) (by decide)

private theorem opens_comma : Opens ", ".toList [.comma] :=
  (opens_sign (by decide) (by decide) (by decide) : Opens [','] [.comma]).append opens_blank

theorem opens_not : Opens "NOT ".toList [.not] :=
  opens_spelling (by decide) (by decide)
    (by decide : Token.ofSpelling 'N' ['O', 'T'] = some .not)

theorem opens_membership (negated : Bool) :
    Opens (Form.membership negated).toList (Token.negation negated ++ [.within, .opening]) := by
  have within : Opens "IN (".toList [.within, .opening] :=
    (opens_spelling (by decide) (by decide)
      (by decide : Token.ofSpelling 'I' ['N'] = some .within)).append opens_opening
  cases negated with
  | false => exact opens_blank.append within
  | true => exact opens_blank.append (opens_not.append within)

/-! ## Words, identifiers and names -/

/-- A word does not go on where it is delimited. -/
private theorem Delimited.ends {first : Char} (word : Token.isWordStart first = true) {rest : List Char}
    (delimited : Delimited rest) : ∀ c ∈ rest.head?, Token.goesOn first c = false := by
  intro c head
  have apart : Token.isComparisonChar first = false := by
    refine Bool.eq_false_iff.mpr fun sign => ?_
    simp only [Token.isComparisonChar, Bool.or_eq_true, beq_iff_eq] at sign
    rcases sign with (rfl | rfl) | rfl <;> exact absurd word (by decide)
  simp [Token.goesOn, (delimited c head).1, apart]

/-- A word is read as its token before a text that does not go on with it. -/
theorem lex_word {first : Char} {body : List Char} (start : Token.isWordStart first = true)
    (word : body.all Token.isWordChar = true) (arguments : List Value) {rest : List Char}
    (delimited : Delimited rest) :
    lex arguments (first :: (body ++ rest)) =
      (lex arguments rest).map (Token.ofWord (first :: body) :: ·) := by
  have plain : first ≠ ' ' ∧ first ≠ '?' ∧ first ≠ '\"' := by
    refine ⟨?_, ?_, ?_⟩ <;> rintro rfl <;> exact absurd start (by decide)
  have firstChar : Token.isWordChar first = true := by
    simp only [Token.isWordStart, Token.isWordChar, Char.isAlphanum, Bool.or_eq_true] at start ⊢
    exact start.imp_left .inl
  have whole : body.all (Token.goesOn first) = true := by
    refine List.all_eq_true.mpr fun c member => ?_
    simp [Token.goesOn, firstChar, List.all_eq_true.mp word c member]
  have spelled : Token.ofSpelling first body = some (Token.ofWord (first :: body)) := by
    rw [Token.ofSpelling, if_pos start]
  exact lex_spelling plain whole spelled arguments (delimited.ends start)

private theorem lex_null (arguments : List Value) {rest : List Char} (delimited : Delimited rest) :
    lex arguments ("NULL".toList ++ rest) = (lex arguments rest).map (.null :: ·) :=
  lex_word (by decide) (by decide : ['U', 'L', 'L'].all Token.isWordChar = true) arguments
    delimited

/-- A word that is not reserved is an identifier, as all keywords are reserved. -/
private theorem Token.ofWord_of_not_isReserved {id : String} (free : ReservedWord.isReserved id = false) :
    Token.ofWord id.toList = .identifier id := by
  have reserved : ∀ entry ∈ Token.keywords,
      ReservedWord.foundIn ReservedWord.table entry.1 = true := by decide +kernel
  rw [Token.ofWord, String.ofList_toList, ← String.map_eq_internal]
  cases found : Token.keywords.lookup (id.map Char.toUpper) with
  | none => rfl
  | some token =>
    obtain ⟨before, after, keywords, _⟩ := List.lookup_eq_some_iff.mp found
    have member : (id.map Char.toUpper, token) ∈ Token.keywords := by simp [keywords]
    rw [ReservedWord.isReserved, reserved _ member] at free
    cases free

/-- An identifier is read as itself, be it bare or quoted. -/
private theorem lex_identifier (arguments : List Value) (id : String) {rest : List Char}
    (delimited : Delimited rest) :
    lex arguments ((Spelling.identifier {} id).toList ++ rest) =
      (lex arguments rest).map (.identifier id :: ·) := by
  unfold Spelling.identifier
  split
  · rename_i bare
    simp only [Spelling.isBare, Bool.not_false, Bool.true_and, Bool.and_eq_true,
      Bool.not_eq_true'] at bare
    obtain ⟨word, free⟩ := bare
    rw [← Token.ofWord_of_not_isReserved free]
    unfold Spelling.isWord at word
    cases chars : id.toList with
    | nil => simp [chars] at word
    | cons first body =>
      simp only [chars, Bool.and_eq_true] at word
      exact lex_word word.1 word.2 arguments delimited
  · exact lex_quoted arguments id delimited

/-- A name is read as its identifiers with dots between them. -/
private theorem lex_name (arguments : List Value) (name : Name) {rest : List Char}
    (delimited : Delimited rest) :
    lex arguments ((Spelling.name {} name).toList ++ rest) =
      (lex arguments rest).map (Token.ofName name ++ ·) := by
  induction name generalizing rest with
  | identifier id => exact lex_identifier arguments id delimited
  | qualified parent id ih =>
    have dot : Opens ".".toList [.dot] := opens_sign (by decide) (by decide) (by decide)
    have apart : Delimited (".".toList ++ ((Spelling.identifier {} id).toList ++ rest)) := by
      intro c head
      cases head
      decide
    rw [Spelling.name, String.toList_append, String.toList_append, List.append_assoc,
      List.append_assoc, ih apart, dot, lex_identifier arguments id delimited, Option.map_map,
      Option.map_map, Token.ofName]
    simp [Function.comp_def]

/-! ## Fragments -/

/-- Before every text that does not go on with it, the fragment is read as the tokens. -/
def Fragment.Spelled (dialect : Dialect) (fragment : Fragment) (tokens : List Token) : Prop :=
  ∀ (bound : Nat) (arguments : List Value) (rest : List Char), Delimited rest →
    lex (dialect.argumentsOf fragment ++ arguments)
        ((dialect.appendText "" bound fragment).toList ++ rest) =
      (lex arguments rest).map (tokens ++ ·)

/-- A word or an identifier ends where the text begins. -/
def Delimits (text : String) : Prop :=
  ∃ c rest, text.toList = c :: rest ∧ Token.isWordChar c = false ∧ c ≠ '\"'

theorem delimits_operator (op : BinaryOp) : Delimits (" " ++ op.text ++ " ") :=
  ⟨' ', op.text.toList ++ [' '], by simp, by decide⟩

theorem delimits_membership (negated : Bool) : Delimits (Form.membership negated) := by
  cases negated <;> exact ⟨' ', _, rfl, by decide⟩

namespace Fragment.Spelled

variable {dialect : Dialect} {fragment other : Fragment} {tokens more : List Token}

theorem nil : Spelled dialect [] [] := by
  intro bound arguments rest _
  simp [Dialect.argumentsOf, Dialect.appendText]

/-- A text that opens something, and what it opens. -/
theorem open_cons {text : String} (opens : Opens text.toList tokens)
    (spelled : Spelled dialect fragment more) :
    Spelled dialect (.text text :: fragment) (tokens ++ more) := by
  intro bound arguments rest delimited
  have noArgument : dialect.argumentsOf (.text text :: fragment) = dialect.argumentsOf fragment :=
    rfl
  rw [Dialect.appendText_cons, Dialect.pieceText, noArgument, String.toList_append,
    List.append_assoc, opens, spelled _ _ _ delimited, Option.map_map]
  simp [Function.comp_def]

/-- A fragment before a text that delimits it. -/
theorem append_text {text : String} (delimits : Delimits text)
    (before : Spelled dialect fragment tokens) (after : Spelled dialect (.text text :: other) more) :
    Spelled dialect (fragment ++ .text text :: other) (tokens ++ more) := by
  intro bound arguments rest delimited
  obtain ⟨c, tail, chars, apart⟩ := delimits
  have ends (bound : Nat) :
      Delimited ((dialect.appendText "" bound (.text text :: other)).toList ++ rest) := by
    rw [Dialect.appendText_cons, Dialect.pieceText, String.toList_append, chars]
    simpa [Delimited] using apart
  rw [Dialect.argumentsOf_append, Dialect.appendText_append, Dialect.appendText_eq,
    String.toList_append, List.append_assoc, List.append_assoc, before _ _ _ (ends _),
    after _ _ _ delimited, Option.map_map]
  simp [Function.comp_def]

/-- A fragment before a text that opens another. -/
theorem append_open {text : String} {between : List Token} (delimits : Delimits text)
    (opens : Opens text.toList between) (before : Spelled dialect fragment tokens)
    (after : Spelled dialect other more) :
    Spelled dialect (fragment ++ .text text :: other) (tokens ++ (between ++ more)) :=
  before.append_text delimits (after.open_cons opens)

theorem parenthesised (spelled : Spelled dialect fragment tokens) :
    Spelled dialect fragment.parenthesised (.opening :: tokens ++ [.closing]) := by
  have closed : Spelled dialect (fragment ++ [.text ")"]) (tokens ++ [.closing]) :=
    spelled.append_text ⟨')', [], rfl, by decide⟩ (nil.open_cons opens_closing)
  have opened := closed.open_cons opens_opening
  exact opened

/-- Parentheses fit an expression in everywhere; without them it has to be of the level. -/
theorem grouped {own level : Level} {expr : Expr} (spelled : Spelled dialect fragment tokens)
    (derives : Derives own tokens expr) (group : Bool)
    (fits : group = false → level.rank ≤ own.rank) :
    ∃ tokens, Spelled dialect (fragment.grouped group) tokens ∧ Derives level tokens expr := by
  cases group with
  | false => exact ⟨tokens, spelled, derives.loosen (fits rfl)⟩
  | true =>
    have inner := derives.loosen own.rank_loosest
    exact ⟨_, spelled.parenthesised, (Derives.parenthesised inner).loosen level.rank_tightest⟩

theorem nullTest (negated : Bool) (spelled : Spelled dialect fragment tokens) :
    Spelled dialect (fragment ++ [.text (if negated then " IS NOT NULL" else " IS NULL")])
      (tokens ++ (.is :: Token.negation negated ++ [.null])) := by
  refine spelled.append_text ?_ ?_
  · cases negated <;> exact ⟨' ', _, rfl, by decide⟩
  · intro bound arguments rest delimited
    have is : Opens " IS ".toList [.is] :=
      opens_blank.append (opens_spelling (by decide) (by decide)
        (by decide : Token.ofSpelling 'I' ['S'] = some .is))
    have keywords : Opens (if negated then " IS NOT " else " IS ").toList
        (.is :: Token.negation negated) := by
      cases negated with
      | false => exact is
      | true => exact is.append opens_not
    have text : (if negated then " IS NOT NULL" else " IS NULL").toList =
        (if negated then " IS NOT " else " IS ").toList ++ "NULL".toList := by
      cases negated <;> rfl
    rw [Dialect.appendText_cons, Dialect.pieceText, String.toList_append, text]
    change lex arguments ((_ ++ "NULL".toList) ++ [] ++ rest) = _
    rw [List.append_nil, List.append_assoc, keywords, lex_null arguments delimited, Option.map_map]
    simp [Function.comp_def]

variable (standard : dialect.spelling = {})

include standard

theorem name (name : Name) : Spelled dialect [.name name] (Token.ofName name) := by
  intro bound arguments rest delimited
  have text : dialect.appendText "" bound [.name name] = Spelling.name {} name := by
    rw [Dialect.appendText, Dialect.appendText, Dialect.pieceText, standard, String.empty_append]
  have noArgument : dialect.argumentsOf [.name name] = [] := rfl
  rw [text, noArgument, List.nil_append, lex_name arguments name delimited]

/-- A value is a placeholder, unless it is NULL. -/
theorem value (value : Value) : ∃ token, token.literal? = some value ∧
    Spelled dialect [.value value] [token] := by
  cases null : value.isNull with
  | true =>
    refine ⟨.null, by rw [Value.isNull_iff.mp null]; rfl, ?_⟩
    intro bound arguments rest delimited
    have text : dialect.appendText "" bound [.value value] = "NULL" := by
      simp [Dialect.appendText, Dialect.pieceText, ValueStyle.text, null]
    have noArgument : dialect.argumentsOf [.value value] = [] := by
      simp [Dialect.argumentsOf, ValueStyle.argument?, null]
    rw [text, noArgument, List.nil_append, lex_null arguments delimited]
    rfl
  | false =>
    refine ⟨.value value, rfl, ?_⟩
    intro bound arguments rest delimited
    have text : dialect.appendText "" bound [.value value] = "?" := by
      simp [Dialect.appendText, Dialect.pieceText, ValueStyle.text, null, standard]
    have argument : dialect.argumentsOf [.value value] = [value] := by
      simp [Dialect.argumentsOf, ValueStyle.argument?, null, standard]
    rw [text, argument]
    exact lex_placeholder value arguments rest

/-- Values with commas between them are a list of values. -/
theorem values (first : Value) (rest : List Value) : ∃ tokens, Listed tokens (first :: rest) ∧
    Spelled dialect (Fragment.separated ", " ((first :: rest).map fun value => [.value value]))
      tokens := by
  induction rest generalizing first with
  | nil =>
    obtain ⟨token, literal, spelled⟩ := value standard first
    exact ⟨[token], .last literal, spelled⟩
  | cons second others ih =>
    obtain ⟨token, literal, spelled⟩ := value standard first
    obtain ⟨tokens, listed, spelledRest⟩ := ih second
    exact ⟨_, .more literal listed,
      spelled.append_open ⟨',', [' '], rfl, by decide⟩ opens_comma spelledRest⟩

end Fragment.Spelled

end SqlTree
