import SqlTree.Fragment

/-! # Tokens of a compiled text

A database reads a compiled text as tokens. Blanks separate them; keywords are words in any case,
other words and what stands between double quotes are identifiers, and each placeholder takes the
next argument, so that a text and its arguments together are read as one list of tokens.
-/

namespace SqlTree

/-! ## Reading words and quoted texts

A word goes on as long as its characters do, so it ends before a character that is none of them.
A reader of what follows an opening quote takes two quotes for one and stops at a quote that stands
alone. It gives back every text that was written with its quotes doubled, whatever follows, as long
as what follows does not begin with another quote.
-/

section

variable {isWord : Char → Bool} {word after : List Char} (inside : ∀ c ∈ word, isWord c = true)
  (ends : ∀ c ∈ after.head?, isWord c = false)

include inside ends

theorem takeWhile_of_ends : (word ++ after).takeWhile isWord = word := by
  rw [List.takeWhile_append_of_pos inside]
  cases after with
  | nil => simp
  | cons c rest => simp [ends c rfl]

theorem dropWhile_of_ends : (word ++ after).dropWhile isWord = after := by
  rw [List.dropWhile_append_of_pos inside]
  cases after with
  | nil => simp
  | cons c rest => simp [ends c rfl]

end

namespace Quoted

/-- The text before the quote that ends it, and what follows that quote. -/
def read (quote : Char) : List Char → Option (List Char × List Char)
  | [] => none
  | [c] => if c = quote then some ([], []) else none
  | c :: d :: rest =>
    if c ≠ quote then (read quote (d :: rest)).map fun (text, after) => (c :: text, after)
    else if d = quote then (read quote rest).map fun (text, after) => (c :: text, after)
    else some ([], d :: rest)

private theorem read_cons {quote c : Char} (other : c ≠ quote) (text : List Char) :
    read quote (c :: text) = (read quote text).map fun (content, after) => (c :: content, after) := by
  cases text with
  | nil => simp [read, other]
  | cons d rest => rw [read, if_pos other]

private theorem read_quote_quote (quote : Char) (text : List Char) :
    read quote (quote :: quote :: text) =
      (read quote text).map fun (content, after) => (quote :: content, after) := by
  rw [read, if_neg (by simp), if_pos rfl]

private theorem read_quote {quote : Char} {after : List Char} (ends : ∀ c ∈ after.head?, c ≠ quote) :
    read quote (quote :: after) = some ([], after) := by
  cases after with
  | nil => rw [read, if_pos rfl]
  | cons d rest => rw [read, if_neg (by simp), if_neg (ends d rfl)]

/-- Doubling quotes is undone by reading. -/
theorem read_doubled {quote : Char} {after : List Char} (ends : ∀ c ∈ after.head?, c ≠ quote)
    (text : List Char) : read quote (doubled quote text ++ quote :: after) = some (text, after) := by
  induction text with
  | nil => exact read_quote ends
  | cons c rest ih =>
    rw [doubled, List.flatMap_cons, ← doubled, List.append_assoc]
    by_cases same : c = quote
    · subst same
      simp only [↓reduceIte, List.cons_append, List.nil_append]
      rw [read_quote_quote, ih]
      rfl
    · simp only [same, ↓reduceIte, List.cons_append, List.nil_append]
      rw [read_cons same, ih]
      rfl

/-- What follows a quoted text is shorter than what was read. -/
private theorem length_lt_of_read {quote : Char} {text content after : List Char}
    (found : read quote text = some (content, after)) : after.length < text.length := by
  fun_induction read quote text generalizing content after with
  | case1 => cases found
  | case2 =>
    cases found
    exact Nat.zero_lt_one
  | case3 => cases found
  | case4 c d rest other ih =>
    obtain ⟨⟨_, _⟩, inner, equal⟩ := Option.map_eq_some_iff.mp found
    cases equal
    exact Nat.lt_succ_of_lt (ih inner)
  | case5 c rest _ ih =>
    obtain ⟨⟨_, _⟩, inner, equal⟩ := Option.map_eq_some_iff.mp found
    cases equal
    exact Nat.lt_succ_of_lt (Nat.lt_succ_of_lt (ih inner))
  | case6 c d rest =>
    cases found
    exact Nat.lt_succ_self _

end Quoted

/-! ## Tokens -/

/-- What a text is made of: values, identifiers, operators and the signs around them. -/
inductive Token where
  | value (value : Value)
  | identifier (id : String)
  | operator (op : BinaryOp)
  | null | not | is | within
  | opening | closing | comma | dot
deriving DecidableEq, Repr, Inhabited

namespace Token

def keywords : List (String × Token) :=
  [("AND", .operator .and), ("OR", .operator .or), ("LIKE", .operator .like), ("NULL", .null),
   ("NOT", .not), ("IS", .is), ("IN", .within)]

def signs : List (String × Token) :=
  [("=", .operator .eq), ("<>", .operator .notEq), ("<", .operator .lt), ("<=", .operator .ltEq),
   (">", .operator .gt), (">=", .operator .gtEq), ("+", .operator .add), ("-", .operator .sub),
   ("*", .operator .mul), ("/", .operator .div), ("(", .opening), (")", .closing), (",", .comma),
   (".", .dot)]

def isWordStart (c : Char) : Bool :=
  c.isAlpha || c == '_'

def isWordChar (c : Char) : Bool :=
  c.isAlphanum || c == '_'

/-- Whether the character is part of the signs of comparisons. -/
def isComparisonChar (c : Char) : Bool :=
  c == '<' || c == '=' || c == '>'

/-- Whether a token that begins with `first` goes on with `next`: words and the signs of comparisons
are as long as possible, and every other token is one character. -/
def goesOn (first next : Char) : Bool :=
  isWordChar first && isWordChar next || isComparisonChar first && isComparisonChar next

/-- The token of a word: a keyword, whatever the case of its letters, or an identifier. -/
def ofWord (word : List Char) : Token :=
  (keywords.lookup (String.ofList (word.map Char.toUpper))).getD (.identifier (String.ofList word))

def ofSpelling (first : Char) (rest : List Char) : Option Token :=
  if isWordStart first then some (ofWord (first :: rest))
  else signs.lookup (String.ofList (first :: rest))

end Token

/-- The tokens of a text whose placeholders stand for the arguments in order. There have to be as
many arguments as placeholders. -/
def lex (arguments : List Value) (text : List Char) : Option (List Token) :=
  match text with
  | [] => if arguments.isEmpty then some [] else none
  | first :: rest =>
    if first = ' ' then lex arguments rest
    else if first = '?' then
      match arguments with
      | [] => none
      | value :: others => (lex others rest).map (.value value :: ·)
    else if first = '\"' then
      match _found : Quoted.read '\"' rest with
      | none => none
      | some (id, after) => (lex arguments after).map (.identifier (String.ofList id) :: ·)
    else
      match Token.ofSpelling first (rest.takeWhile (Token.goesOn first)) with
      | none => none
      | some token =>
        (lex arguments (rest.dropWhile (Token.goesOn first))).map (token :: ·)
termination_by text.length
decreasing_by
  · exact Nat.lt_succ_self _
  · exact Nat.lt_succ_self _
  · exact Nat.lt_succ_of_lt (Quoted.length_lt_of_read _found)
  · exact Nat.lt_succ_of_le (List.dropWhile_suffix _).length_le

/-- A word or a quoted identifier before the text ends with it. -/
def Delimited (text : List Char) : Prop :=
  ∀ c ∈ text.head?, Token.isWordChar c = false ∧ c ≠ '\"'

theorem delimited_nil : Delimited [] := by
  simp [Delimited]

theorem lex_nil : lex [] [] = some [] := by
  rw [lex.eq_def]
  rfl

theorem lex_blank (arguments : List Value) (rest : List Char) :
    lex arguments (' ' :: rest) = lex arguments rest := by
  rw [lex.eq_def]
  exact if_pos rfl

theorem lex_placeholder (value : Value) (arguments : List Value) (rest : List Char) :
    lex (value :: arguments) ('?' :: rest) = (lex arguments rest).map (.value value :: ·) := by
  rw [lex.eq_def]
  simp

/-- Whatever a quoted identifier holds, it is read as that identifier. -/
theorem lex_quoted (arguments : List Value) (id : String) {rest : List Char}
    (delimited : Delimited rest) :
    lex arguments ((Quoted.enclose '\"' id).toList ++ rest) =
      (lex arguments rest).map (.identifier id :: ·) := by
  have read := Quoted.read_doubled (fun c head => (delimited c head).2) id.toList
  rw [Quoted.enclose, String.toList_ofList, List.cons_append, List.cons_append, List.append_assoc,
    List.singleton_append, lex.eq_def]
  dsimp only
  rw [if_neg (by decide), if_neg (by decide), if_pos rfl]
  split
  · rename_i none
    rw [read] at none
    cases none
  · rename_i content after some
    rw [read] at some
    cases some
    rw [String.ofList_toList]

/-- A token is read as far as it goes on. -/
theorem lex_spelling {first : Char} {body : List Char} {token : Token}
    (plain : first ≠ ' ' ∧ first ≠ '?' ∧ first ≠ '\"')
    (whole : body.all (Token.goesOn first) = true)
    (spelled : Token.ofSpelling first body = some token) (arguments : List Value)
    {rest : List Char} (ends : ∀ c ∈ rest.head?, Token.goesOn first c = false) :
    lex arguments (first :: (body ++ rest)) = (lex arguments rest).map (token :: ·) := by
  have inside : ∀ c ∈ body, Token.goesOn first c = true := List.all_eq_true.mp whole
  rw [lex.eq_def]
  dsimp only
  rw [if_neg plain.1, if_neg plain.2.1, if_neg plain.2.2,
    takeWhile_of_ends inside ends, dropWhile_of_ends inside ends, spelled]

end SqlTree
