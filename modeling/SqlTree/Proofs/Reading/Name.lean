import SqlTree.Proofs.Placeholder
import SqlTree.Proofs.Reading.Token

/-! # Reading names

A reader of a spelled name cuts it at the dots outside quotes, takes a part that does not begin with
a quote as it stands and reads a part between quotes with two quotes for one. It gives back the
identifiers of every name (`readName_name`), whatever characters they hold and whichever words are
reserved, as long as the quote can be told from dots and from the characters of words.
-/

namespace SqlTree

namespace Quoted

/-- The parts of a text between the dots outside quotes. -/
def splitDots (quote : Char) : (inQuotes : Bool) → List Char → List (List Char)
  | _, [] => [[]]
  | inQuotes, c :: rest =>
    if c = '.' ∧ inQuotes = false then [] :: splitDots quote false rest
    else (splitDots quote (inQuotes ^^ c == quote) rest).modifyHead (c :: ·)

/-- The identifier that a part is the spelling of. A part that begins with a quote has to end with
the quote that closes it. -/
def readPart (quote : Char) : List Char → Option String
  | [] => some ""
  | c :: rest =>
    if c = quote then
      match read quote rest with
      | some (text, []) => some (String.ofList text)
      | _ => none
    else some (String.ofList (c :: rest))

/-- The identifiers that a text is the spelling of. -/
def readName (quote : Char) (text : String) : Option (List String) :=
  (splitDots quote false text.toList).mapM (readPart quote)

/-- A dot outside quotes ends a part. -/
private theorem splitDots_dot (quote : Char) (rest : List Char) :
    splitDots quote false ('.' :: rest) = [] :: splitDots quote false rest := by
  rw [splitDots, if_pos ⟨rfl, rfl⟩]

/-- Every other character belongs to the part that goes on behind it. -/
theorem splitDots_cons {quote c : Char} {inQuotes : Bool} (kept : c ≠ '.' ∨ inQuotes = true)
    (rest : List Char) :
    splitDots quote inQuotes (c :: rest) =
      (splitDots quote (inQuotes ^^ c == quote) rest).modifyHead (c :: ·) := by
  have noEnd : ¬ (c = '.' ∧ inQuotes = false) := by
    rintro ⟨dot, outside⟩
    rcases kept with noDot | inside
    · exact noDot dot
    · rw [outside] at inside
      cases inside
  rw [splitDots, if_neg noEnd]

/-- A text without dots and quotes belongs to one part. -/
private theorem splitDots_plain {quote : Char} {text : List Char}
    (plain : ∀ c ∈ text, c ≠ '.' ∧ c ≠ quote) (rest : List Char) :
    splitDots quote false (text ++ rest) =
      (splitDots quote false rest).modifyHead (text ++ ·) := by
  induction text with
  | nil => exact List.modifyHead_id.symm ▸ rfl
  | cons c text ih =>
    obtain ⟨⟨noDot, noQuote⟩, others⟩ := List.forall_mem_cons.mp plain
    have stays : (false ^^ c == quote) = false := by simpa using noQuote
    rw [List.cons_append, splitDots_cons (.inl noDot), stays, ih others, List.modifyHead_modifyHead]
    rfl

/-- Between quotes dots do not end a part, and neither do two quotes next to each other. -/
private theorem splitDots_doubled {quote : Char} (noDot : quote ≠ '.') (text rest : List Char) :
    splitDots quote true (doubled quote text ++ rest) =
      (splitDots quote true rest).modifyHead (doubled quote text ++ ·) := by
  induction text with
  | nil => exact List.modifyHead_id.symm ▸ rfl
  | cons c text ih =>
    rw [doubled, List.flatMap_cons, ← doubled]
    by_cases same : c = quote
    · subst same
      have leaves : (true ^^ c == c) = false := by simp
      have returns : (false ^^ c == c) = true := by simp
      rw [if_pos rfl]
      change splitDots c true (c :: c :: (doubled c text ++ rest)) = _
      rw [splitDots_cons (.inr rfl), leaves, splitDots_cons (.inl noDot), returns, ih,
        List.modifyHead_modifyHead, List.modifyHead_modifyHead]
      rfl
    · have stays : (true ^^ c == quote) = true := by simpa using same
      rw [if_neg same]
      change splitDots quote true (c :: (doubled quote text ++ rest)) = _
      rw [splitDots_cons (.inr rfl), stays, ih, List.modifyHead_modifyHead]
      rfl

/-- A text between quotes belongs to one part, whatever it holds. -/
private theorem splitDots_enclose {quote : Char} (noDot : quote ≠ '.') (text : String) (rest : List Char) :
    splitDots quote false ((enclose quote text).toList ++ rest) =
      (splitDots quote false rest).modifyHead ((enclose quote text).toList ++ ·) := by
  have opens : (false ^^ quote == quote) = true := by simp
  have closes : (true ^^ quote == quote) = false := by simp
  rw [enclose, String.toList_ofList, List.cons_append, List.cons_append, List.append_assoc,
    splitDots_cons (.inl noDot), opens, splitDots_doubled noDot, List.singleton_append,
    splitDots_cons (.inr rfl), closes, List.modifyHead_modifyHead, List.modifyHead_modifyHead]
  congr 1
  funext part
  simp

end Quoted

namespace Spelling

/-- The quote can be told from the characters of words and from the dots between identifiers. -/
structure Separable (spelling : Spelling) : Prop where
  alphanum : spelling.quote.isAlphanum = false
  underscore : spelling.quote ≠ '_'
  dot : spelling.quote ≠ '.'

theorem separable_of_isQuote {spelling : Spelling}
    (isQuoted : Region.isQuote spelling.quote = true) : spelling.Separable := by
  simp only [Region.isQuote, Bool.or_eq_true, beq_iff_eq] at isQuoted
  constructor
  · rcases isQuoted with (same | same) | same <;> rw [same] <;> decide
  · rcases isQuoted with (same | same) | same <;> rw [same] <;> decide
  · rcases isQuoted with (same | same) | same <;> rw [same] <;> decide

/-- The text matches `[A-Za-z_][A-Za-z0-9_]*`. -/
def IsWordText (text : List Char) : Prop :=
  ∃ first rest, text = first :: rest ∧ (first.isAlpha = true ∨ first = '_') ∧
    ∀ c ∈ rest, c.isAlphanum = true ∨ c = '_'

private theorem isWord_iff {id : String} : isWord id = true ↔ IsWordText id.toList := by
  unfold isWord
  cases id.toList with
  | nil => exact ⟨nofun, nofun⟩
  | cons first rest =>
    simp only [Bool.and_eq_true, Bool.or_eq_true, beq_iff_eq, List.all_eq_true]
    constructor
    · rintro ⟨start, others⟩
      exact ⟨first, rest, rfl, start, others⟩
    · rintro ⟨_, _, ⟨⟩, start, others⟩
      exact ⟨start, others⟩

variable {spelling : Spelling}

/-- A bare identifier is a word that is not reserved, in a dialect that does not quote all. -/
theorem isBare_iff {id : String} :
    spelling.isBare id = true ↔
      spelling.alwaysQuote = false ∧ isWord id = true ∧ spelling.isReserved id = false := by
  simp only [isBare, Bool.and_eq_true, Bool.not_eq_true', and_assoc]

section

variable (separable : spelling.Separable)

include separable

/-- The characters of bare identifiers are no dots and no quotes. -/
theorem Separable.plain {id : String} (bare : spelling.isBare id = true) :
    ∀ c ∈ id.toList, c ≠ '.' ∧ c ≠ spelling.quote := by
  intro c member
  have letter := isAlphanum_of_isWord (isBare_iff.mp bare).2.1 c member
  constructor
  · rintro rfl
    exact absurd letter (by decide)
  · rintro rfl
    rw [separable.alphanum, Bool.false_or, beq_iff_eq] at letter
    exact separable.underscore letter

/-- A spelled identifier belongs to one part. -/
theorem Separable.splitDots_identifier (id : String) (rest : List Char) :
    Quoted.splitDots spelling.quote false ((spelling.identifier id).toList ++ rest) =
      (Quoted.splitDots spelling.quote false rest).modifyHead
        ((spelling.identifier id).toList ++ ·) := by
  unfold identifier
  split
  · rename_i bare
    exact Quoted.splitDots_plain (separable.plain bare) rest
  · exact Quoted.splitDots_enclose separable.dot id rest

/-- A spelled name before a dot is cut into its spelled identifiers. -/
private theorem Separable.splitDots_name_dot (name : Name) (rest : List Char) :
    Quoted.splitDots spelling.quote false ((spelling.name name).toList ++ '.' :: rest) =
      name.parts.map (fun id => (spelling.identifier id).toList) ++
        Quoted.splitDots spelling.quote false rest := by
  induction name generalizing rest with
  | identifier id =>
    rw [Spelling.name, separable.splitDots_identifier, Quoted.splitDots_dot]
    simp [Name.parts]
  | qualified parent id ih =>
    have text : (spelling.name (.qualified parent id)).toList ++ '.' :: rest =
        (spelling.name parent).toList ++
          '.' :: ((spelling.identifier id).toList ++ '.' :: rest) := by
      simp [Spelling.name]
    rw [text, ih, separable.splitDots_identifier, Quoted.splitDots_dot]
    simp [Name.parts]

/-- A spelled name is cut into its spelled identifiers. -/
theorem Separable.splitDots_name (name : Name) :
    Quoted.splitDots spelling.quote false (spelling.name name).toList =
      name.parts.map fun id => (spelling.identifier id).toList := by
  have whole (id : String) :
      Quoted.splitDots spelling.quote false (spelling.identifier id).toList =
        [(spelling.identifier id).toList] := by
    have last := separable.splitDots_identifier id []
    rw [List.append_nil] at last
    simpa [Quoted.splitDots] using last
  cases name with
  | identifier id => exact whole id
  | qualified parent id =>
    have text : (spelling.name (.qualified parent id)).toList =
        (spelling.name parent).toList ++ '.' :: (spelling.identifier id).toList := by
      simp [Spelling.name]
    rw [text, separable.splitDots_name_dot, whole, Name.parts, List.map_append]
    rfl

/-- A spelled identifier is read as the identifier. -/
theorem Separable.readPart_identifier (id : String) :
    Quoted.readPart spelling.quote (spelling.identifier id).toList = some id := by
  unfold identifier
  split
  · rename_i bare
    obtain ⟨first, rest, text, -⟩ := isWord_iff.mp (isBare_iff.mp bare).2.1
    have noQuote := (separable.plain bare first (text ▸ List.mem_cons_self)).2
    rw [text, Quoted.readPart, if_neg noQuote, ← text, String.ofList_toList]
  · have ends : ∀ c ∈ ([] : List Char).head?, c ≠ spelling.quote := by
      intro c member
      cases member
    rw [quoted, Quoted.enclose, String.toList_ofList, List.cons_append, Quoted.readPart,
      if_pos rfl, Quoted.read_doubled ends]
    exact congrArg some String.ofList_toList

/-- Different identifiers are spelled differently. -/
theorem Separable.identifier_injective : Function.Injective spelling.identifier := by
  intro first second same
  have parts := congrArg (fun text => Quoted.readPart spelling.quote text.toList) same
  simp only [separable.readPart_identifier] at parts
  exact Option.some.inj parts

/-- A spelled name is read as its identifiers. -/
private theorem Separable.readName_eq (name : Name) :
    Quoted.readName spelling.quote (spelling.name name) = some name.parts := by
  rw [Quoted.readName, separable.splitDots_name]
  induction name.parts with
  | nil => rfl
  | cons id rest ih => rw [List.map_cons, List.mapM_cons, separable.readPart_identifier, ih]; rfl

/-- A part that does not begin with a quote is a word that is not reserved. -/
private theorem Separable.isBare_of_mem_splitDots {name : Name} {part : List Char}
    (member : part ∈ Quoted.splitDots spelling.quote false (spelling.name name).toList)
    (unquoted : part.head? ≠ some spelling.quote) :
    spelling.isBare (String.ofList part) = true := by
  rw [separable.splitDots_name] at member
  obtain ⟨id, -, rfl⟩ := List.mem_map.mp member
  rw [String.ofList_toList]
  unfold identifier at unquoted ⊢
  split
  · rename_i bare
    exact bare
  · rename_i quotes
    rw [if_neg quotes, quoted, Quoted.enclose, String.toList_ofList] at unquoted
    exact absurd rfl unquoted

end

/-- Reading undoes spelling for every name, whatever its identifiers are and whichever words are
reserved or quoted without need. Different names are therefore spelled differently, and each part
that stands without quotes is a word that is not reserved. -/
theorem readName_name (spelling : Spelling) (separable : spelling.Separable) :
    (∀ name, Quoted.readName spelling.quote (spelling.name name) = some name.parts) ∧
      Function.Injective spelling.name ∧
      ∀ name, ∀ part ∈ Quoted.splitDots spelling.quote false (spelling.name name).toList,
        part.head? ≠ some spelling.quote →
          spelling.alwaysQuote = false ∧ IsWordText part ∧
            spelling.isReserved (String.ofList part) = false := by
  refine ⟨separable.readName_eq, ?_, ?_⟩
  · intro first second same
    have read := separable.readName_eq first
    rw [same, separable.readName_eq] at read
    exact Name.eq_of_parts_eq (Option.some.inj read).symm
  · intro name part member unquoted
    have bare := separable.isBare_of_mem_splitDots member unquoted
    obtain ⟨sparing, word, free⟩ := isBare_iff.mp bare
    rw [isWord_iff, String.toList_ofList] at word
    exact ⟨sparing, word, free⟩

/-- A name with an empty identifier, a dot, quotes, a reserved word and a word in its parts. -/
def dottedName : Name :=
  .ofParts "" ["a.b", "``", "select", "x_1"]

theorem readName_name_dottedName :
    Dialect.mysql.spelling.name dottedName = "``.`a.b`.``````.`select`.x_1" ∧
      Quoted.readName '\x60' "``.`a.b`.``````.`select`.x_1" =
        some ["", "a.b", "``", "select", "x_1"] := by
  have separable : Dialect.mysql.spelling.Separable := ⟨by decide, by decide, by decide⟩
  have text : Dialect.mysql.spelling.name dottedName = "``.`a.b`.``````.`select`.x_1" := by
    decide +kernel
  obtain ⟨reads, -⟩ := readName_name Dialect.mysql.spelling separable
  exact ⟨text, text ▸ reads dottedName⟩

end Spelling

end SqlTree
