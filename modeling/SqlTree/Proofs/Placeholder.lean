import SqlTree.Scan

/-! # Texts that a reader passes over

A text is closed if a reader that enters it outside quotes leaves it outside quotes and meets no
placeholder on the way. Words without quotes and question marks are closed, and so is every
quoted identifier, whatever it holds: a quote inside it is written twice, so a reader that it sends
outside comes back with the next character.
-/

namespace SqlTree

namespace Region

/-- Whether a reader outside quotes does anything at the character. -/
def isMark (c : Char) : Bool :=
  isQuote c || c == '?'

/-- The characters of words, which are those of numbers too, are no marks. -/
theorem not_isMark_of_isWordChar {c : Char} (letter : (c.isAlphanum || c == '_') = true) :
    isMark c = false := by
  refine Bool.eq_false_iff.mpr fun mark => ?_
  simp only [isMark, isQuote, Bool.or_eq_true, beq_iff_eq] at mark
  rcases mark with ((rfl | rfl) | rfl) | rfl <;> exact absurd letter (by decide)

/-- A reader outside quotes passes over the text: it ends outside and meets no placeholder. -/
def Closed (text : List Char) : Prop :=
  outside.after text = outside ∧ outside.addPlaceholders 0 text = 0

private theorem closed_nil : Closed [] := ⟨rfl, rfl⟩

theorem Closed.append {first second : List Char} (before : Closed first) (rest : Closed second) :
    Closed (first ++ second) := by
  refine ⟨?_, ?_⟩
  · rw [after_append, before.1, rest.1]
  · rw [addPlaceholders_append, before.1, before.2, rest.2]

/-- A text without quotes and question marks is closed. -/
theorem closed_of_unmarked {text : List Char} (unmarked : ∀ c ∈ text, isMark c = false) :
    Closed text := by
  induction text with
  | nil => exact closed_nil
  | cons c rest ih =>
    obtain ⟨first, others⟩ := List.forall_mem_cons.mp unmarked
    simp only [isMark, Bool.or_eq_false_iff] at first
    have step : outside.next c = outside := by simp [next, first.1]
    have count : outside.isPlaceholder c = false := by simp [isPlaceholder, first.2]
    refine ⟨?_, ?_⟩
    · rw [after, List.foldl_cons, step]
      exact (ih others).1
    · rw [addPlaceholders, step, count]
      exact (ih others).2

/-- Inside quotes, a text with each closing quote written twice leaves the reader where it is. -/
theorem after_doubled (quote : Char) (isQuoted : isQuote quote = true) (text : List Char) :
    (inside quote).after (Quoted.doubled quote text) = inside quote := by
  induction text with
  | nil => rfl
  | cons c rest ih =>
    rw [Quoted.doubled, List.flatMap_cons, ← Quoted.doubled, after_append]
    by_cases same : c = quote
    · subst same
      simpa [after, next, isQuoted] using ih
    · simpa [after, next, same] using ih

/-- There is no placeholder between quotes, and none between the two halves of a doubled quote. -/
private theorem addPlaceholders_doubled (quote : Char) (isQuoted : isQuote quote = true) (count : Nat)
    (text : List Char) :
    (inside quote).addPlaceholders count (Quoted.doubled quote text) = count := by
  have apart : quote ≠ '?' := by
    rintro rfl
    exact absurd isQuoted (by decide)
  induction text with
  | nil => rfl
  | cons c rest ih =>
    rw [Quoted.doubled, List.flatMap_cons, ← Quoted.doubled, addPlaceholders_append]
    by_cases same : c = quote
    · subst same
      simpa [after, next, addPlaceholders, isPlaceholder, isQuoted, apart] using ih
    · simpa [after, next, addPlaceholders, isPlaceholder, same] using ih

/-- A text between quotes is closed, whatever it holds. -/
theorem closed_enclose {quote : Char} (isQuoted : isQuote quote = true) (text : String) :
    Closed (Quoted.enclose quote text).toList := by
  have apart : quote ≠ '?' := by
    rintro rfl
    exact absurd isQuoted (by decide)
  simp only [Quoted.enclose, String.toList_ofList, List.cons_append]
  refine ⟨?_, ?_⟩
  · rw [after, List.foldl_cons, ← after, after_append]
    simp only [next, isQuoted, ↓reduceIte]
    rw [after_doubled quote isQuoted]
    simp [after, next]
  · rw [addPlaceholders, addPlaceholders_append]
    simp only [next, isQuoted, ↓reduceIte]
    rw [after_doubled quote isQuoted, addPlaceholders_doubled quote isQuoted]
    simp [addPlaceholders, isPlaceholder, apart]

/-- A text without placeholders does not begin with one and has none behind its first character. -/
theorem addPlaceholders_cons_eq_zero {region : Region} {c : Char} {rest : List Char} :
    region.addPlaceholders 0 (c :: rest) = 0 ↔
      region.isPlaceholder c = false ∧ (region.next c).addPlaceholders 0 rest = 0 := by
  rw [addPlaceholders, addPlaceholders_eq]
  cases region.isPlaceholder c <;> simp

/-- A closed text is written as it stands, and no value is used up on it. -/
theorem appendInlined_closed {text : List Char} (closed : Closed text) (values : List Value)
    (before : String) (rest : List Char) :
    outside.appendInlined values before (text ++ rest) =
      outside.appendInlined values (before ++ String.ofList text) rest := by
  suffices general : ∀ (region : Region) (before : String), region.addPlaceholders 0 text = 0 →
      region.appendInlined values before (text ++ rest) =
        (region.after text).appendInlined values (before ++ String.ofList text) rest by
    rw [general outside before closed.2, closed.1]
  clear closed
  intro region before none
  induction text generalizing region before with
  | nil => simp [after]
  | cons c text ih =>
    obtain ⟨noMark, others⟩ := addPlaceholders_cons_eq_zero.mp none
    have step : region.appendInlined values before (c :: (text ++ rest)) =
        (region.next c).appendInlined values (before.push c) (text ++ rest) := by
      simp [appendInlined, noMark]
    rw [List.cons_append, step, ih _ _ others, after, after,
      List.foldl_cons, String.push_eq_append, String.append_assoc, String.ofList_cons]

end Region

/-- A text at which a reader outside quotes does nothing. -/
def IsUnmarked (text : String) : Prop :=
  ∀ c ∈ text.toList, Region.isMark c = false

instance (text : String) : Decidable (IsUnmarked text) :=
  List.decidableBAll (fun c => Region.isMark c = false) text.toList

namespace Spelling

variable {spelling : Spelling}

theorem not_isMark_of_isWord {id : String} (word : isWord id = true) : IsUnmarked id :=
  fun c member => Region.not_isMark_of_isWordChar (isAlphanum_of_isWord word c member)

/-- An identifier is closed, be it bare or quoted. -/
private theorem closed_identifier (isQuoted : Region.isQuote spelling.quote = true) (id : String) :
    Region.Closed (spelling.identifier id).toList := by
  unfold identifier
  split
  · rename_i bare
    simp only [isBare, Bool.and_eq_true] at bare
    exact Region.closed_of_unmarked (not_isMark_of_isWord bare.1.2)
  · exact Region.closed_enclose isQuoted id

/-- A name is closed, whatever its identifiers are. -/
theorem closed_name (isQuoted : Region.isQuote spelling.quote = true) (name : Name) :
    Region.Closed (spelling.name name).toList := by
  induction name with
  | identifier id => exact closed_identifier isQuoted id
  | qualified parent id ih =>
    have dot : Region.Closed ".".toList := ⟨by decide, by decide⟩
    simp only [Spelling.name, String.toList_append]
    exact (ih.append dot).append (closed_identifier isQuoted id)

end Spelling

/-! ## Literals in a text

The literal of a value is closed: numbers hold neither quotes nor question marks, dates, times and
bytes hold none between their quotes, and a text between quotes is closed whatever it holds.
-/

namespace Region

private theorem not_isMark_of_mem_toDigits {n : Nat} {c : Char} (member : c ∈ Nat.toDigits 10 n) :
    isMark c = false := by
  have digit := Nat.isDigit_of_mem_toDigits (by decide) (by decide) member
  exact not_isMark_of_isWordChar (by simp [Char.isAlphanum, digit])

private theorem not_isMark_of_mem_zeros {count : Nat} {c : Char} (member : c ∈ List.replicate count '0') :
    isMark c = false := by
  rw [(List.mem_replicate.mp member).2]
  rfl

private theorem not_isMark_of_mem_hexByte {byte : UInt8} {c : Char} (member : c ∈ hexByte byte) :
    isMark c = false := by
  have digits : ∀ n < 16, isMark (hexDigit n) = false := by decide
  have size := byte.toNat_lt
  simp only [hexByte, List.mem_cons, List.not_mem_nil, or_false] at member
  rcases member with rfl | rfl
  · exact digits _ (by omega)
  · exact digits _ (by omega)

end Region

namespace IsUnmarked

theorem append {first second : String} (before : IsUnmarked first) (rest : IsUnmarked second) :
    IsUnmarked (first ++ second) := by
  intro c member
  rw [String.toList_append] at member
  exact (List.mem_append.mp member).elim (before c) (rest c)

theorem ofList {text : List Char} (plain : ∀ c ∈ text, Region.isMark c = false) :
    IsUnmarked (String.ofList text) := by
  rwa [IsUnmarked, String.toList_ofList]

private theorem digits (n : Nat) : IsUnmarked (String.ofList (Nat.toDigits 10 n)) :=
  ofList fun _ => Region.not_isMark_of_mem_toDigits

private theorem paddedDigits (width n : Nat) : IsUnmarked (paddedDigits width n) := by
  refine ofList (List.forall_mem_append.mpr ⟨?_, ?_⟩)
  · exact fun _ => Region.not_isMark_of_mem_zeros
  · exact fun _ => Region.not_isMark_of_mem_toDigits

private theorem integerText (i : Int) : IsUnmarked (integerText i) := by
  unfold SqlTree.integerText
  split
  · exact append (by decide) (digits _)
  · exact digits _

private theorem decimalText (decimal : Decimal) : IsUnmarked decimal.text := by
  have point : Region.isMark '.' = false := rfl
  unfold Decimal.text
  dsimp only
  split
  · refine ofList (List.forall_mem_append.mpr ⟨?_, ?_⟩)
    · exact fun _ => Region.not_isMark_of_mem_toDigits
    · exact fun _ => Region.not_isMark_of_mem_zeros
  · split
    · refine ofList (List.forall_mem_append.mpr ⟨?_, List.forall_mem_cons.mpr ⟨point, ?_⟩⟩)
      · exact fun c whole => Region.not_isMark_of_mem_toDigits (List.mem_of_mem_take whole)
      · exact fun c places => Region.not_isMark_of_mem_toDigits (List.mem_of_mem_drop places)
    · refine ofList (List.forall_mem_cons.mpr ⟨rfl, List.forall_mem_cons.mpr ⟨point, ?_⟩⟩)
      refine List.forall_mem_append.mpr ⟨?_, ?_⟩
      · exact fun _ => Region.not_isMark_of_mem_zeros
      · exact fun _ => Region.not_isMark_of_mem_toDigits

private theorem binaryText (number : Binary64) : IsUnmarked number.text := by
  have unsigned : IsUnmarked
      (if number.magnitude.1 = 0 then "0" else number.roundingInterval.shortest.text) := by
    split
    · decide
    · exact decimalText _
  unfold Binary64.text
  split
  · split
    · decide
    · split <;> decide
  · dsimp only
    split
    · exact append (by decide) unsigned
    · exact unsigned

private theorem dateText (date : Date) : IsUnmarked date.text := by
  have hyphen : IsUnmarked "-" := by decide
  have year : IsUnmarked (yearText date.year) := by
    unfold yearText
    split
    · exact append hyphen (paddedDigits _ _)
    · split
      · exact append (by decide) (paddedDigits _ _)
      · exact paddedDigits _ _
  exact (((year.append hyphen).append (paddedDigits _ _)).append hyphen).append (paddedDigits _ _)

private theorem timeText (time : Time) : IsUnmarked time.text := by
  have colon : IsUnmarked ":" := by decide
  have point : IsUnmarked "." := by decide
  have fraction (nano : Nat) : IsUnmarked (fractionText nano) := by
    unfold fractionText
    split
    · decide
    · split
      · exact point.append (paddedDigits _ _)
      · split
        · exact point.append (paddedDigits _ _)
        · exact point.append (paddedDigits _ _)
  have minutes := ((paddedDigits 2 time.hour).append colon).append (paddedDigits 2 time.minute)
  exact ((minutes.append colon).append (paddedDigits _ _)).append (fraction _)

private theorem momentText (moment : DateTime) : IsUnmarked moment.text :=
  ((dateText _).append (by decide)).append (timeText _)

private theorem hexText (bytes : List UInt8) : IsUnmarked (String.ofList (bytes.flatMap hexByte)) := by
  refine ofList fun c member => ?_
  obtain ⟨byte, -, digit⟩ := List.mem_flatMap.mp member
  exact Region.not_isMark_of_mem_hexByte digit

end IsUnmarked

/-- A text without the quote is written between quotes as it stands. -/
private theorem Quoted.doubled_of_not_mem {quote : Char} {text : List Char} (plain : quote ∉ text) :
    doubled quote text = text := by
  induction text with
  | nil => rfl
  | cons c rest ih =>
    simp only [List.mem_cons, not_or] at plain
    rw [doubled, List.flatMap_cons, if_neg (Ne.symm plain.1), ← doubled, ih plain.2]
    rfl

/-- An unmarked text is written between quotes as it stands. -/
theorem IsUnmarked.enclose_eq {text : String} (unmarked : IsUnmarked text) :
    Quoted.enclose '\'' text = "'" ++ text ++ "'" := by
  have plain : '\'' ∉ text.toList := fun member => absurd (unmarked _ member) (by decide)
  rw [Quoted.enclose, Quoted.doubled_of_not_mem plain, String.ofList_append, String.ofList_cons,
    String.ofList_toList]
  rfl

namespace Value

/-- The literal of a blob is the text of its digits behind a capital X. -/
theorem inline_blob (bytes : List UInt8) :
    (blob bytes).inline = "X" ++ Quoted.enclose '\'' (String.ofList (bytes.flatMap hexByte)) := by
  rw [(IsUnmarked.hexText bytes).enclose_eq]
  simp only [inline, List.cons_append, String.ofList_cons, String.ofList_append]
  rfl

/-- The literal of a value is closed, whatever the value is. -/
theorem closed_inline (value : Value) : Region.Closed value.inline.toList := by
  have quoted (text : String) : Region.Closed (Quoted.enclose '\'' text).toList :=
    Region.closed_enclose rfl text
  have between {text : String} (unmarked : IsUnmarked text) :
      Region.Closed ("'" ++ text ++ "'").toList :=
    unmarked.enclose_eq ▸ quoted text
  cases value with
  | null => exact ⟨by decide, by decide⟩
  | bool value => cases value <;> exact ⟨by decide, by decide⟩
  | int value => exact Region.closed_of_unmarked (IsUnmarked.integerText value.toInt)
  | float value => exact Region.closed_of_unmarked (IsUnmarked.binaryText value)
  | text value => exact quoted value
  | blob bytes =>
    have sign : Region.Closed "X".toList := ⟨by decide, by decide⟩
    rw [inline_blob, String.toList_append]
    exact sign.append (quoted _)
  | date value => exact between (.dateText value)
  | dateTime value => exact between (.momentText value)
  | time value => exact between (.timeText value)

end Value

end SqlTree
