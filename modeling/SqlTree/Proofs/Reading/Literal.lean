import SqlTree.Proofs.Placeholder
import SqlTree.Proofs.Reading.Token

/-! # Reading literals

A reader of literals tells them apart by their first character: a quote begins a text, a capital X a
blob, a digit or a minus sign a whole number, and every other literal is a word. It gives back the
value of every literal that stands for a truth value, a whole number, a text, a blob or NULL, and
what follows the literal, as long as that does not begin with a digit or a quote
(`readLiteral?_inline`).
-/

namespace SqlTree

/-! ## Numbers and bytes -/

/-- The number that a text begins with, as far as its digits go, and what follows it. -/
def readNatural? (text : List Char) : Option (Nat × List Char) :=
  match text.takeWhile Char.isDigit with
  | [] => none
  | digits => some (Nat.ofDigitChars 10 digits 0, text.dropWhile Char.isDigit)

/-- The number that a text begins with, which may have a minus sign in front. -/
def readInteger? : List Char → Option (Int × List Char)
  | '-' :: text => (readNatural? text).map fun (n, after) => (-n, after)
  | text => (readNatural? text).map fun (n, after) => (n, after)

def int64? (i : Int) : Option Int64 :=
  if (Int64.ofInt i).toInt = i then some (Int64.ofInt i) else none

def hexValue? (c : Char) : Option Nat :=
  if c.isDigit then some (c.toNat - '0'.toNat)
  else if 'A' ≤ c ∧ c ≤ 'F' then some (c.toNat - 'A'.toNat + 10)
  else if 'a' ≤ c ∧ c ≤ 'f' then some (c.toNat - 'a'.toNat + 10)
  else none

/-- The bytes that a text names with two digits each. -/
def readBytes? : List Char → Option (List UInt8)
  | [] => some []
  | [_] => none
  | high :: low :: rest => do
    let byte := 16 * (← hexValue? high) + (← hexValue? low)
    return .ofNat byte :: (← readBytes? rest)

private theorem readNatural?_naturalText (n : Nat) {after : List Char}
    (ends : ∀ c ∈ after.head?, c.isDigit = false) :
    readNatural? ((naturalText n).toList ++ after) = some (n, after) := by
  have digits : ∀ c ∈ Nat.toDigits 10 n, c.isDigit = true := fun c member =>
    Nat.isDigit_of_mem_toDigits (by decide) (by decide) member
  rw [naturalText, String.toList_ofList, readNatural?, takeWhile_of_ends digits ends,
    dropWhile_of_ends digits ends]
  split
  · rename_i none
    exact absurd none Nat.toDigits_ne_nil
  · rw [Nat.ofDigitChars_ten_toDigits]

/-- The digits of a number begin with a digit. -/
theorem exists_naturalText_eq_cons (n : Nat) (after : List Char) :
    ∃ first rest, (naturalText n).toList ++ after = first :: rest ∧ first.isDigit = true := by
  cases digits : Nat.toDigits 10 n with
  | nil => exact absurd digits Nat.toDigits_ne_nil
  | cons first rest =>
    refine ⟨first, rest ++ after, ?_, ?_⟩
    · rw [naturalText, digits, String.toList_ofList, List.cons_append]
    · exact Nat.isDigit_of_mem_toDigits (by decide) (by decide) (digits ▸ List.mem_cons_self)

private theorem readInteger?_integerText (i : Int) {after : List Char}
    (ends : ∀ c ∈ after.head?, c.isDigit = false) :
    readInteger? ((integerText i).toList ++ after) = some (i, after) := by
  have read := readNatural?_naturalText i.natAbs ends
  unfold integerText
  split
  · rename_i negative
    have magnitude : -(i.natAbs : Int) = i := by omega
    rw [String.toList_append, List.append_assoc]
    change (readNatural? ((naturalText i.natAbs).toList ++ after)).map _ = _
    rw [read]
    exact congrArg (fun i => some (i, after)) magnitude
  · rename_i natural
    have magnitude : (i.natAbs : Int) = i := by omega
    obtain ⟨first, rest, text, digit⟩ := exists_naturalText_eq_cons i.natAbs after
    have unsigned : first ≠ '-' := by
      rintro rfl
      exact absurd digit (by decide)
    rw [text] at read ⊢
    rw [readInteger?.eq_def]
    split
    · rename_i signed
      exact absurd (List.cons.inj signed).1 unsigned
    · rw [read]
      exact congrArg (fun i => some (i, after)) magnitude

private theorem hexValue?_hexDigit : ∀ n < 16, hexValue? (hexDigit n) = some n := by
  decide

private theorem readBytes?_hexByte (bytes : List UInt8) :
    readBytes? (bytes.flatMap hexByte) = some bytes := by
  induction bytes with
  | nil => rfl
  | cons byte rest ih =>
    have size := byte.toNat_lt
    have high := hexValue?_hexDigit (byte.toNat / 16) (by omega)
    have low := hexValue?_hexDigit (byte.toNat % 16) (by omega)
    have whole : UInt8.ofNat (16 * (byte.toNat / 16) + byte.toNat % 16) = byte := by
      rw [Nat.div_add_mod, UInt8.ofNat_toNat]
    rw [List.flatMap_cons, hexByte, List.cons_append, List.cons_append, List.nil_append,
      readBytes?, high, low, ih]
    exact congrArg (fun first => some (first :: rest)) whole

private theorem int64?_toInt (n : Int64) : int64? n.toInt = some n := by
  rw [int64?, Int64.ofInt_toInt, if_pos rfl]

/-! ## Literals -/

namespace Value

def words : List (String × Value) :=
  [("NULL", null), ("TRUE", bool true), ("FALSE", bool false)]

/-- The word that a text begins with, and what follows it. -/
def readWord? (text : List Char) : Option (Value × List Char) :=
  words.findSome? fun (word, value) =>
    if word.toList <+: text then some (value, text.drop word.length) else none

/-- The value of the literal that a text begins with, and what follows the literal. -/
def readLiteral? : List Char → Option (Value × List Char)
  | [] => none
  | first :: rest =>
    if first = '\'' then do
      let (content, after) ← Quoted.read '\'' rest
      return (text (.ofList content), after)
    else if first = 'X' ∧ rest.head? = some '\'' then do
      let (content, after) ← Quoted.read '\'' rest.tail
      return (blob (← readBytes? content), after)
    else if first = '-' ∨ first.isDigit then do
      let (i, after) ← readInteger? (first :: rest)
      return (int (← int64? i), after)
    else readWord? (first :: rest)

/-- Whether the literal of the value is read back: numbers with a point, dates and times are not
among them. -/
def IsRead : Value → Prop
  | null | bool _ | int _ | text _ | blob _ => True
  | float _ | date _ | dateTime _ | time _ => False

/-- A literal ends where neither a digit nor a quote follows. -/
def Ended (after : List Char) : Prop :=
  ∀ c ∈ after.head?, c.isDigit = false ∧ c ≠ '\''

private theorem readLiteral?_text (content : String) {after : List Char}
    (ends : ∀ c ∈ after.head?, c ≠ '\'') :
    readLiteral? ((text content).inline.toList ++ after) = some (text content, after) := by
  have read := Quoted.read_doubled ends content.toList
  rw [inline, Quoted.enclose, String.toList_ofList, List.cons_append, List.cons_append,
    List.append_assoc, List.singleton_append, readLiteral?, if_pos rfl, read]
  exact congrArg (fun content => some (text content, after)) String.ofList_toList

private theorem readLiteral?_blob (bytes : List UInt8) {after : List Char}
    (ends : ∀ c ∈ after.head?, c ≠ '\'') :
    readLiteral? ((blob bytes).inline.toList ++ after) = some (blob bytes, after) := by
  have read := Quoted.read_doubled ends (bytes.flatMap hexByte)
  have text : (blob bytes).inline.toList ++ after =
      'X' :: '\'' :: (Quoted.doubled '\'' (bytes.flatMap hexByte) ++ '\'' :: after) := by
    simp [inline_blob, Quoted.enclose]
  rw [text, readLiteral?, if_neg (by decide), if_pos ⟨rfl, rfl⟩, List.tail_cons, read]
  change (do return (blob (← readBytes? (bytes.flatMap hexByte)), after)) = _
  rw [readBytes?_hexByte]
  rfl

/-- A whole number begins with a digit or a minus sign. -/
private theorem exists_integerText_eq_cons (i : Int) (after : List Char) :
    ∃ first rest, (integerText i).toList ++ after = first :: rest ∧
      (first = '-' ∨ first.isDigit = true) := by
  unfold integerText
  split
  · refine ⟨'-', (naturalText i.natAbs).toList ++ after, ?_, .inl rfl⟩
    rw [String.toList_append, List.append_assoc]
    rfl
  · obtain ⟨first, rest, text, digit⟩ := exists_naturalText_eq_cons i.natAbs after
    exact ⟨first, rest, text, .inr digit⟩

private theorem readLiteral?_int (n : Int64) {after : List Char}
    (ends : ∀ c ∈ after.head?, c.isDigit = false) :
    readLiteral? ((int n).inline.toList ++ after) = some (int n, after) := by
  have read := readInteger?_integerText n.toInt ends
  obtain ⟨first, rest, text, start⟩ := exists_integerText_eq_cons n.toInt after
  have noQuote : first ≠ '\'' := by
    rintro rfl
    exact absurd start (by decide)
  have noBlob : ¬ (first = 'X' ∧ rest.head? = some '\'') := by
    rintro ⟨rfl, -⟩
    exact absurd start (by decide)
  rw [inline]
  rw [text] at read ⊢
  rw [readLiteral?, if_neg noQuote, if_neg noBlob, if_pos start, read]
  change (do return (int (← int64? n.toInt), after)) = _
  rw [int64?_toInt]
  rfl

/-- A literal is read as its value, and nothing of what follows it is read. -/
theorem readLiteral?_append {value : Value} (readable : value.IsRead) {after : List Char}
    (ended : Ended after) : readLiteral? (value.inline.toList ++ after) = some (value, after) := by
  cases value with
  | null => rfl
  | bool value => cases value <;> rfl
  | int value => exact readLiteral?_int value fun c head => (ended c head).1
  | text value => exact readLiteral?_text value fun c head => (ended c head).2
  | blob bytes => exact readLiteral?_blob bytes fun c head => (ended c head).2
  | float _ | date _ | dateTime _ | time _ => exact readable.elim

/-- Reading undoes writing for NULL, truth values, whole numbers, texts and blobs: a literal is read
to its end, whatever follows that does not begin with a digit or a quote, and gives its value.
Different values of these kinds therefore have different literals. -/
theorem readLiteral?_inline :
    (∀ value : Value, value.IsRead → ∀ after : List Char, Ended after →
        readLiteral? (value.inline.toList ++ after) = some (value, after)) ∧
      ∀ first second : Value, first.IsRead → second.IsRead → first ≠ second →
        first.inline ≠ second.inline := by
  refine ⟨fun value readable after => readLiteral?_append readable, ?_⟩
  intro first second firstReadable secondReadable different same
  have ended : Ended [] := nofun
  have readFirst := readLiteral?_append firstReadable ended
  have readSecond := readLiteral?_append secondReadable ended
  rw [same, readSecond] at readFirst
  exact different (congrArg Prod.fst (Option.some.inj readFirst)).symm

theorem readLiteral?_inline_quotedText :
    (text "'NULL''").inline = "'''NULL'''''" ∧
      readLiteral? "'''NULL'''''X'00'".toList = some (text "'NULL''", "X'00'".toList) ∧
      (text "NULL").inline ≠ null.inline := by
  obtain ⟨reads, different⟩ := readLiteral?_inline
  have written : (text "'NULL''").inline = "'''NULL'''''" := by decide
  have ended : Ended "X'00'".toList := by
    intro c head
    cases head
    decide
  have read := reads (text "'NULL''") trivial "X'00'".toList ended
  rw [written] at read
  exact ⟨written, read, different _ _ trivial trivial (by decide)⟩

end Value

end SqlTree
