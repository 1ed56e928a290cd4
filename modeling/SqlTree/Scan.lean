import SqlTree.Fragment

/-! # Placeholders in a text

A compiled text is read character by character. A quote of one of three kinds opens a quoted
region, and the next quote of its kind closes it; a question mark outside these regions is a
placeholder. The reader keeps only the region it is in.
-/

namespace SqlTree

/-- Where a reader is: outside quotes, or inside quotes that `close` ends. -/
inductive Region where
  | outside
  | inside (close : Char)
deriving DecidableEq, Repr, Inhabited

namespace Region

def isQuote (c : Char) : Bool :=
  c == '\'' || c == '\"' || c == '\x60'

def next : Region → Char → Region
  | outside, c => if isQuote c then inside c else outside
  | inside close, c => if c = close then outside else inside close

def after (region : Region) (text : List Char) : Region :=
  text.foldl next region

def isPlaceholder (region : Region) (c : Char) : Bool :=
  region == outside && c == '?'

/-- `count` and the number of placeholders in the text. -/
def addPlaceholders : (region : Region) → (count : Nat) → List Char → Nat
  | _, count, [] => count
  | region, count, c :: rest =>
    addPlaceholders (region.next c) (if region.isPlaceholder c then count + 1 else count) rest

/-- `before` and the text with its placeholders replaced by the literals of `values` in turn; a
placeholder without a value stays. -/
def appendInlined :
    (region : Region) → (values : List Value) → (before : String) → List Char → String
  | _, _, before, [] => before
  | region, values, before, c :: rest =>
    if region.isPlaceholder c then
      match values with
      | [] => appendInlined region [] (before.push c) rest
      | value :: others => appendInlined region others (before ++ value.inline) rest
    else appendInlined (region.next c) values (before.push c) rest

theorem after_append (region : Region) (first second : List Char) :
    region.after (first ++ second) = (region.after first).after second :=
  List.foldl_append

theorem addPlaceholders_eq (region : Region) (count : Nat) (text : List Char) :
    region.addPlaceholders count text = count + region.addPlaceholders 0 text := by
  induction text generalizing region count with
  | nil => simp [addPlaceholders]
  | cons c rest ih =>
    rw [addPlaceholders, addPlaceholders, ih]
    split
    · rw [ih _ (0 + 1), Nat.zero_add, Nat.add_assoc]
    · rfl

/-- The second text is read from the region that the first one leaves the reader in. -/
theorem addPlaceholders_append (region : Region) (count : Nat) (first second : List Char) :
    region.addPlaceholders count (first ++ second) =
      (region.after first).addPlaceholders (region.addPlaceholders count first) second := by
  induction first generalizing region count with
  | nil => rfl
  | cons c rest ih => simp only [List.cons_append, addPlaceholders, ih, after, List.foldl_cons]

theorem appendInlined_eq (region : Region) (values : List Value) (before : String)
    (text : List Char) :
    region.appendInlined values before text = before ++ region.appendInlined values "" text := by
  induction text generalizing region values before with
  | nil => simp [appendInlined]
  | cons c rest ih =>
    have keep (region : Region) (values : List Value) :
        region.appendInlined values (before.push c) rest =
          before ++ region.appendInlined values ("".push c) rest := by
      rw [ih, ih _ _ ("".push c), String.push_eq_append, String.append_assoc]
      rfl
    unfold appendInlined
    split
    · cases values with
      | nil => exact keep region []
      | cons value others =>
        simp only [String.empty_append]
        rw [ih, ih _ _ value.inline, String.append_assoc]
    · exact keep (region.next c) values

end Region

namespace Compiled

def placeholderCount (compiled : Compiled) : Nat :=
  Region.outside.addPlaceholders 0 compiled.sql.toList

/-- The text with every placeholder replaced by its argument as a literal, for reading. -/
def inlined (compiled : Compiled) : String :=
  Region.outside.appendInlined compiled.arguments "" compiled.sql.toList

end Compiled

end SqlTree
