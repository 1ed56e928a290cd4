import Mathlib.Data.List.Forall2
import SqlTree.Dialect

/-! # Reserved words are found exactly

The search halves a range of the table until the word is found or the range is empty. Between two
steps, the word stands in the table only if it stands in the range, as the table is increasing; so
the search agrees with membership (`foundIn_iff`). The case of ASCII letters does not matter, and no
other character is in a reserved word (`isReserved_iff`).
-/

namespace SqlTree.ReservedWord

/-- The words are in increasing order, each once. -/
def Increasing (table : Array String) : Prop :=
  table.toList.Pairwise (· < ·)

namespace Increasing

variable {table : Array String} {word : String} {middle place : Nat}

private theorem getElem_lt (increasing : Increasing table) {first second : Nat}
    (inside : second < table.size) (before : first < second) : table[first] < table[second] :=
  List.pairwise_iff_getElem.mp increasing first second (by simp; omega) inside before

/-- A word below the one at a place stands only before that place. -/
private theorem lt_of_lt (increasing : Increasing table) (inside : middle < table.size)
    (below : word < table[middle]) {bound : place < table.size} (found : table[place] = word) :
    place < middle := by
  by_contra behind
  rcases Nat.lt_or_eq_of_le (Nat.le_of_not_lt behind) with later | rfl
  · have above : table[middle] < word := found ▸ increasing.getElem_lt bound later
    exact String.lt_asymm below above
  · exact String.lt_irrefl word (found ▸ below)

/-- A word above the one at a place stands only after that place. -/
private theorem lt_of_gt (increasing : Increasing table) (inside : middle < table.size)
    (above : table[middle] < word) {bound : place < table.size} (found : table[place] = word) :
    middle < place := by
  by_contra before
  rcases Nat.lt_or_eq_of_le (Nat.le_of_not_lt before) with earlier | rfl
  · have below : word < table[middle] := found ▸ increasing.getElem_lt inside earlier
    exact String.lt_asymm below above
  · exact String.lt_irrefl word (found ▸ above)

end Increasing

/-- A search of a range finds the word exactly if it stands there. -/
private theorem foundBetween_iff {table : Array String} (increasing : Increasing table) (word : String)
    {low high : Nat} (inside : high ≤ table.size) :
    foundBetween table word low high = true ↔
      ∃ place, ∃ bound : place < table.size, low ≤ place ∧ place < high ∧ table[place] = word := by
  fun_induction foundBetween table word low high with
  | case1 low high bounds middle bound found =>
    exact ⟨fun _ => ⟨middle, bound, by omega, by omega, found.symm⟩, fun _ => rfl⟩
  | case2 low high bounds middle bound other below ih =>
    -- The word can only be before the middle, so the upper half is left out.
    rw [ih (by omega)]
    constructor
    · rintro ⟨place, atPlace, atLeast, less, found⟩
      exact ⟨place, atPlace, atLeast, by omega, found⟩
    · rintro ⟨place, atPlace, atLeast, less, found⟩
      exact ⟨place, atPlace, atLeast, increasing.lt_of_lt bound below found, found⟩
  | case3 low high bounds middle bound other notBelow ih =>
    have above : table[middle] < word :=
      Std.lt_of_le_of_ne (String.not_lt.mp notBelow) (Ne.symm other)
    rw [ih inside]
    constructor
    · rintro ⟨place, atPlace, atLeast, less, found⟩
      exact ⟨place, atPlace, by omega, less, found⟩
    · rintro ⟨place, atPlace, atLeast, less, found⟩
      have later := increasing.lt_of_gt bound above found
      exact ⟨place, atPlace, by omega, less, found⟩
  | case4 low high empty =>
    refine ⟨nofun, ?_⟩
    rintro ⟨place, atPlace, atLeast, less, found⟩
    omega

/-- The search agrees with membership in every increasing table. -/
theorem foundIn_iff {table : Array String} (increasing : Increasing table) (word : String) :
    foundIn table word = true ↔ word ∈ table := by
  rw [foundIn, foundBetween_iff increasing word (Nat.le_refl _), Array.mem_iff_getElem]
  constructor
  · rintro ⟨place, bound, -, -, found⟩
    exact ⟨place, bound, found⟩
  · rintro ⟨place, bound, found⟩
    exact ⟨place, bound, Nat.zero_le place, bound, found⟩

/-- Neighbours in the table are in increasing order, and with them all of its words. -/
theorem increasing_table : Increasing table := by
  have neighbours : table.toList.IsChain (· < ·) := by decide +kernel
  exact List.isChain_iff_pairwise.mp neighbours

private theorem ascii_of_mem_table {entry : String} (member : entry ∈ table) :
    ∀ c ∈ entry.toList, c.toNat < 128 := by
  have all : (table.toList.all fun entry => entry.toList.all fun c => c.toNat < 128) = true := by
    decide +kernel
  have own := List.all_eq_true.mp all entry (Array.mem_toList_iff.mpr member)
  exact fun c inside => of_decide_eq_true (List.all_eq_true.mp own c inside)

/-! ## The case of letters -/

/-- The second character is the small form of the first, which is an ASCII capital. -/
def IsSmallForm (capital small : Char) : Prop :=
  'A'.toNat ≤ capital.toNat ∧ capital.toNat ≤ 'Z'.toNat ∧ small.toNat = capital.toNat + 32

/-- Two characters are the same or the two cases of one ASCII letter. -/
def SameLetter (first second : Char) : Prop :=
  first = second ∨ IsSmallForm first second ∨ IsSmallForm second first

instance (first second : Char) : Decidable (SameLetter first second) :=
  inferInstanceAs (Decidable (first = second ∨ (_ ∧ _ ∧ _) ∨ (_ ∧ _ ∧ _)))

private theorem toUpper_eq_self {c : Char} (other : c.toNat < 'a'.toNat ∨ 'z'.toNat < c.toNat) :
    c.toUpper = c := by
  have outside : ¬('a'.val ≤ c.val ∧ c.val ≤ 'z'.val) := by
    rintro ⟨atLeast, atMost⟩
    have atLeast : 'a'.toNat ≤ c.toNat := atLeast
    have atMost : c.toNat ≤ 'z'.toNat := atMost
    omega
  exact dif_neg outside

private theorem IsSmallForm.toUpper_eq {capital small : Char} (form : IsSmallForm capital small) :
    small.toUpper = capital := by
  obtain ⟨atLeast, atMost, moved⟩ := form
  have a : 'A'.toNat = 65 := rfl
  have z : 'Z'.toNat = 90 := rfl
  have inside : 'a'.val ≤ small.val ∧ small.val ≤ 'z'.val := by
    change 97 ≤ small.toNat ∧ small.toNat ≤ 122
    omega
  have back : (small.val + ('A'.val - 'a'.val)).toNat = capital.toNat := by
    have offset : ('A'.val - 'a'.val).toNat = 2 ^ 32 - 32 := rfl
    have value : small.val.toNat = small.toNat := rfl
    rw [UInt32.toNat_add, offset, value]
    omega
  exact (dif_pos inside).trans (Char.ext (UInt32.toNat_inj.mp back))

private theorem SameLetter.toUpper_eq {first second : Char} (same : SameLetter first second) :
    first.toUpper = second.toUpper := by
  have capitals {capital small : Char} (form : IsSmallForm capital small) :
      capital.toUpper = small.toUpper := by
    have a : 'a'.toNat = 97 := rfl
    have z : 'Z'.toNat = 90 := rfl
    have atMost := form.2.1
    rw [form.toUpper_eq, toUpper_eq_self (by omega)]
  rcases same with rfl | form | form
  · rfl
  · exact capitals form
  · exact (capitals form).symm

/-- Words that differ in the case of ASCII letters alone have the same capitals. -/
private theorem map_toUpper_eq {first second : String}
    (same : List.Forall₂ SameLetter first.toList second.toList) :
    first.map Char.toUpper = second.map Char.toUpper := by
  have letters : first.toList.map Char.toUpper = second.toList.map Char.toUpper :=
    List.forall₂_eq_eq_eq ▸ List.forall₂_map_left_iff.mpr
      (List.forall₂_map_right_iff.mpr (same.imp fun _ _ letter => letter.toUpper_eq))
  exact String.toList_inj.mp (by rw [String.toList_map, String.toList_map, letters])

/-- A word is reserved exactly if the table has it in capitals. Words that differ in the case of
ASCII letters alone are both reserved or neither is, and a reserved word has no other letters. -/
theorem isReserved_iff (word : String) :
    (isReserved word = true ↔ word.map Char.toUpper ∈ table) ∧
      (∀ other : String, List.Forall₂ SameLetter word.toList other.toList →
        isReserved word = isReserved other) ∧
      (isReserved word = true → ∀ c ∈ word.toList, c.toNat < 128) := by
  have exact : isReserved word = true ↔ word.map Char.toUpper ∈ table :=
    foundIn_iff increasing_table _
  refine ⟨exact, fun other same => ?_, fun reserved c member => ?_⟩
  · rw [isReserved, isReserved, map_toUpper_eq same]
  · have small : c.toUpper.toNat < 128 := by
      refine ascii_of_mem_table (exact.mp reserved) c.toUpper ?_
      rw [String.toList_map]
      exact List.mem_map_of_mem member
    by_contra large
    have kept : c.toUpper = c := toUpper_eq_self (by have z : 'z'.toNat = 122 := rfl; omega)
    rw [kept] at small
    exact large small

/-- An underscore comes after all letters, so CHAR_LENGTH comes after CHARACTER_LENGTH. The long s
is no ASCII letter, although its capital is S. -/
theorem isReserved_iff_charLength :
    isReserved "CHAR_LENGTH" = true ∧ isReserved "Char_Length" = true ∧
      (∀ c ∈ "CHAR_LENGTH".toList, c.toNat < 128) ∧ isReserved "ſelect" = false := by
  obtain ⟨exact, same, ascii⟩ := isReserved_iff "CHAR_LENGTH"
  obtain ⟨-, -, foreign⟩ := isReserved_iff "ſelect"
  have reserved : isReserved "CHAR_LENGTH" = true := exact.mpr (by decide +kernel)
  refine ⟨reserved, ?_, ascii reserved, ?_⟩
  · rw [← same "Char_Length" (by decide +kernel), reserved]
  · have long : 'ſ' ∈ "ſelect".toList := by decide +kernel
    rw [Bool.eq_false_iff]
    intro found
    exact absurd (foreign found 'ſ' long) (by decide)

end SqlTree.ReservedWord
