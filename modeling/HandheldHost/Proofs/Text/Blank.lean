import HandheldHost.Text.Blank
import Mathlib.Data.List.Forall2
import Mathlib.Data.List.TakeWhile

/-!
# Trimming and case, exactly

Trimming takes away white space from both ends and stops at the first character that is
not white space.  So the rest is the one stretch of the text that has white space before
and behind it and none at its own ends.  Two texts have the same letters if they agree
character by character, a capital ASCII letter agreeing with its small one.

* `Text.trim_eq_iff` -- what trimming leaves.
* `Text.sameLetters_iff` -- which texts have the same letters.
* `Text.isBlank_eq_false_of_isAlpha` -- no ASCII letter is white space.
-/

namespace HandheldHost.Text

/-! ## Trimming -/

/-- Neither the first nor the last character is white space. -/
structure Trimmed (text : List Char) : Prop where
  head : ∀ c ∈ text.head?, isBlank c = false
  last : ∀ c ∈ text.getLast?, isBlank c = false

theorem dropWhile_blank {left rest : List Char} (blank : ∀ c ∈ left, isBlank c)
    (solid : ∀ c ∈ rest.head?, isBlank c = false) :
    (left ++ rest).dropWhile isBlank = rest := by
  rw [List.dropWhile_append_of_pos blank]
  cases rest with
  | nil => rfl
  | cons c rest => exact List.dropWhile_cons_of_neg (by simp [solid c rfl])

/-- White space is what has been dropped, and what is left begins with something else. -/
theorem exists_dropWhile_blank (text : List Char) :
    (∃ left, text = left ++ text.dropWhile isBlank ∧ ∀ c ∈ left, isBlank c) ∧
      ∀ c ∈ (text.dropWhile isBlank).head?, isBlank c = false := by
  refine ⟨⟨text.takeWhile isBlank, List.takeWhile_append_dropWhile.symm, fun c hc => ?_⟩, ?_⟩
  · exact List.mem_takeWhile_imp hc
  · intro c hc
    have stopped := List.head?_dropWhile_not isBlank text
    rw [Option.mem_def.mp hc] at stopped
    exact stopped

/-- What trimming leaves is the stretch with white space on both sides and none at its
ends. -/
theorem trim_eq_iff {text word : List Char} :
    trim text = word ↔ Trimmed word ∧
      ∃ left right, text = left ++ word ++ right ∧ ∀ c ∈ left ++ right, isBlank c := by
  constructor
  · rintro rfl
    obtain ⟨⟨left, text_eq, blank_left⟩, head⟩ := exists_dropWhile_blank text
    -- What is dropped from the end is dropped from the front of the reversed rest.
    obtain ⟨⟨right, rest_eq, blank_right⟩, last⟩ :=
      exists_dropWhile_blank (text.dropWhile isBlank).reverse
    have rest : text.dropWhile isBlank = trim text ++ right.reverse := by
      rw [trim, ← List.reverse_append, ← rest_eq, List.reverse_reverse]
    refine ⟨⟨fun c hc => head c ?_, fun c hc => last c ?_⟩, left, right.reverse, ?_, fun c hc => ?_⟩
    · rw [rest, List.head?_append, Option.mem_def.mp hc]
      rfl
    · rwa [trim, List.getLast?_reverse] at hc
    · rw [List.append_assoc, ← rest]
      exact text_eq
    · rcases List.mem_append.mp hc with hc | hc
      · exact blank_left c hc
      · exact blank_right c (List.mem_reverse.mp hc)
  · rintro ⟨trimmed, left, right, rfl, blank⟩
    have blank_left : ∀ c ∈ left, isBlank c := fun c hc => blank c (List.mem_append_left _ hc)
    have blank_right : ∀ c ∈ right, isBlank c := fun c hc => blank c (List.mem_append_right _ hc)
    -- An empty word has no end to stop at: then everything is white space and is dropped.
    cases word with
    | nil =>
      rw [List.append_nil, trim, List.dropWhile_eq_nil_iff.mpr blank]
      rfl
    | cons c word =>
      have behind : (left ++ (c :: word) ++ right).dropWhile isBlank = c :: word ++ right := by
        rw [List.append_assoc]
        exact dropWhile_blank blank_left trimmed.head
      rw [trim, behind, List.reverse_append, dropWhile_blank, List.reverse_reverse]
      · exact fun d hd => blank_right d (List.mem_reverse.mp hd)
      · rw [List.head?_reverse]
        exact trimmed.last

/-! ## Case -/

/-- A capital ASCII letter and its small letter. -/
def Capital (c d : Char) : Prop := c.isUpper ∧ d.toNat = c.toNat + 32

/-- The same character, or the same ASCII letter in the other case. -/
def SameLetter (c d : Char) : Prop := c = d ∨ Capital c d ∨ Capital d c

theorem isUpper_iff (c : Char) : c.isUpper ↔ 65 ≤ c.toNat ∧ c.toNat ≤ 90 := decide_eq_true_iff

theorem isLower_iff (c : Char) : c.isLower ↔ 97 ≤ c.toNat ∧ c.toNat ≤ 122 :=
  Bool.and_eq_true_iff.trans (and_congr decide_eq_true_iff decide_eq_true_iff)

theorem isAlpha_iff (c : Char) :
    c.isAlpha ↔ (65 ≤ c.toNat ∧ c.toNat ≤ 90) ∨ (97 ≤ c.toNat ∧ c.toNat ≤ 122) :=
  Bool.or_eq_true_iff.trans (or_congr (isUpper_iff c) (isLower_iff c))

theorem toNat_toLower (c : Char) :
    c.toLower.toNat = if 65 ≤ c.toNat ∧ c.toNat ≤ 90 then c.toNat + 32 else c.toNat := by
  by_cases upper : 65 ≤ c.toNat ∧ c.toNat ≤ 90
  · have lower : c.toLower.val = c.val + 32 := congrArg Char.val (dif_pos upper)
    rw [if_pos upper, ← Char.toNat_val, lower, UInt32.toNat_add]
    exact Nat.mod_eq_of_lt (show c.toNat + 32 < 2 ^ 32 by omega)
  · have same : c.toLower = c := dif_neg upper
    rw [if_neg upper, same]

theorem toLower_eq_toLower_iff (c d : Char) : c.toLower = d.toLower ↔ SameLetter c d := by
  rw [← Char.toNat_inj, toNat_toLower, toNat_toLower, SameLetter, Capital, Capital,
    ← Char.toNat_inj, isUpper_iff, isUpper_iff]
  split <;> split <;> omega

theorem sameLetters_iff {s t : List Char} :
    sameLetters s t ↔ List.Forall₂ SameLetter s t := by
  rw [sameLetters, beq_iff_eq, ← List.forall₂_eq_eq_eq, List.forall₂_map_left_iff,
    List.forall₂_map_right_iff]
  simp only [toLower_eq_toLower_iff]

theorem SameLetter.isAlpha {c d : Char} (same : SameLetter c d) (letter : c.isAlpha) :
    d.isAlpha := by
  rw [isAlpha_iff] at letter ⊢
  rw [SameLetter, Capital, Capital, isUpper_iff, isUpper_iff, ← Char.toNat_inj] at same
  omega

theorem forall_isAlpha_of_sameLetter {s t : List Char} (same : List.Forall₂ SameLetter s t)
    (letters : ∀ c ∈ s, c.isAlpha) : ∀ d ∈ t, d.isAlpha := by
  induction same with
  | nil => exact nofun
  | cons agree _ ih =>
    obtain ⟨first, others⟩ := List.forall_mem_cons.mp letters
    exact List.forall_mem_cons.mpr ⟨agree.isAlpha first, ih others⟩

theorem isBlank_eq_false_of_isAlpha {c : Char} (letter : c.isAlpha) : isBlank c = false := by
  rw [isAlpha_iff] at letter
  rw [← Bool.not_eq_true, isBlank, inRanges_iff]
  rintro ⟨r, listed, low, high⟩
  simp only [blankRanges, List.mem_cons, List.not_mem_nil, or_false] at listed
  rcases listed with rfl | rfl | rfl | rfl | rfl | rfl | rfl | rfl | rfl | rfl <;> omega

/-- A word in letters has no white space at its ends. -/
theorem trimmed_of_isAlpha {word : List Char} (letters : ∀ c ∈ word, c.isAlpha) : Trimmed word where
  head c hc := isBlank_eq_false_of_isAlpha (letters c (List.mem_of_mem_head? hc))
  last c hc := isBlank_eq_false_of_isAlpha (letters c (List.mem_of_mem_getLast? hc))

end HandheldHost.Text
