import HandheldHost.Text.Unsigned
import HandheldHost.Proofs.Text.Blank
import Mathlib.Data.Nat.Digits.Defs

/-!
# Unsigned numbers, exactly

A numeral is an optional plus sign and one or more digits, and its value is that of its
digits, the first one counting most.  Reading goes from left to right and gives up as
soon as the digits so far are worth the limit or more.  Nothing is lost by that, since
more digits are worth no less: what is read is just the numerals of a value below the
limit.

* `Text.Unsigned.Numeral` -- the numerals of a radix and their values.
* `Text.Unsigned.readDigits_eq_ok_iff` -- what is read behind digits that are worth
  something already.
* `Text.Unsigned.read_eq_ok_iff` -- what is read.
-/

namespace HandheldHost.Text.Unsigned

/-! ## Digits -/

/-- A character is the digit of a value in a radix: one of the ten digits or a letter
from `a` on, in either case. -/
def IsDigit (radix : Nat) (c : Char) (value : Nat) : Prop :=
  value < radix ∧ c.toLower = Nat.digitChar value

theorem digitValue?_ascii : ∀ n < 128, ∀ value < 16,
    digitValue? 16 (Char.ofNat n) = some value ↔
      (Char.ofNat n).toLower = Nat.digitChar value := by decide +kernel

theorem toNat_digitChar_lt : ∀ value < 16, (Nat.digitChar value).toNat < 128 := by decide

/-- A character beyond ASCII is no digit, nor does it become one in lower case. -/
theorem digitValue?_of_not_ascii {c : Char} (beyond : 128 ≤ c.toNat) :
    digitValue? 16 c = none := by
  have above (last : Char) (ascii : last.toNat < 128) : ¬c ≤ last := fun below =>
    absurd (show c.toNat ≤ last.toNat from below) (by omega)
  simp [digitValue?, above]

theorem toLower_of_not_ascii {c : Char} (beyond : 128 ≤ c.toNat) : c.toLower = c := by
  apply Char.toNat_inj.mp
  rw [toNat_toLower, if_neg (by omega)]

theorem digitValue?_sixteen {value : Nat} (small : value < 16) (c : Char) :
    digitValue? 16 c = some value ↔ c.toLower = Nat.digitChar value := by
  by_cases ascii : c.toNat < 128
  · have table := digitValue?_ascii c.toNat ascii value small
    rwa [Char.ofNat_toNat] at table
  · have beyond := Nat.le_of_not_lt ascii
    rw [digitValue?_of_not_ascii beyond, toLower_of_not_ascii beyond]
    refine iff_of_false nofun ?_
    rintro rfl
    exact ascii (toNat_digitChar_lt value small)

theorem digitValue?_eq_some_iff {radix : Nat} (small : radix ≤ 16) (c : Char) (value : Nat) :
    digitValue? radix c = some value ↔ IsDigit radix c value := by
  have filtered : digitValue? radix c = some value ↔
      value < radix ∧ digitValue? 16 c = some value := by
    simp only [digitValue?, Option.filter_eq_some_iff, decide_eq_true_eq]
    constructor
    · rintro ⟨read, below⟩
      exact ⟨below, read, by omega⟩
    · rintro ⟨below, read, -⟩
      exact ⟨read, below⟩
  rw [filtered]
  exact and_congr_right fun below => digitValue?_sixteen (by omega) c

/-! ## Numerals -/

/-- One or more digits and the number they stand for.  The first one counts most. -/
def Digits (radix : Nat) (digits : List Char) (n : Nat) : Prop :=
  digits ≠ [] ∧
    ∃ values, List.Forall₂ (IsDigit radix) digits values ∧ n = Nat.ofDigits radix values.reverse

/-- Digits behind an optional plus sign, and the number they stand for. -/
def Numeral (radix : Nat) (text : List Char) (n : Nat) : Prop :=
  Digits radix text n ∨ ∃ digits, text = '+' :: digits ∧ Digits radix digits n

/-- No plus sign stands among digits. -/
theorem not_digits_plus {radix : Nat} (small : radix ≤ 16) (digits : List Char) (n : Nat) :
    ¬Digits radix ('+' :: digits) n := by
  rintro ⟨-, values, are_digits, -⟩
  obtain ⟨value, _, plus, -⟩ := List.forall₂_cons_left_iff.mp are_digits
  exact absurd ((digitValue?_eq_some_iff small '+' value).mpr plus) (by simp [digitValue?])

theorem numeral_plus_iff {radix : Nat} (small : radix ≤ 16) (digits : List Char) (n : Nat) :
    Numeral radix ('+' :: digits) n ↔ Digits radix digits n := by
  simp [Numeral, not_digits_plus small]

theorem numeral_iff_of_unsigned {text : List Char} (unsigned : ∀ digits, text ≠ '+' :: digits)
    (radix n : Nat) : Numeral radix text n ↔ Digits radix text n := by
  simp [Numeral, unsigned]

/-- What digits of the given values make of a number that they are added to. -/
def extended (radix start : Nat) (values : List Nat) : Nat :=
  values.foldl (fun n value => n * radix + value) start

theorem extended_zero (radix : Nat) (values : List Nat) :
    extended radix 0 values = Nat.ofDigits radix values.reverse := by
  rw [Nat.ofDigits_eq_foldr, List.foldr_reverse, extended]
  congr
  funext n value
  rw [Nat.cast_id, Nat.mul_comm, Nat.add_comm]

/-- More digits are worth no less. -/
theorem le_extended {radix : Nat} (positive : 0 < radix) (start : Nat) (values : List Nat) :
    start ≤ extended radix start values := by
  induction values generalizing start with
  | nil => exact Nat.le_refl start
  | cons value values ih =>
    calc start ≤ start * radix := Nat.le_mul_of_pos_right start positive
      _ ≤ start * radix + value := Nat.le_add_right _ value
      _ ≤ extended radix start (value :: values) := ih _

/-! ## Reading -/

/-- What is read behind digits that are worth `start` already.  Reading stops at a number
too large, and what would have followed could not have made it smaller. -/
theorem readDigits_eq_ok_iff {radix limit start : Nat} (positive : 0 < radix)
    (small : radix ≤ 16) (fits : start < limit) (digits : List Char) (n : Nat) :
    readDigits radix limit start digits = .ok n ↔
      n < limit ∧ ∃ values, List.Forall₂ (IsDigit radix) digits values ∧
        n = extended radix start values := by
  induction digits generalizing start with
  | nil =>
    simp only [readDigits, Except.ok.injEq, List.forall₂_nil_left_iff, exists_eq_left]
    constructor
    · rintro rfl
      exact ⟨fits, rfl⟩
    · rintro ⟨-, rfl⟩
      rfl
  | cons c digits ih =>
    have first_digit : (∃ values, List.Forall₂ (IsDigit radix) (c :: digits) values ∧
        n = extended radix start values) ↔
          ∃ value, digitValue? radix c = some value ∧
            ∃ values, List.Forall₂ (IsDigit radix) digits values ∧
              n = extended radix (start * radix + value) values := by
      simp only [List.forall₂_cons_left_iff, digitValue?_eq_some_iff small]
      constructor
      · rintro ⟨_, ⟨value, values, is_digit, are_digits, rfl⟩, total⟩
        exact ⟨value, is_digit, values, are_digits, total⟩
      · rintro ⟨value, is_digit, values, are_digits, total⟩
        exact ⟨_, ⟨value, values, is_digit, are_digits, rfl⟩, total⟩
    rw [first_digit, readDigits]
    cases digitValue? radix c with
    | none => simp
    | some value =>
      simp only [Option.some.injEq, exists_eq_left']
      split
      · rename_i fits
        exact ih fits
      · rename_i large
        refine iff_of_false nofun ?_
        rintro ⟨below, values, -, rfl⟩
        have grown := le_extended positive (start * radix + value) values
        omega

/-- **What is read**: the numerals of a number below the limit, and nothing else. -/
theorem read_eq_ok_iff {radix limit : Nat} (positive : 0 < radix) (small : radix ≤ 16)
    (fits : 0 < limit) (text : List Char) (n : Nat) :
    read radix limit text = .ok n ↔ Numeral radix text n ∧ n < limit := by
  have behind (digits : List Char) (some_digits : digits ≠ []) :
      readDigits radix limit 0 digits = .ok n ↔ Digits radix digits n ∧ n < limit := by
    rw [readDigits_eq_ok_iff positive small fits, and_comm]
    simp only [Digits, extended_zero, some_digits, not_false_eq_true, ne_eq, true_and]
  unfold read
  split
  · simp [Numeral, Digits]
  · rw [numeral_plus_iff small]
    simp [Digits]
  · rename_i digits some_digits
    rw [numeral_plus_iff small]
    exact behind digits some_digits
  · rename_i some_text _ unsigned
    rw [numeral_iff_of_unsigned unsigned]
    exact behind text some_text

end HandheldHost.Text.Unsigned
