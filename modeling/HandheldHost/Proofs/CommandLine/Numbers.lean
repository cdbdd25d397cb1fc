import HandheldHost.CommandLine.Usage
import HandheldHost.Proofs.Text.Unsigned

/-!
# Numbers on the command line

A count is a decimal numeral, or `0x` and a hexadecimal one.  No decimal numeral begins
with `0x`, so the first two characters of a text tell which of the two it is to be, and
with that how its refusal is worded.

* `CommandLine.Denotes` -- which number a text stands for.
* `CommandLine.readCount_eq_ok_iff` -- which texts are counts.
* `CommandLine.numbers_are_numerals` -- counts, refusals, and sizes of memory windows.
-/

namespace HandheldHost.CommandLine

open Text.Unsigned

/-- A text stands for a number: it is `0x` and a hexadecimal numeral, or a decimal
numeral. -/
def Denotes (text : List Char) (n : Nat) : Prop :=
  (∃ digits, text = '0' :: 'x' :: digits ∧ Numeral 16 digits n) ∨ Numeral 10 text n

theorem not_numeral_ten_hex (digits : List Char) (n : Nat) :
    ¬Numeral 10 ('0' :: 'x' :: digits) n := by
  rw [numeral_iff_of_unsigned (by simp)]
  rintro ⟨-, values, are_digits, -⟩
  obtain ⟨_, _, -, are_digits, -⟩ := List.forall₂_cons_left_iff.mp are_digits
  obtain ⟨value, _, is_digit, -⟩ := List.forall₂_cons_left_iff.mp are_digits
  exact absurd ((digitValue?_eq_some_iff (by decide) 'x' value).mpr is_digit)
    (by simp [digitValue?])

/-- Reads a count; a text that is none is refused with its defect. -/
def readCount : List Char → Except Defect Nat
  | '0' :: 'x' :: digits => read 16 UInt32.size digits
  | digits => read 10 UInt32.size digits

theorem readCount_eq_ok_iff (text : List Char) (n : Nat) :
    readCount text = .ok n ↔ Denotes text n ∧ n < UInt32.size := by
  unfold readCount
  split
  · rename_i digits
    rw [read_eq_ok_iff (by decide) (by decide) (by decide)]
    simp [Denotes, not_numeral_ten_hex]
  · rename_i decimal
    have not_hex : ¬∃ digits, text = '0' :: 'x' :: digits ∧ Numeral 16 digits n :=
      fun ⟨digits, hex, _⟩ => decimal digits hex
    rw [read_eq_ok_iff (by decide) (by decide) (by decide), Denotes, or_iff_right not_hex]

/-- How a text that is no count is refused. -/
def refusalOf (text : String) : String :=
  if ['0', 'x'] <+: text.toList then "invalid hex value '" ++ text ++ "'"
  else "invalid number '" ++ text ++ "'"

theorem parseCount_eq (text : String) :
    parseCount text = (readCount text.toList).mapError fun _ => refusalOf text := by
  unfold parseCount
  split
  · rename_i digits hex
    have is_hex : ['0', 'x'] <+: '0' :: 'x' :: digits := ⟨digits, rfl⟩
    rw [refusalOf, hex, if_pos is_hex]
    rfl
  · rename_i decimal
    have not_hex : ¬['0', 'x'] <+: text.toList := fun ⟨digits, hex⟩ => decimal digits hex.symm
    rw [refusalOf, if_neg not_hex, readCount]
    exact decimal

theorem parseCount_eq_ok_iff (text : String) (n : Nat) :
    parseCount text = .ok n ↔ Denotes text.toList n ∧ n < UInt32.size := by
  rw [← readCount_eq_ok_iff, parseCount_eq]
  cases readCount text.toList <;> simp [Except.mapError]

theorem parseCount_eq_error_iff (text reason : String) :
    parseCount text = .error reason ↔
      (∀ n, Denotes text.toList n → UInt32.size ≤ n) ∧ reason = refusalOf text := by
  have refused : (∃ defect, readCount text.toList = .error defect) ↔
      ∀ n, Denotes text.toList n → UInt32.size ≤ n := by
    have read := readCount_eq_ok_iff text.toList
    cases outcome : readCount text.toList with
    | ok n =>
      obtain ⟨denotes, small⟩ := (read n).mp outcome
      exact iff_of_false nofun fun large => Nat.not_le.mpr small (large n denotes)
    | error defect =>
      refine iff_of_true ⟨defect, rfl⟩ fun n denotes => Nat.le_of_not_lt fun small => ?_
      exact nomatch outcome.symm.trans ((read n).mpr ⟨denotes, small⟩)
  rw [← refused, parseCount_eq]
  cases readCount text.toList <;> simp [Except.mapError, eq_comm]

/-- A size of a memory window is a count that is not too large. -/
theorem parseWindowSize_eq_ok_iff (text : String) (n : Nat) :
    parseWindowSize text = .ok n ↔ parseCount text = .ok n ∧ n ≤ maxWindow := by
  unfold parseWindowSize
  cases parseCount text with
  | error reason => simp [bind, Except.bind]
  | ok size =>
    show (if maxWindow < size then _ else Except.ok size) = _ ↔ _
    split
    · rename_i large
      simp
      omega
    · rename_i fits
      simp
      omega

/-- **What the command line takes for a number.**  A count is any numeral for a number below
2 ^ 32, with `0x` in front if it is hexadecimal: there may be a plus sign, any number of
zeros, and letters of either case.  Every other text is refused, as a bad hexadecimal
value if it begins with `0x` and else as a bad number.  The size of a memory window is a
count that is at most 256. -/
theorem numbers_are_numerals (text : String) :
    (∀ n, parseCount text = .ok n ↔ Denotes text.toList n ∧ n < 2 ^ 32) ∧
      (∀ reason, parseCount text = .error reason ↔
        (∀ n, Denotes text.toList n → 2 ^ 32 ≤ n) ∧
          reason =
            if ['0', 'x'] <+: text.toList then "invalid hex value '" ++ text ++ "'"
            else "invalid number '" ++ text ++ "'") ∧
      ∀ n, parseWindowSize text = .ok n ↔ Denotes text.toList n ∧ n ≤ 256 := by
  refine ⟨parseCount_eq_ok_iff text, parseCount_eq_error_iff text, fun n => ?_⟩
  have small_enough (small : n ≤ 256) : n < UInt32.size := Nat.lt_of_le_of_lt small (by decide)
  rw [parseWindowSize_eq_ok_iff, parseCount_eq_ok_iff, and_assoc]
  exact and_congr_right fun _ => and_iff_right_of_imp small_enough

-- The letter for the base is small, and the sign comes behind it.
example : parseCount "0x+0fF" = .ok 255 := by cbv
example : parseCount "+0xff" = .error "invalid number '+0xff'" := by cbv

end HandheldHost.CommandLine
