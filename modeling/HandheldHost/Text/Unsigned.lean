/-!
# Reading unsigned numbers

A number is an optional plus sign and one or more digits of the radix, of
either case, with any number of leading zeros; its value must lie below a
limit.  A text that is no such number is refused with the first defect met
from left to right.
-/

namespace HandheldHost.Text.Unsigned

/-- Why a text is no number below the limit. -/
inductive Defect where
  /-- There is nothing to read. -/
  | empty
  /-- A character is no digit. -/
  | badDigit
  /-- The value reaches the limit. -/
  | tooLarge
  deriving DecidableEq, Repr

/-- The wording of a defect. -/
def Defect.message : Defect → String
  | .empty => "cannot parse integer from empty string"
  | .badDigit => "invalid digit found in string"
  | .tooLarge => "number too large to fit in target type"

/-- The value of a digit in the given radix, ten or sixteen. -/
def digitValue? (radix : Nat) (c : Char) : Option Nat :=
  let value? :=
    if '0' ≤ c ∧ c ≤ '9' then some (c.toNat - 48)
    else if 'a' ≤ c ∧ c ≤ 'f' then some (c.toNat - 87)
    else if 'A' ≤ c ∧ c ≤ 'F' then some (c.toNat - 55)
    else none
  value?.filter fun value => value < radix

/-- Reads digits after ones already worth `value`. -/
def readDigits (radix limit : Nat) (value : Nat) : List Char → Except Defect Nat
  | [] => .ok value
  | c :: rest =>
    match digitValue? radix c with
    | none => .error .badDigit
    | some digit =>
      if value * radix + digit < limit then
        readDigits radix limit (value * radix + digit) rest
      else .error .tooLarge

/-- Reads a number. -/
def read (radix limit : Nat) (text : List Char) : Except Defect Nat :=
  match text with
  | [] => .error .empty
  | ['+'] => .error .badDigit
  | '+' :: digits => readDigits radix limit 0 digits
  | digits => readDigits radix limit 0 digits

end HandheldHost.Text.Unsigned
