import HandheldHost.Text.Hex

/-!
# Hexadecimal digits, written and read

* `Text.Hex.byteDigits_eq`, `Text.Hex.wordDigits_eq` -- the digits of an octet and of
  a 16-bit word are those of its number, in upper case and filled up with zeros in
  front.
* `Text.Hex.number?_byteDigits`, `Text.Hex.number?_wordDigits` -- read as a number they
  give the octet or the word back.
-/

namespace HandheldHost.Text.Hex

/-! ## Writing -/

/-- A number in hexadecimal: in upper case, with zeros in front up to a width. -/
def padded (width n : Nat) : List Char :=
  ((Nat.toDigits 16 n).map Char.toUpper).leftpad width '0'

theorem digit_eq : ∀ n < 16, digit n = (Nat.digitChar n).toUpper := by decide

theorem padded_one {n : Nat} (small : n < 16) : padded 1 n = [digit n] := by
  rw [padded, Nat.toDigits_of_lt_base small, digit_eq n small]
  rfl

/-- The last digit, and the ones in front of it. -/
theorem padded_succ {width : Nat} (positive : 0 < width) (n : Nat) :
    padded (width + 1) n = padded width (n / 16) ++ [digit (n % 16)] := by
  rw [digit_eq (n % 16) (Nat.mod_lt n (by decide))]
  by_cases small : n < 16
  · -- The only digit, and nothing but zeros in front of it.
    have zeros : padded width 0 = List.replicate width '0' := by
      obtain ⟨w, rfl⟩ := Nat.exists_eq_add_one_of_ne_zero (Nat.ne_of_gt positive)
      exact List.replicate_succ'.symm
    rw [Nat.div_eq_of_lt small, Nat.mod_eq_of_lt small, zeros, padded,
      Nat.toDigits_of_lt_base small]
    rfl
  · simp [padded, Nat.toDigits_eq_if (b := 16) (n := n) (by decide), small, List.leftpad]

theorem byteDigits_eq (b : UInt8) : byteDigits b = padded 2 b.toNat := by
  have small := b.toNat_lt
  rw [padded_succ (by decide), padded_one (by omega)]
  rfl

theorem wordDigits_eq (w : UInt16) : wordDigits w = padded 4 w.toNat := by
  have small := w.toNat_lt
  have third : w.toNat / 16 / 16 = w.toNat / 256 := by omega
  have fourth : w.toNat / 256 / 16 = w.toNat / 4096 := by omega
  rw [padded_succ (by decide), padded_succ (by decide), padded_succ (by decide), third, fourth,
    padded_one (by omega)]
  rfl

/-- An octet in two digits. -/
def ofOctet (b : UInt8) : String := String.ofList (padded 2 b.toNat)

/-- A 16-bit word in four digits. -/
def ofWord (w : UInt16) : String := String.ofList (padded 4 w.toNat)

theorem byte_eq (b : UInt8) : byte b = ofOctet b := by
  rw [byte, byteDigits_eq, ofOctet]

theorem word_eq (w : UInt16) : word w = ofWord w := by
  rw [word, wordDigits_eq, ofWord]

/-- No digit ends a line. -/
theorem newline_ne_digit : ∀ n < 16, '\n' ≠ digit n := by decide

theorem newline_not_mem_byteDigits (b : UInt8) : '\n' ∉ byteDigits b := by
  have small := b.toNat_lt
  have high := newline_ne_digit (b.toNat / 16) (by omega)
  have low := newline_ne_digit (b.toNat % 16) (by omega)
  simp [byteDigits, high, low]

theorem newline_not_mem_wordDigits (w : UInt16) : '\n' ∉ wordDigits w := by
  have small := w.toNat_lt
  have first := newline_ne_digit (w.toNat / 4096) (by omega)
  have second := newline_ne_digit (w.toNat / 256 % 16) (by omega)
  have third := newline_ne_digit (w.toNat / 16 % 16) (by omega)
  have last := newline_ne_digit (w.toNat % 16) (by omega)
  simp [wordDigits, first, second, third, last]

/-! ## Reading -/

/-- The value of an upper-case digit. -/
def value? (c : Char) : Option Nat :=
  if '0' ≤ c ∧ c ≤ '9' then some (c.toNat - 48)
  else if 'A' ≤ c ∧ c ≤ 'F' then some (c.toNat - 55)
  else none

/-- The number that digits stand for. -/
def number? (digits : List Char) : Option Nat :=
  digits.foldlM (fun n c => (value? c).map (16 * n + ·)) 0

theorem value?_digit : ∀ n < 16, value? (digit n) = some n := by decide

theorem number?_byteDigits (b : UInt8) : number? (byteDigits b) = some b.toNat := by
  have small := b.toNat_lt
  have high := value?_digit (b.toNat / 16) (by omega)
  have low := value?_digit (b.toNat % 16) (by omega)
  simp only [number?, byteDigits, List.foldlM_cons, List.foldlM_nil, high, low, Option.map_some,
    Option.bind_eq_bind, Option.bind_some, Option.pure_def, Option.some.injEq]
  omega

theorem number?_wordDigits (w : UInt16) : number? (wordDigits w) = some w.toNat := by
  have small := w.toNat_lt
  have first := value?_digit (w.toNat / 4096) (by omega)
  have second := value?_digit (w.toNat / 256 % 16) (by omega)
  have third := value?_digit (w.toNat / 16 % 16) (by omega)
  have last := value?_digit (w.toNat % 16) (by omega)
  simp only [number?, wordDigits, List.foldlM_cons, List.foldlM_nil, first, second, third, last,
    Option.map_some, Option.bind_eq_bind, Option.bind_some, Option.pure_def, Option.some.injEq]
  omega

end HandheldHost.Text.Hex
