/-!
# Upper-case hexadecimal of fixed width

Octets are written with two digits and addresses with four, always in
upper case and never shortened.
-/

namespace HandheldHost.Text.Hex

/-- The digit for a value below sixteen. -/
def digit (n : Nat) : Char :=
  if n < 10 then Char.ofNat (48 + n) else Char.ofNat (55 + n)

/-- The two digits of an octet. -/
def byteDigits (b : UInt8) : List Char :=
  [digit (b.toNat / 16), digit (b.toNat % 16)]

/-- The four digits of a 16-bit word. -/
def wordDigits (w : UInt16) : List Char :=
  [digit (w.toNat / 4096), digit (w.toNat / 256 % 16), digit (w.toNat / 16 % 16),
    digit (w.toNat % 16)]

/-- An octet as text. -/
def byte (b : UInt8) : String := String.ofList (byteDigits b)

/-- A 16-bit word as text. -/
def word (w : UInt16) : String := String.ofList (wordDigits w)

end HandheldHost.Text.Hex
