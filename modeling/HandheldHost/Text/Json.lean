import HandheldHost.Text.Hex

/-!
# Compact JSON

The pieces that compact JSON is made of, as lists of characters: there is
no blank outside strings, and fields keep the order they are given in.  In
a string the quote, the backslash and the characters below U+0020 are
escaped, five of those by a letter and the others by four lower-case
hexadecimal digits; every other character stands for itself.
-/

namespace HandheldHost.Text.Json

/-- The lower-case hexadecimal digit for a value below sixteen. -/
def lowerDigit (n : Nat) : Char :=
  if n < 10 then Char.ofNat (48 + n) else Char.ofNat (87 + n)

/-- How a character is written inside a string. -/
def escape (c : Char) : List Char :=
  if c = '\x22' then ['\\', '\x22']
  else if c = '\\' then ['\\', '\\']
  else if c = '\x08' then ['\\', 'b']
  else if c = '\t' then ['\\', 't']
  else if c = '\n' then ['\\', 'n']
  else if c = '\x0c' then ['\\', 'f']
  else if c = '\r' then ['\\', 'r']
  else if c.toNat < 0x20 then
    ['\\', 'u', '0', '0', lowerDigit (c.toNat / 16), lowerDigit (c.toNat % 16)]
  else [c]

/-- A string. -/
def text (s : List Char) : List Char := '\x22' :: s.flatMap escape ++ ['\x22']

/-- The null value. -/
def null : List Char := ['n', 'u', 'l', 'l']

/-- A truth value. -/
def bool : Bool → List Char
  | true => ['t', 'r', 'u', 'e']
  | false => ['f', 'a', 'l', 's', 'e']

/-- A natural number. -/
def nat (n : Nat) : List Char := Nat.toDigits 10 n

/-- Items with commas between them. -/
def commas : List (List Char) → List Char
  | [] => []
  | [item] => item
  | item :: items => item ++ ',' :: commas items

/-- An array of written values. -/
def array (items : List (List Char)) : List Char := '[' :: commas items ++ [']']

/-- A field with its written value. -/
def field (name : String) (value : List Char) : List Char := text name.toList ++ ':' :: value

/-- An object of fields. -/
def object (fields : List (List Char)) : List Char := '\x7b' :: commas fields ++ ['\x7d']

end HandheldHost.Text.Json
