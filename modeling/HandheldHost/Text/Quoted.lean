import HandheldHost.Text.Extending
import HandheldHost.Text.Unprintable

/-!
# Quoted text

File paths are shown between double quotes, with anything that would not be
seen as a character of its own spelt out: short escapes for the common ones,
the code point in braces for the others.
-/

namespace HandheldHost.Text.Quoted

/-- How a character is written between quotes. -/
def escape (c : Char) : List Char :=
  if c = '\x00' then ['\\', '0']
  else if c = '\t' then ['\\', 't']
  else if c = '\n' then ['\\', 'n']
  else if c = '\r' then ['\\', 'r']
  else if c = '\x22' then ['\\', '\x22']
  else if c = '\\' then ['\\', '\\']
  else if isExtending c || isUnprintable c then
    ['\\', 'u', '\x7b'] ++ Nat.toDigits 16 c.toNat ++ ['\x7d']
  else [c]

/-- A text between double quotes. -/
def quote (text : String) : String :=
  String.ofList ('\x22' :: text.toList.flatMap escape ++ ['\x22'])

end HandheldHost.Text.Quoted
