import HandheldHost.Text.CodeRanges

/-!
# White space and case in names

Names typed by a person are compared after removing surrounding white
space and ignoring the case of ASCII letters.  White space is the Unicode
property White_Space: 25 characters in ten ranges.  No other letter has a
case here, so a letter of another script never stands for an ASCII one.
-/

namespace HandheldHost.Text

/-- The white-space characters as closed ranges of code points, ascending
and apart. -/
def blankRanges : List (Nat × Nat) :=
  [(0x09, 0x0D), (0x20, 0x20), (0x85, 0x85), (0xA0, 0xA0), (0x1680, 0x1680),
   (0x2000, 0x200A), (0x2028, 0x2029), (0x202F, 0x202F), (0x205F, 0x205F),
   (0x3000, 0x3000)]

/-- Whether a character is white space. -/
def isBlank (c : Char) : Bool := inRanges blankRanges c.toNat

/-- The text without the white space around it. -/
def trim (s : List Char) : List Char :=
  (((s.dropWhile isBlank).reverse).dropWhile isBlank).reverse

/-- Two texts that differ in the case of ASCII letters at most. -/
def sameLetters (s t : List Char) : Bool := s.map Char.toLower == t.map Char.toLower

end HandheldHost.Text
