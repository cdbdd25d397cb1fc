import HandheldHost.Raster

/-!
# Octets shown as text

Octets are shown as the characters that they encode in UTF-8.  Where they
encode none, the longest beginning of a character is shown as one replacement
character, and so is an octet that begins no character.
-/

namespace HandheldHost.Text.Octets

/-- The beginning of a character: how many octets are still needed, the value
so far, and the range of the next octet. -/
structure Pending where
  needed : Nat
  value : Nat
  lower : Nat := 0x80
  upper : Nat := 0xBF
  deriving DecidableEq, Repr

/-- Shown where octets are no text. -/
def replacement : Char := '\uFFFD'

/-- What has been read of a text. -/
structure Reader where
  text : String := ""
  pending : Option Pending := none
  deriving DecidableEq, Repr

namespace Reader

/-- Reads the first octet of a character.  Forms that are longer than need be,
surrogates and values beyond the last character are none. -/
def start (text : String) (b : Nat) : Reader :=
  if b < 0x80 then { text := text.push (Char.ofNat b) }
  else if 0xC2 ≤ b ∧ b ≤ 0xDF then { text, pending := some { needed := 1, value := b - 0xC0 } }
  else if b = 0xE0 then { text, pending := some { needed := 2, value := 0, lower := 0xA0 } }
  else if b = 0xED then { text, pending := some { needed := 2, value := 0xD, upper := 0x9F } }
  else if 0xE1 ≤ b ∧ b ≤ 0xEF then { text, pending := some { needed := 2, value := b - 0xE0 } }
  else if b = 0xF0 then { text, pending := some { needed := 3, value := 0, lower := 0x90 } }
  else if b = 0xF4 then { text, pending := some { needed := 3, value := 4, upper := 0x8F } }
  else if 0xF1 ≤ b ∧ b ≤ 0xF3 then { text, pending := some { needed := 3, value := b - 0xF0 } }
  else { text := text.push replacement }

/-- Reads an octet. -/
def read (r : Reader) (octet : UInt8) : Reader :=
  let b := octet.toNat
  match r.pending with
  | none => start r.text b
  | some p =>
    if p.lower ≤ b ∧ b ≤ p.upper then
      let value := p.value * 0x40 + (b - 0x80)
      if p.needed ≤ 1 then { text := r.text.push (Char.ofNat value) }
      else { r with pending := some { needed := p.needed - 1, value } }
    else start (r.text.push replacement) b

/-- The text at the end of the octets. -/
def finish (r : Reader) : String :=
  match r.pending with
  | none => r.text
  | some _ => r.text.push replacement

end Reader

/-- Octets as they are shown. -/
def shown (octets : Bytes) : String := (octets.foldl Reader.read {}).finish

end HandheldHost.Text.Octets
