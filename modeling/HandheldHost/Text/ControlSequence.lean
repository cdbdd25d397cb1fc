/-!
# Control sequences

A terminal takes some characters as orders: an escape character and what
belongs to it.  Where the output is no terminal the orders are taken out of
a text, and with them every control but tab, line feed, form feed and
carriage return.
-/

namespace HandheldHost.Text.ControlSequence

/-- Controls that lay out a text. -/
def isLayout (c : Char) : Bool := c = '\t' || c = '\n' || c = '\x0c' || c = '\r'

/-- Characters that are shown outside an order. -/
def shows (c : Char) : Bool := (0x20 ≤ c.toNat && c.toNat ≠ 0x7F) || isLayout c

/-- What has been read of an order. -/
inductive Phase where
  /-- Nothing: plain text. -/
  | text
  /-- The escape character. -/
  | escape
  /-- An escape character and intermediate characters. -/
  | intermediate
  /-- The beginning of a control sequence. -/
  | control
  /-- The beginning of a device control string. -/
  | device
  /-- A device control string with parameters. -/
  | deviceParameter
  /-- A device control string with intermediate characters. -/
  | deviceIntermediate
  /-- A string that goes on to its terminator. -/
  | string
  /-- An operating system command, which goes on to a bell. -/
  | command
  deriving DecidableEq, Repr

/-- Whether the encoding of a character holds the octet that ends a string. -/
def endsString (c : Char) : Bool := (String.utf8EncodeChar c).contains 0x9C

namespace Phase

/-- What has been read after one more character. -/
def after (c : Char) : Phase → Phase
  | text => text
  | escape =>
    if c = '[' then control
    else if c = ']' then command
    else if c = 'P' then device
    else if c = 'X' ∨ c = '^' ∨ c = '_' then string
    else if 0x20 ≤ c.toNat ∧ c.toNat ≤ 0x2F then intermediate
    else if 0x30 ≤ c.toNat ∧ c.toNat ≤ 0x7E then text
    else escape
  | intermediate => if 0x30 ≤ c.toNat ∧ c.toNat ≤ 0x7E then text else intermediate
  | control => if 0x40 ≤ c.toNat ∧ c.toNat ≤ 0x7E then text else control
  | device =>
    if 0x20 ≤ c.toNat ∧ c.toNat ≤ 0x2F then deviceIntermediate
    else if 0x30 ≤ c.toNat ∧ c.toNat ≤ 0x3F then deviceParameter
    else if 0x40 ≤ c.toNat ∧ c.toNat ≤ 0x7E then string
    else device
  | deviceParameter =>
    if 0x20 ≤ c.toNat ∧ c.toNat ≤ 0x2F then deviceIntermediate
    else if 0x3C ≤ c.toNat ∧ c.toNat ≤ 0x7E then string
    else deviceParameter
  | deviceIntermediate =>
    if 0x30 ≤ c.toNat ∧ c.toNat ≤ 0x7E then string else deviceIntermediate
  | string => if endsString c then text else string
  | command => if c = '\x07' then text else command

/-- Whether layout is obeyed in the middle of the order.  Strings swallow it. -/
def obeysLayout : Phase → Bool
  | text | escape | intermediate | control => true
  | device | deviceParameter | deviceIntermediate | string | command => false

end Phase

/-- How far a text has been read.  Layout inside an order is shown, and so is
what follows it, up to the next control; the order then goes on, unless a
character beyond ASCII was among what was shown. -/
structure Reader where
  phase : Phase := .text
  /-- Characters are shown, whatever the order. -/
  showing : Bool := false
  deriving DecidableEq, Repr

/-- Reads one character; tells whether it is shown. -/
def Reader.read (r : Reader) (c : Char) : Bool × Reader :=
  if c = '\x1b' then (false, ⟨.escape, false⟩)
  else if c = '\x18' ∨ c = '\x1a' then (false, ⟨.text, false⟩)
  else if r.showing = true ∨ r.phase = .text then
    if shows c then (true, ⟨if c.toNat < 0x80 then r.phase else .text, true⟩)
    else (false, ⟨r.phase, false⟩)
  else if r.phase.obeysLayout && isLayout c then (true, ⟨r.phase, true⟩)
  else (false, ⟨r.phase.after c, false⟩)

/-- The characters that a reader shows. -/
def Reader.shown (r : Reader) : List Char → List Char
  | [] => []
  | c :: rest =>
    if (r.read c).1 then c :: (r.read c).2.shown rest else (r.read c).2.shown rest

/-- A text without its orders. -/
def strip (text : List Char) : List Char := Reader.shown {} text

/-- A text as it is shown where the output is no terminal. -/
def plain (text : String) : String := String.ofList (strip text.toList)

end HandheldHost.Text.ControlSequence
