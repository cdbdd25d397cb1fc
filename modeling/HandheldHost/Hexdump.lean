import HandheldHost.Raster
import HandheldHost.Text.Hex

/-!
# Hexdumps

A hexdump shows memory sixteen octets to a line.  Every line starts with
the address of its first octet and a colon; addresses wrap after FFFF.
Memory of no octets still shows its address.
-/

namespace HandheldHost.Hexdump

/-- One line: the address, a colon, and every octet after a blank. -/
def line (address : UInt16) (bytes : List UInt8) : List Char :=
  Text.Hex.wordDigits address ++ ':' ::
    (bytes.flatMap fun b => ' ' :: Text.Hex.byteDigits b) ++ ['\n']

/-- The lines from an address on: a line is full before the next begins. -/
def lines (address : UInt16) (bytes : List UInt8) : List Char :=
  match _rest : bytes.drop 16 with
  | [] => line address bytes
  | b :: rest => line address (bytes.take 16) ++ lines (address + 16) (b :: rest)
termination_by bytes.length
decreasing_by
  have dropped := congrArg List.length _rest
  simp only [List.length_drop, List.length_cons] at dropped ⊢
  omega

/-- The hexdump of memory that starts at an address. -/
def render (address : UInt16) (bytes : Bytes) : String :=
  String.ofList (lines address bytes.toList)

end HandheldHost.Hexdump
