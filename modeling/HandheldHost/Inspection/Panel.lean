import HandheldHost.Hexdump
import HandheldHost.Inspection

/-!
# The debug view as a text panel

Three lines of registers and flags, the last fault if there was one, and
the memory window as a hexdump.
-/

namespace HandheldHost.Inspection

/-- A flag as a digit. -/
def flagDigit (flag : Bool) : String := if flag then "1" else "0"

/-- The 8-bit registers, in a line. -/
def octetLine (r : Registers) : String :=
  "A: " ++ Text.Hex.byte r.a ++ "  B: " ++ Text.Hex.byte r.b ++ "  C: " ++ Text.Hex.byte r.c ++
    "  D: " ++ Text.Hex.byte r.d ++ "  E: " ++ Text.Hex.byte r.e

/-- The 16-bit registers, in a line. -/
def wordLine (r : Registers) : String :=
  "HL: " ++ Text.Hex.word r.hl ++ "  PC: " ++ Text.Hex.word r.pc ++ "  SP: " ++ Text.Hex.word r.sp

/-- The flags, in a line. -/
def flagLine (f : Flags) : String :=
  "c: " ++ flagDigit f.carry ++ " hc: " ++ flagDigit f.halfCarry ++ " sub: " ++
    flagDigit f.subtract ++ " z: " ++ flagDigit f.zero

/-- Registers, flags and the last fault. -/
def panel (view : Inspection) : String :=
  octetLine view.registers ++ "\n" ++ wordLine view.registers ++ "\n" ++
    flagLine view.registers.flags ++ "\n" ++
  match view.fault with
  | none => ""
  | some fault => fault ++ "\n"

/-- The panel and the memory window. -/
def fullPanel (view : Inspection) : String :=
  view.panel ++ Hexdump.render view.window.base view.window.bytes

end HandheldHost.Inspection
