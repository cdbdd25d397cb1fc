import HandheldHost.Inspection.Panel
import HandheldHost.Proofs.Hexdump

/-!
# The panel, line by line

The text panel of the debug view is a line of five registers, a line of the three
16-bit ones, a line of the flags, a line for the last fault if there was one, and then
the window, sixteen octets to a line.

* `Inspection.panelLines` -- the lines.
* `Inspection.fullPanel_eq` -- the panel is these lines.
-/

namespace HandheldHost

open Text

/-- A text of lines, each of them ended by a line feed. -/
def Text.ofLines (lines : List String) : String := String.join (lines.map (· ++ "\n"))

theorem Text.toList_ofLines (lines : List String) :
    (ofLines lines).toList = lines.flatMap fun line => line.toList ++ ['\n'] := by
  simp [ofLines, String.toList_join, List.flatMap_map]

theorem Text.ofLines_nil : ofLines [] = "" := rfl

theorem Text.ofLines_cons (line : String) (lines : List String) :
    ofLines (line :: lines) = line ++ "\n" ++ ofLines lines := String.join_cons

theorem Text.ofLines_append (lines more : List String) :
    ofLines (lines ++ more) = ofLines lines ++ ofLines more := by
  rw [ofLines, List.map_append, String.join_append]
  rfl

namespace Hexdump

/-- Line `j` of a hexdump: an address, a colon, and sixteen octets or what is left of
them, each behind a blank. -/
def row (base : UInt16) (bytes : Bytes) (j : Nat) : String :=
  Hex.ofWord (base + UInt16.ofNat (16 * j)) ++ ":" ++
    String.join ((bytes.extract (16 * j) (16 * j + 16)).toList.map fun b => " " ++ Hex.ofOctet b)

/-- The lines of a hexdump. -/
def rows (base : UInt16) (bytes : Bytes) : List String :=
  (List.range (max 1 ((bytes.size + 15) / 16))).map (row base bytes)

theorem toList_row_newline (base : UInt16) (bytes : Bytes) (j : Nat) :
    (row base bytes j).toList ++ ['\n'] = lineAt base bytes.toList j := by
  have part : (bytes.extract (16 * j) (16 * j + 16)).toList =
      (bytes.toList.drop (16 * j)).take 16 := by
    simp
  have octet (b : UInt8) : (" " ++ Hex.ofOctet b).toList = ' ' :: Hex.byteDigits b := by
    simp [Hex.ofOctet, Hex.byteDigits_eq]
  rw [row, String.toList_append, String.toList_append, String.toList_join, List.flatMap_map, part,
    Hex.ofWord, String.toList_ofList, ← Hex.wordDigits_eq, lineAt, line]
  simp only [octet]
  rfl

theorem render_eq (base : UInt16) (bytes : Bytes) : render base bytes = ofLines (rows base bytes) := by
  rw [← String.toList_inj, render, String.toList_ofList, lines_eq, toList_ofLines, rows,
    List.flatMap_map]
  simp only [toList_row_newline]
  rfl

end Hexdump

namespace Inspection

/-- The lines of the panel. -/
def panelLines (view : Inspection) : List String :=
  let r := view.registers
  let bit (flag : Bool) := if flag then "1" else "0"
  ["A: " ++ Hex.ofOctet r.a ++ "  B: " ++ Hex.ofOctet r.b ++ "  C: " ++ Hex.ofOctet r.c ++
      "  D: " ++ Hex.ofOctet r.d ++ "  E: " ++ Hex.ofOctet r.e,
    "HL: " ++ Hex.ofWord r.hl ++ "  PC: " ++ Hex.ofWord r.pc ++ "  SP: " ++ Hex.ofWord r.sp,
    "c: " ++ bit r.flags.carry ++ " hc: " ++ bit r.flags.halfCarry ++ " sub: " ++
      bit r.flags.subtract ++ " z: " ++ bit r.flags.zero] ++
    view.fault.toList ++ Hexdump.rows view.window.base view.window.bytes

/-- **The panel is its lines.** -/
theorem fullPanel_eq (view : Inspection) : view.fullPanel = ofLines view.panelLines := by
  have one (a : String) : ofLines [a] = a ++ "\n" := by simp [ofLines]
  have three (a b c : String) : ofLines [a, b, c] = a ++ "\n" ++ b ++ "\n" ++ c ++ "\n" := by
    simp [ofLines, String.append_assoc]
  rw [fullPanel, panel, panelLines, ofLines_append, ofLines_append, three, Hexdump.render_eq]
  delta octetLine wordLine flagLine
  simp only [Hex.byte_eq, Hex.word_eq, flagDigit]
  cases view.fault with
  | none => rfl
  | some fault => exact congrArg (_ ++ · ++ _) (one fault).symm

end Inspection

end HandheldHost
