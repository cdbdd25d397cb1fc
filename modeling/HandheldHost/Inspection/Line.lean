import HandheldHost.Inspection
import HandheldHost.Text.Json

/-!
# The debug view as a line of JSON

One object on one line, for logs that are read by programs.
-/

namespace HandheldHost

open Text

/-- The flags as an object. -/
def Flags.json (flags : Flags) : List Char :=
  Json.object [Json.field "carry" (Json.bool flags.carry),
    Json.field "half_carry" (Json.bool flags.halfCarry),
    Json.field "subtract" (Json.bool flags.subtract),
    Json.field "zero" (Json.bool flags.zero)]

/-- The register file as an object. -/
def Registers.json (r : Registers) : List Char :=
  Json.object [Json.field "a" (Json.nat r.a.toNat), Json.field "b" (Json.nat r.b.toNat),
    Json.field "c" (Json.nat r.c.toNat), Json.field "d" (Json.nat r.d.toNat),
    Json.field "e" (Json.nat r.e.toNat), Json.field "hl" (Json.nat r.hl.toNat),
    Json.field "pc" (Json.nat r.pc.toNat), Json.field "sp" (Json.nat r.sp.toNat),
    Json.field "flags" r.flags.json]

/-- The memory window as an object. -/
def MemoryWindow.json (w : MemoryWindow) : List Char :=
  Json.object [Json.field "base" (Json.nat w.base.toNat),
    Json.field "bytes" (Json.array (w.bytes.toList.map fun b => Json.nat b.toNat))]

/-- The counters as an object. -/
def Counters.json (c : Counters) : List Char :=
  Json.object [Json.field "ticks" (Json.nat c.ticks.val),
    Json.field "frames" (Json.nat c.frames.val),
    Json.field "instructions" (Json.nat c.instructions.val),
    Json.field "faults" (Json.nat c.faults.val)]

namespace Inspection

/-- The last fault as a string or null. -/
def faultJson (fault : Option String) : List Char :=
  match fault with
  | none => Json.null
  | some text => Json.text text.toList

/-- The debug view as an object. -/
def json (view : Inspection) : List Char :=
  Json.object [Json.field "cpu" view.registers.json, Json.field "mem" view.window.json,
    Json.field "perf" view.counters.json, Json.field "fault" (faultJson view.fault)]

/-- The debug view as one line. -/
def line (view : Inspection) : String := String.ofList (view.json ++ ['\n'])

end Inspection

end HandheldHost
