import HandheldHost.Inspection.Line
import HandheldHost.Proofs.Text.Json

/-!
# The debug view is one line, and all of it

Compact JSON has no control character in it, so the line that the debug view makes is
one line, whatever the wording of a fault, and the lines of several views can be told
apart.  And nothing of the view is lost: a reader that knows which fields there are gets
every register, octet, counter and the very wording of the fault back.

* `Inspection.newline_not_mem_json` -- whatever is in the view.
* `Inspection.read?` -- the reader.
* `Inspection.line_is_faithful` -- one line from which the view is read back.
-/

namespace HandheldHost

open Text Text.Json

namespace Inspection

/-! ## One line -/

theorem plain_faultJson (fault : Option String) : Plain (faultJson fault) := by
  cases fault with
  | none => exact plain_null
  | some text => exact plain_text text.toList

theorem plain_json (view : Inspection) : Plain view.json := by
  have flags : Plain view.registers.flags.json :=
    plain_object (by simp [plain_field, plain_bool])
  have registers : Plain view.registers.json :=
    plain_object (by simp [plain_field, plain_nat, flags])
  have bytes : Plain (array (view.window.bytes.toList.map fun b => nat b.toNat)) :=
    plain_array (by simp [plain_nat])
  have window : Plain view.window.json :=
    plain_object (by simp [plain_field, plain_nat, bytes])
  have counters : Plain view.counters.json :=
    plain_object (by simp [plain_field, plain_nat])
  exact plain_object (by simp [plain_field, registers, window, counters, plain_faultJson])

/-- **The debug view is one line**, whatever it shows. -/
theorem newline_not_mem_json (view : Inspection) : '\n' ∉ view.json :=
  view.plain_json.newline_not_mem

theorem line_eq (view : Inspection) : view.line = String.ofList view.json ++ "\n" := by
  rw [line, String.ofList_append]

end Inspection

/-! ## Reading -/

namespace Text.Json.Reader

/-- Reads an octet. -/
def octet : Reader UInt8 := UInt8.ofNat <$> nat

/-- Reads a 16-bit word. -/
def word : Reader UInt16 := UInt16.ofNat <$> nat

/-- Reads a counter. -/
def counter : Reader Counter := Counter.ofNat <$> nat

end Text.Json.Reader

open Text.Json.Reader (octet word counter)

/-- Reads the flags. -/
def Flags.reader : Reader Flags := Reader.object do
  let carry ← Reader.next "carry" Reader.bool
  let halfCarry ← Reader.next "half_carry" Reader.bool
  let subtract ← Reader.next "subtract" Reader.bool
  let zero ← Reader.last "zero" Reader.bool
  return { carry, halfCarry, subtract, zero }

/-- Reads the register file. -/
def Registers.reader : Reader Registers := Reader.object do
  let a ← Reader.next "a" octet
  let b ← Reader.next "b" octet
  let c ← Reader.next "c" octet
  let d ← Reader.next "d" octet
  let e ← Reader.next "e" octet
  let hl ← Reader.next "hl" word
  let pc ← Reader.next "pc" word
  let sp ← Reader.next "sp" word
  let flags ← Reader.last "flags" Flags.reader
  return { a, b, c, d, e, hl, pc, sp, flags }

/-- Reads the memory window. -/
def MemoryWindow.reader : Reader MemoryWindow := Reader.object do
  let base ← Reader.next "base" word
  let numbers ← Reader.last "bytes" Reader.nats
  return { base, bytes := (numbers.map UInt8.ofNat).toArray }

/-- Reads the counters. -/
def Counters.reader : Reader Counters := Reader.object do
  let ticks ← Reader.next "ticks" counter
  let frames ← Reader.next "frames" counter
  let instructions ← Reader.next "instructions" counter
  let faults ← Reader.last "faults" counter
  return { ticks, frames, instructions, faults }

namespace Inspection

/-- Reads the debug view. -/
def reader : Reader Inspection := Reader.object do
  let registers ← Reader.next "cpu" Registers.reader
  let window ← Reader.next "mem" MemoryWindow.reader
  let counters ← Reader.next "perf" Counters.reader
  let fault ← Reader.last "fault" (Reader.nullable Reader.text)
  return { registers, window, counters, fault := fault.map String.ofList }

/-- Reads the debug view off its line. -/
def read? (line : String) : Option Inspection :=
  match reader line.toList with
  | some (view, ['\n']) => some view
  | _ => none

end Inspection

theorem reads_octet (b : UInt8) : Reads octet b (nat b.toNat) := by
  have found := (reads_nat b.toNat).map UInt8.ofNat
  rwa [UInt8.ofNat_toNat] at found

theorem reads_word (w : UInt16) : Reads word w (nat w.toNat) := by
  have found := (reads_nat w.toNat).map UInt16.ofNat
  rwa [UInt16.ofNat_toNat] at found

theorem reads_counter (c : Counter) : Reads counter c (nat c.val) := by
  have found := (reads_nat c.val).map Counter.ofNat
  have same : Counter.ofNat c.val = c := Counter.ext (Counter.val_ofNat c.le_limit)
  rwa [same] at found

theorem Flags.reads_json (flags : Flags) : Reads reader flags flags.json := by
  refine .object ?_
  refine .next "carry" (reads_bool _) ?_
  refine .next "half_carry" (reads_bool _) ?_
  refine .next "subtract" (reads_bool _) ?_
  exact .last "zero" (reads_bool _) _

theorem Registers.reads_json (r : Registers) : Reads reader r r.json := by
  refine .object ?_
  refine .next "a" (reads_octet _) ?_
  refine .next "b" (reads_octet _) ?_
  refine .next "c" (reads_octet _) ?_
  refine .next "d" (reads_octet _) ?_
  refine .next "e" (reads_octet _) ?_
  refine .next "hl" (reads_word _) ?_
  refine .next "pc" (reads_word _) ?_
  refine .next "sp" (reads_word _) ?_
  exact .last "flags" r.flags.reads_json _

theorem MemoryWindow.reads_json (w : MemoryWindow) : Reads reader w w.json := by
  have numbers : (w.bytes.toList.map fun b => nat b.toNat) =
      (w.bytes.toList.map UInt8.toNat).map nat := by
    simp
  have octets : ((w.bytes.toList.map UInt8.toNat).map UInt8.ofNat).toArray = w.bytes := by
    simp [Function.comp_def]
  have found : Reads reader
      { w with bytes := ((w.bytes.toList.map UInt8.toNat).map UInt8.ofNat).toArray } w.json := by
    rw [json, numbers]
    refine .object ?_
    refine .next "base" (reads_word _) ?_
    exact .last "bytes" (reads_nats _) _
  rwa [octets] at found

theorem Counters.reads_json (c : Counters) : Reads reader c c.json := by
  refine .object ?_
  refine .next "ticks" (reads_counter _) ?_
  refine .next "frames" (reads_counter _) ?_
  refine .next "instructions" (reads_counter _) ?_
  exact .last "faults" (reads_counter _) _

namespace Inspection

/-- A wording begins with a quote, so it is never taken for null. -/
theorem reads_faultJson (fault : Option String) :
    Reads (Reader.nullable Reader.text) (fault.map String.toList) (faultJson fault) := by
  cases fault with
  | none => exact reads_nullable_none Reader.text
  | some wording => exact (reads_text wording.toList).nullable fun _ => rfl

theorem reads_json (view : Inspection) : Reads reader view view.json := by
  have wording : (view.fault.map String.toList).map String.ofList = view.fault := by
    cases view.fault <;> simp
  have found : Reads reader
      { view with fault := (view.fault.map String.toList).map String.ofList } view.json := by
    refine .object ?_
    refine .next "cpu" view.registers.reads_json ?_
    refine .next "mem" view.window.reads_json ?_
    refine .next "perf" view.counters.reads_json ?_
    exact .last "fault" (reads_faultJson view.fault) _
  rwa [wording] at found

theorem read?_line (view : Inspection) : read? view.line = some view := by
  have found := view.reads_json ['\n'] (by simp [Apart])
  rw [read?, line, String.toList_ofList, found]
  rfl

/-- **The line of a debug view is one line, and shows all of the view.**  It ends in a line
feed and has no other character below U+0020.  Registers and flags, the place and the
octets of the window, the counters, and the wording of the fault or that there is none
are read back from it; so different views never have the same line. -/
theorem line_is_faithful (view : Inspection) :
    (∃ body, view.line.toList = body ++ ['\n'] ∧ ∀ c ∈ body, 0x20 ≤ c.toNat) ∧
      read? view.line = some view ∧
      ∀ other : Inspection, other.line = view.line ↔ other = view := by
  refine ⟨⟨view.json, String.toList_ofList, view.plain_json⟩, read?_line view, ?_⟩
  intro other
  constructor
  · intro same
    have read := read?_line other
    rw [same, read?_line, Option.some.injEq] at read
    exact read.symm
  · rintro rfl
    rfl

end Inspection

end HandheldHost
