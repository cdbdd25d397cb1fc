import HandheldHost.Checkerboard
import HandheldHost.Core

/-!
# The pattern core

A core that walks the octets of its cartridge and draws a moving
checkerboard.  Execution starts at 0x0100.  Every opcode is one octet long
except an absolute jump and a relative one; each adds itself to the
accumulator.  An opcode that the processor does not define is a fault and
changes nothing, so the same fault comes back on every later attempt.

A frame is 1024 instructions.  Each completed frame redraws the picture,
whose phase is the frame count plus eight times the number of every button
held, buttons counting from one.
-/

namespace HandheldHost

/-- A cartridge being walked. -/
structure PatternCore where
  rom : Bytes
  registers : Registers
  /-- Whether each button is held. -/
  held : Vector Bool 8
  /-- The picture drawn last. -/
  picture : Bytes
  /-- Frames completed, a 64-bit count that wraps. -/
  frames : UInt64

namespace PatternCore

/-- The least image that holds a whole cartridge header. -/
def minimumRom : Nat := 0x150

/-- Instructions in one frame. -/
def instructionsPerFrame : Nat := 1024

/-- Opcodes that the processor does not define. -/
def undefinedOpcodes : List UInt8 :=
  [0xD3, 0xDB, 0xDD, 0xE3, 0xE4, 0xEB, 0xEC, 0xED, 0xF4, 0xFC, 0xFD]

/-- The registers when a cartridge gets control. -/
def bootRegisters : Registers where
  a := 0x01
  c := 0x13
  e := 0xD8
  hl := 0x014D
  pc := 0x0100
  sp := 0xFFFE
  flags := .ofF 0xB0

/-- The octet at an address; past the end of the image memory reads zero. -/
def fetch (core : PatternCore) (address : UInt16) : UInt8 :=
  core.rom.getD address.toNat 0

/-- A displacement octet as a signed address offset. -/
def signExtend (offset : UInt8) : UInt16 :=
  if offset < 0x80 then offset.toUInt16 else offset.toUInt16 + 0xFF00

/-- Where execution goes on after the opcode at the program counter. -/
def nextPc (core : PatternCore) : UInt16 :=
  let pc := core.registers.pc
  let opcode := core.fetch pc
  if opcode = 0xC3 then
    (core.fetch (pc + 1)).toUInt16 + (core.fetch (pc + 2)).toUInt16 * 0x100
  else if opcode = 0x18 then pc + 2 + signExtend (core.fetch (pc + 1))
  else pc + 1

/-- The fault at the program counter, if the opcode there is undefined. -/
def faultHere (core : PatternCore) : Option Fault :=
  let opcode := core.fetch core.registers.pc
  if opcode ∈ undefinedOpcodes then
    some ⟨"illegal opcode " ++ Text.Hex.byte opcode, some core.registers.pc⟩
  else none

/-- The registers after the opcode at the program counter. -/
def execute (core : PatternCore) : Registers :=
  let a := core.registers.a + core.fetch core.registers.pc
  { core.registers with
    a := a
    pc := core.nextPc
    flags := { core.registers.flags with zero := a == 0 } }

/-- Executes one instruction. -/
def step (core : PatternCore) : Logged (Option Fault × PatternCore) :=
  match core.faultHere with
  | some fault => pure (some fault, core)
  | none => do
    Logged.log (.executed (core.fetch core.registers.pc) core.registers.pc)
    pure (none, { core with registers := core.execute })

/-- Executes up to `n` instructions, stopping at the first fault. -/
def steps : Nat → PatternCore → Logged (Option Fault × PatternCore)
  | 0, core => pure (none, core)
  | n + 1, core => do
    match ← core.step with
    | (some fault, core) => pure (some fault, core)
    | (none, core) => steps n core

/-- The phase that the held buttons add. -/
def heldPhase (held : Vector Bool 8) : Nat :=
  (Button.all.filter fun button => held.get button.slot).foldl
    (fun phase button => phase + 8 * (button.index + 1)) 0

/-- The phase of the picture, a 32-bit number. -/
def phase (core : PatternCore) : UInt32 :=
  core.frames.toUInt32 + UInt32.ofNat (heldPhase core.held)

/-- Draws the picture for the frame count and the buttons held. -/
def redraw (core : PatternCore) : PatternCore :=
  let g := Geometry.standard
  { core with
    picture := (Checkerboard.write? core.picture g.width g.height core.phase).getD core.picture }

/-- Executes one frame. -/
def stepFrame (core : PatternCore) : Logged (Option Fault × PatternCore) := do
  match ← core.steps instructionsPerFrame with
  | (some fault, core) => pure (some fault, core)
  | (none, core) => pure (none, redraw { core with frames := core.frames + 1 })

/-- The core of a cartridge image that is large enough. -/
def boot (rom : Bytes) : PatternCore :=
  redraw ⟨rom, bootRegisters, Vector.replicate 8 false,
    Array.replicate Geometry.standard.frameSize 0, 0⟩

/-- Makes a core from a cartridge image. -/
def load (rom : Bytes) : Logged (Except CartridgeError PatternCore) :=
  if rom.size = 0 then pure (.error .empty)
  else if rom.size < minimumRom then pure (.error (.tooSmall rom.size minimumRom))
  else do
    Logged.log (.patternLoaded rom.size)
    pure (.ok (boot rom))

/-- Presses or releases a button. -/
def setButton (write : ButtonWrite) (core : PatternCore) : PatternCore :=
  { core with held := core.held.setIfInBounds write.button.index write.pressed }

/-- Whether a button is held. -/
def isHeld (core : PatternCore) (button : Button) : Bool := core.held.get button.slot

/-- The octets from the program counter on. -/
def window (size : Nat) (core : PatternCore) : Bytes :=
  Array.ofFn fun i : Fin size => core.fetch (core.registers.pc + UInt16.ofNat i)

instance : Core PatternCore where
  load := load
  geometry _ := .standard
  advance
    | .frame, core => core.stepFrame
    | .instruction, core => core.step
  framebuffer core := core.picture
  setButton := setButton
  registers core := (core.registers, core)
  window size core := (core.window size, core)
  windowBase core := core.registers.pc

end PatternCore

end HandheldHost
