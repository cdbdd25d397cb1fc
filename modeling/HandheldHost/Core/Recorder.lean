import HandheldHost.Core

/-!
# The recorder core

A core for testing hosts.  It executes nothing: it counts the calls made to
it, remembers every button write, and misbehaves on request.  Its picture is
one shade of grey, the number of advances completed, so an advance that
succeeds changes the picture and one that fails does not.

`BareCore` is the same core without a debug window address of its own.
-/

namespace HandheldHost

/-- A record of the calls made to a core, and how it is to misbehave.  The
call counts are 64-bit words and wrap. -/
structure RecorderCore where
  geometry : Geometry
  /-- The pixels; not necessarily as many as the geometry asks for. -/
  frame : Bytes
  frameCalls : UInt64 := 0
  instructionCalls : UInt64 := 0
  /-- Every button write, in order. -/
  writes : List ButtonWrite := []
  /-- Whether each button is held. -/
  held : Vector Bool 8 := Vector.replicate 8 false
  /-- The frame advance that faults, counted from one. -/
  faultOnFrame : Option UInt64 := none
  /-- Octets missing from every memory window. -/
  shortfall : Nat := 0
  /-- Octets too many in every memory window. -/
  excess : Nat := 0
  registerReads : UInt64 := 0
  windowReads : UInt64 := 0

namespace RecorderCore

/-- Advances completed: the calls so far less the one that faulted. -/
def completed (core : RecorderCore) : UInt64 :=
  let faulted :=
    match core.faultOnFrame with
    | some n => if n ≤ core.frameCalls then 1 else 0
    | none => 0
  core.frameCalls + core.instructionCalls - faulted

/-- Paints every whole pixel of the picture with the current shade. -/
def fill (core : RecorderCore) : RecorderCore :=
  let shade := Pixel.grey core.completed.toUInt8
  let pixels := core.frame.size / 4
  { core with
    frame := Raster.draw pixels 1 (fun _ _ => shade) ++
      core.frame.extract (4 * pixels) core.frame.size }

/-- A core with a display of the given geometry. -/
def ofGeometry (geometry : Geometry) : RecorderCore :=
  fill { geometry, frame := Array.replicate geometry.frameSize 0 }

/-- The octets resized: cut at the end, or filled up with zeros. -/
def resize (bytes : Bytes) (size : Nat) : Bytes :=
  bytes.extract 0 size ++ Array.replicate (size - bytes.size) 0

/-- Gives the core a picture of `size` octets, whatever its geometry. -/
def withFrameSize (core : RecorderCore) (size : Nat) : RecorderCore :=
  { core with frame := resize core.frame size }

/-- Makes a core from a cartridge image, any but an empty one. -/
def load (rom : Bytes) : Logged (Except CartridgeError RecorderCore) :=
  if rom.size = 0 then pure (.error .empty) else pure (.ok (ofGeometry .standard))

/-- The fault of the frame advance with the given number. -/
def frameFault (call : UInt64) : Fault :=
  ⟨"scripted fault on frame " ++ toString call.toNat, some call.toUInt16⟩

/-- Counts an advance and repaints the picture if it completes. -/
def advance : Stride → RecorderCore → Option Fault × RecorderCore
  | .frame, core =>
    let core := { core with frameCalls := core.frameCalls + 1 }
    if core.faultOnFrame = some core.frameCalls then (some (frameFault core.frameCalls), core)
    else (none, core.fill)
  | .instruction, core =>
    (none, fill { core with instructionCalls := core.instructionCalls + 1 })

/-- Records a button write. -/
def setButton (write : ButtonWrite) (core : RecorderCore) : RecorderCore :=
  { core with
    writes := core.writes ++ [write]
    held := core.held.setIfInBounds write.button.index write.pressed }

/-- Whether a button is held. -/
def isHeld (core : RecorderCore) (button : Button) : Bool := core.held.get button.slot

/-- The call counts as registers. -/
def registers (core : RecorderCore) : Registers × RecorderCore :=
  ({ pc := core.instructionCalls.toUInt16, a := core.frameCalls.toUInt8 },
    { core with registerReads := core.registerReads + 1 })

/-- A window of a fixed pattern, too long or too short as asked. -/
def window (size : Nat) (core : RecorderCore) : Bytes × RecorderCore :=
  (Array.ofFn fun i : Fin (size + core.excess - core.shortfall) => UInt8.ofNat i ^^^ 0xA5,
    { core with windowReads := core.windowReads + 1 })

instance : Core RecorderCore where
  load := load
  geometry core := core.geometry
  advance stride core := pure (core.advance stride)
  framebuffer core := core.frame
  setButton := setButton
  registers := registers
  window := window
  windowBase _ := 0xC000

end RecorderCore

/-- A recorder core that leaves the window address to the class. -/
structure BareCore where
  recorder : RecorderCore

namespace BareCore

instance : Core BareCore where
  load rom := do
    match ← RecorderCore.load rom with
    | .error e => pure (.error e)
    | .ok core => pure (.ok ⟨core⟩)
  geometry core := core.recorder.geometry
  advance stride core :=
    let (fault, recorder) := core.recorder.advance stride
    pure (fault, ⟨recorder⟩)
  framebuffer core := core.recorder.frame
  setButton write core := ⟨core.recorder.setButton write⟩
  registers core :=
    let (registers, recorder) := core.recorder.registers
    (registers, ⟨recorder⟩)
  window size core :=
    let (bytes, recorder) := core.recorder.window size
    (bytes, ⟨recorder⟩)

end BareCore

end HandheldHost
