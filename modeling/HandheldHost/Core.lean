import HandheldHost.Frame
import HandheldHost.Journal
import HandheldHost.Registers

/-!
# Emulation cores

A host sees a core through the operations of the class `Core` only: it
advances the core, tells it about buttons, reads its pixels, and reads
registers and memory for debugging.  Every operation that may change a core
returns the core it leaves behind, a failed advance and a debug read
included.
-/

namespace HandheldHost

/-- What a host needs from an emulation core. -/
class Core (γ : Type) where
  /-- Makes a core from a cartridge image. -/
  load : Bytes → Logged (Except CartridgeError γ)
  /-- The display whose pixels `framebuffer` holds. -/
  geometry : γ → Geometry
  /-- Advances by one stride; a fault ends the advance early. -/
  advance : Stride → γ → Logged (Option Fault × γ)
  /-- The current pixels, four octets each. -/
  framebuffer : γ → Bytes
  /-- Presses or releases a button; repeating a write is allowed. -/
  setButton : ButtonWrite → γ → γ
  /-- Reads the register file. -/
  registers : γ → Registers × γ
  /-- Reads memory octets from `windowBase` on; a core may return more or
  fewer than it was asked for. -/
  window : Nat → γ → Bytes × γ
  /-- The address of the first octet that `window` returns. -/
  windowBase : γ → UInt16 := fun _ => 0

namespace Core

/-- The current framebuffer as a checked frame. -/
def frame [Core γ] (core : γ) : Except FrameDefect Frame :=
  Frame.ofBytes (framebuffer core) (geometry core)

end Core

end HandheldHost
