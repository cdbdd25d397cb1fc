import HandheldHost.Counter
import HandheldHost.Fault
import HandheldHost.Raster
import HandheldHost.Registers

/-!
# The debug view

What a debugger shows of a host and its core: registers and a memory window
from the last refresh, the counters, and the wording of the last fault.  It
is a value of its own, so it can be kept and printed after the core has
moved on.
-/

namespace HandheldHost

/-- What the host has counted. -/
structure Counters where
  /-- Ticks planned. -/
  ticks : Counter := .zero
  /-- Frame advances completed. -/
  frames : Counter := .zero
  /-- Instruction advances completed. -/
  instructions : Counter := .zero
  /-- Faults reported. -/
  faults : Counter := .zero
  deriving DecidableEq

instance : Inhabited Counters := ⟨{}⟩

/-- A stretch of memory. -/
structure MemoryWindow where
  base : UInt16 := 0
  bytes : Bytes := #[]
  deriving DecidableEq

instance : Inhabited MemoryWindow := ⟨{}⟩

/-- The debug view of a host and its core. -/
structure Inspection where
  registers : Registers := {}
  window : MemoryWindow := {}
  counters : Counters := {}
  fault : Option String := none
  deriving DecidableEq

namespace Inspection

instance : Inhabited Inspection := ⟨{}⟩

/-- Shows other registers. -/
def showRegisters (view : Inspection) (registers : Registers) : Inspection :=
  { view with registers }

/-- Shows another stretch of memory. -/
def showWindow (view : Inspection) (base : UInt16) (bytes : Bytes) : Inspection :=
  { view with window := ⟨base, bytes⟩ }

/-- Shows a fault. -/
def showFault (view : Inspection) (fault : Fault) : Inspection :=
  { view with fault := some fault.text }

/-- Shows other counters. -/
def showCounters (view : Inspection) (counters : Counters) : Inspection :=
  { view with counters }

end Inspection

end HandheldHost
