/-!
# Processor registers as a debugger shows them

The condition flags live in the upper half of the F register; the lower
half always reads as zero.
-/

namespace HandheldHost

/-- The condition flags. -/
structure Flags where
  carry : Bool := false
  halfCarry : Bool := false
  subtract : Bool := false
  zero : Bool := false
  deriving DecidableEq, Repr

namespace Flags

instance : Inhabited Flags := ⟨{}⟩

/-- The flags held by an F register value. -/
def ofF (f : UInt8) : Flags where
  carry := f &&& 0x10 != 0
  halfCarry := f &&& 0x20 != 0
  subtract := f &&& 0x40 != 0
  zero := f &&& 0x80 != 0

/-- The F register value that holds the flags. -/
def toF (flags : Flags) : UInt8 :=
  flags.zero.toUInt8 <<< 7 ||| flags.subtract.toUInt8 <<< 6 |||
    flags.halfCarry.toUInt8 <<< 5 ||| flags.carry.toUInt8 <<< 4

end Flags

/-- The register file at one instant. -/
structure Registers where
  a : UInt8 := 0
  b : UInt8 := 0
  c : UInt8 := 0
  d : UInt8 := 0
  e : UInt8 := 0
  hl : UInt16 := 0
  pc : UInt16 := 0
  sp : UInt16 := 0
  flags : Flags := {}
  deriving DecidableEq, Repr

instance : Inhabited Registers := ⟨{}⟩

end HandheldHost
