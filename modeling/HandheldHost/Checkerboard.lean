import HandheldHost.Raster

/-!
# The moving checkerboard

A test picture of eight-by-eight tiles in two shades of grey.  The phase
shifts it to the left, so a growing phase makes it move.
-/

namespace HandheldHost.Checkerboard

/-- The shade of the tile that covers column `x` of row `y`: a tile is dark
when the last bits of its two numbers are the same. -/
def shade (x y phase : Nat) : UInt8 :=
  if (((x + phase) >>> 3) ^^^ (y >>> 3)) &&& 1 = 0 then 0x20 else 0xE0

/-- The octets of the picture. -/
def picture (width height phase : Nat) : Bytes :=
  Raster.draw width height fun x y => .grey (shade x y phase)

/-- Writes the picture over the start of a buffer and leaves the rest as it
is.  A buffer too short for the picture is not written at all. -/
def write? (buffer : Bytes) (width height : UInt16) (phase : UInt32) : Option Bytes :=
  let needed := width.toNat * height.toNat * 4
  if buffer.size < needed then none
  else some (picture width.toNat height.toNat phase.toNat ++
    buffer.extract needed buffer.size)

end HandheldHost.Checkerboard
