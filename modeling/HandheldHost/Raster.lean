/-!
# Pixels and row-major rasters

A picture is described by the pixel at every coordinate; its octets are
those pixels in reading order, four octets each (red, green, blue, alpha).
`Raster.draw` writes a description out, `Raster.splice` overwrites a stretch
of octets in place, `Raster.pixel?` reads one pixel back from any octet
string.
-/

namespace HandheldHost

/-- A string of octets. -/
abbrev Bytes := Array UInt8

/-- One pixel: three colour channels and an opacity. -/
structure Pixel where
  red : UInt8
  green : UInt8
  blue : UInt8
  alpha : UInt8
  deriving DecidableEq, Repr

namespace Pixel

/-- The opaque grey of the given brightness. -/
def grey (level : UInt8) : Pixel := ⟨level, level, level, 0xFF⟩

/-- Opaque black. -/
def black : Pixel := grey 0

/-- The octets of a pixel, in order. -/
def toList (p : Pixel) : List UInt8 := [p.red, p.green, p.blue, p.alpha]

end Pixel

namespace Raster

/-- Writes one pixel at the end of `out`. -/
def push (out : Bytes) (p : Pixel) : Bytes :=
  (((out.push p.red).push p.green).push p.blue).push p.alpha

/-- Writes a row of `width` pixels at the end of `out`. -/
def pushRow (width : Nat) (pixel : Nat → Pixel) (out : Bytes) : Bytes :=
  width.fold (fun x _ out => push out (pixel x)) out

/-- The octets of the `width` by `height` picture with the given pixels. -/
def draw (width height : Nat) (pixel : Nat → Nat → Pixel) : Bytes :=
  height.fold (fun y _ out => pushRow width (fun x => pixel x y) out) #[]

/-- Overwrites the octets from `start` on with `part`; what would lie beyond
the end is left out. -/
def splice (octets : Vector UInt8 n) (start : Nat) (part : Bytes) : Vector UInt8 n :=
  part.size.fold (fun i _ octets => octets.setIfInBounds (start + i) part[i]) octets

/-- The pixel whose four octets start at `offset`, if all four are there. -/
def pixel? (bytes : Bytes) (offset : Nat) : Option Pixel :=
  if h : offset + 4 ≤ bytes.size then
    some ⟨bytes[offset], bytes[offset + 1], bytes[offset + 2], bytes[offset + 3]⟩
  else
    none

end Raster

end HandheldHost
