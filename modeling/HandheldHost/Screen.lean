import HandheldHost.Raster

/-!
# The screen

A screen keeps the last canvas presented to it, as given, and counts how
often that has happened, with 64 bits.
-/

namespace HandheldHost

/-- The last presented canvas and the number of presentations. -/
structure Screen where
  pixels : Bytes := #[]
  width : Nat := 0
  height : Nat := 0
  presents : UInt64 := 0
  deriving DecidableEq

namespace Screen

instance : Inhabited Screen := ⟨{}⟩

/-- Shows a canvas. -/
def present (screen : Screen) (canvas : Bytes) (width height : Nat) : Screen :=
  ⟨canvas, width, height, screen.presents + 1⟩

/-- The pixel in column `x` of row `y` of the last canvas. -/
def pixel? (screen : Screen) (x y : Nat) : Option Pixel :=
  if x < screen.width ∧ y < screen.height then
    Raster.pixel? screen.pixels (4 * (y * screen.width + x))
  else none

end Screen

end HandheldHost
