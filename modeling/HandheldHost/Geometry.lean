/-!
# Display geometry
-/

namespace HandheldHost

/-- The visible area of a display, in pixels. -/
structure Geometry where
  width : UInt16
  height : UInt16
  deriving DecidableEq, Repr

namespace Geometry

/-- The screen of the handheld: 160 by 144 pixels. -/
def standard : Geometry := ⟨160, 144⟩

/-- The number of pixels in the area. -/
def pixels (g : Geometry) : Nat := g.width.toNat * g.height.toNat

/-- The number of octets that hold the area. -/
def frameSize (g : Geometry) : Nat := g.pixels * 4

theorem frameSize_eq (g : Geometry) : g.frameSize = 4 * (g.width.toNat * g.height.toNat) :=
  Nat.mul_comm _ _

/-- The geometry as logs show it. -/
def text (g : Geometry) : String :=
  "DisplayGeometry \x7b width: " ++ toString g.width.toNat ++ ", height: " ++
    toString g.height.toNat ++ " \x7d"

end Geometry

end HandheldHost
