import HandheldHost.Geometry
import HandheldHost.Raster

/-!
# Checked frames

A frame is an octet string together with the evidence that it holds exactly
the pixels of a display that is not empty.  `Frame.ofBytes` is the one
check; after it every row and every pixel inside the display can be read.
-/

namespace HandheldHost

/-- Why an octet string is no frame of a display. -/
inductive FrameDefect where
  /-- The display has no rows or no columns. -/
  | zeroDimension
  /-- There are too few or too many octets. -/
  | wrongSize (expected actual : Nat)
  deriving DecidableEq, Repr

/-- The wording of a defect. -/
def FrameDefect.message : FrameDefect → String
  | .zeroDimension => "display geometry has a zero dimension"
  | .wrongSize expected actual =>
    "framebuffer length mismatch (expected " ++ toString expected ++ " bytes, got " ++
      toString actual ++ ")"

/-- The pixels of one display, checked to fit its geometry. -/
structure Frame where
  geometry : Geometry
  bytes : Bytes
  width_pos : 0 < geometry.width.toNat
  height_pos : 0 < geometry.height.toNat
  size_eq : bytes.size = geometry.frameSize

namespace Frame

/-- Checks an octet string against a geometry.  An empty display is refused
before the size is looked at. -/
def ofBytes (bytes : Bytes) (geometry : Geometry) : Except FrameDefect Frame :=
  if hw : geometry.width.toNat = 0 then .error .zeroDimension
  else if hh : geometry.height.toNat = 0 then .error .zeroDimension
  else if hs : bytes.size = geometry.frameSize then
    .ok ⟨geometry, bytes, Nat.pos_of_ne_zero hw, Nat.pos_of_ne_zero hh, hs⟩
  else .error (.wrongSize geometry.frameSize bytes.size)

/-- Octets of the right number are a frame of a display that is not empty. -/
theorem ofBytes_eq_ok {bytes : Bytes} {g : Geometry} (wide : 0 < g.width.toNat)
    (tall : 0 < g.height.toNat) (size : bytes.size = g.frameSize) :
    ofBytes bytes g = .ok ⟨g, bytes, wide, tall, size⟩ := by
  rw [ofBytes, dif_neg (Nat.ne_of_gt wide), dif_neg (Nat.ne_of_gt tall), dif_pos size]

/-- Columns of the display. -/
def width (f : Frame) : Nat := f.geometry.width.toNat

/-- Rows of the display. -/
def height (f : Frame) : Nat := f.geometry.height.toNat

/-- The octets of row `y` as far as they are there. -/
def row (f : Frame) (y : Nat) : Bytes :=
  f.bytes.extract (y * (f.width * 4)) ((y + 1) * (f.width * 4))

/-- The octets of row `y` of the display. -/
def row? (f : Frame) (y : Nat) : Option Bytes :=
  if y < f.height then some (f.row y) else none

/-- The pixel in column `x` of row `y`. -/
def pixel? (f : Frame) (x y : Nat) : Option Pixel :=
  if x < f.width ∧ y < f.height then Raster.pixel? f.bytes (4 * (y * f.width + x)) else none

end Frame

end HandheldHost
