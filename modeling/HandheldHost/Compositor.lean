import HandheldHost.Frame
import HandheldHost.Journal
import HandheldHost.Screen

/-!
# Composing the canvas

What a screen shows is a canvas: the display framed by a border of one
colour.  The compositor keeps its canvas from one repaint to the next.  The
rows of a new frame are copied into the inside of the border, one stretch of
octets for each, and the border is painted anew pixel by pixel; before the
first frame the inside is black.  A frame of another geometry is never
copied.
-/

namespace HandheldHost

/-- The decoration around a display. -/
structure Border where
  color : Pixel := ⟨0xCC, 0xCC, 0xCC, 0xFF⟩
  thickness : Nat := 1
  deriving DecidableEq, Repr

instance : Inhabited Border := ⟨{}⟩

/-- A display and the border around it: where on the canvas each of them
lies. -/
structure Layout where
  geometry : Geometry
  border : Border
  deriving DecidableEq, Repr

namespace Layout

/-- Columns of the canvas. -/
def canvasWidth (l : Layout) : Nat := l.geometry.width.toNat + 2 * l.border.thickness

/-- Rows of the canvas. -/
def canvasHeight (l : Layout) : Nat := l.geometry.height.toNat + 2 * l.border.thickness

/-- The octets of a canvas in reading order, four for each pixel. -/
abbrev Canvas (l : Layout) : Type := Vector UInt8 (4 * (l.canvasWidth * l.canvasHeight))

/-- Whether a canvas coordinate lies on the border. -/
def onBorder (l : Layout) (x y : Nat) : Bool :=
  let t := l.border.thickness
  x < t || y < t || t + l.geometry.width.toNat ≤ x || t + l.geometry.height.toNat ≤ y

/-- Where on the canvas row `y` of the display starts. -/
def rowStart (l : Layout) (y : Nat) : Nat :=
  4 * ((y + l.border.thickness) * l.canvasWidth + l.border.thickness)

/-- Copies the rows of a display into the inside of the border. -/
def copyRows (l : Layout) (row : Nat → Bytes) (canvas : l.Canvas) : l.Canvas :=
  l.geometry.height.toNat.fold
    (fun y _ canvas => Raster.splice canvas (l.rowStart y) (row y)) canvas

/-- Paints the border where row `y` of the canvas meets it. -/
def paintRow (l : Layout) (y : Nat) (canvas : l.Canvas) : l.Canvas :=
  l.canvasWidth.fold
    (fun x _ canvas =>
      if l.onBorder x y then
        Raster.splice canvas (4 * (y * l.canvasWidth + x)) l.border.color.toList.toArray
      else canvas)
    canvas

/-- Paints the border. -/
def paintBorder (l : Layout) (canvas : l.Canvas) : l.Canvas :=
  l.canvasHeight.fold (fun y _ canvas => l.paintRow y canvas) canvas

/-- The canvas before the first frame: the border around a black display. -/
def blank (l : Layout) : l.Canvas :=
  let black := Raster.draw l.geometry.width.toNat 1 fun _ _ => .black
  l.copyRows (fun _ => black) (l.paintBorder (Vector.replicate _ 0))

end Layout

/-- A display of fixed geometry with its border, and the canvas composed
last. -/
structure Compositor extends Layout where
  retained : toLayout.Canvas := toLayout.blank

namespace Compositor

/-- The octets of the canvas. -/
def canvas (c : Compositor) : Bytes := c.retained.toArray

/-- Copies a frame of its own geometry into the canvas; any other frame
leaves the inside of the border as it is.  The border is painted anew in
both cases. -/
def accept (c : Compositor) (frame : Frame) : Logged Compositor :=
  if frame.geometry = c.geometry then
    pure { c with retained := c.paintBorder (c.copyRows frame.row c.retained) }
  else do
    Logged.log (.geometryDiffers frame.geometry c.geometry)
    pure { c with retained := c.paintBorder c.retained }

/-- Shows the canvas on a screen. -/
def present (c : Compositor) (screen : Screen) : Screen :=
  screen.present c.canvas c.canvasWidth c.canvasHeight

end Compositor

end HandheldHost
