import HandheldHost.Raster

/-!
# Portable pixmaps

The binary form of a portable pixmap: a short ASCII header and then three
octets per pixel, without opacity.  A picture can be enlarged by a whole
number; every pixel then covers a square of equal pixels.
-/

namespace HandheldHost.Pixmap

/-- The octets of a text in ASCII. -/
def ascii (text : String) : Bytes := (text.toList.map fun c => c.toNat.toUInt8).toArray

/-- The header of a pixmap of the given size with octet channels. -/
def header (width height : Nat) : String :=
  "P6\n" ++ toString width ++ " " ++ toString height ++ "\n255\n"

/-- The colour of pixel number `i` of a picture; what is not there in full
is black. -/
def colour (rgba : Bytes) (i : Nat) : UInt8 × UInt8 × UInt8 :=
  if h : 4 * i + 3 ≤ rgba.size then (rgba[4 * i], rgba[4 * i + 1], rgba[4 * i + 2])
  else (0, 0, 0)

/-- Writes one colour at the end of `out`. -/
def pushColour (out : Bytes) (c : UInt8 × UInt8 × UInt8) : Bytes :=
  ((out.push c.1).push c.2.1).push c.2.2

/-- Writes one colour `times` times at the end of `out`. -/
def pushColours (times : Nat) (c : UInt8 × UInt8 × UInt8) (out : Bytes) : Bytes :=
  times.fold (fun _ _ out => pushColour out c) out

/-- Row `y` of a picture with every pixel `scale` times. -/
def row (rgba : Bytes) (width scale y : Nat) : Bytes :=
  width.fold (fun x _ row => pushColours scale (colour rgba (y * width + x)) row) #[]

/-- The pixmap of a picture of four octets per pixel, enlarged `scale`
times; a scale of zero counts as one.  Every row is made once and written
`scale` times. -/
def encode (rgba : Bytes) (width height scale : Nat) : Bytes :=
  let s := max scale 1
  height.fold
    (fun y _ out =>
      let row := row rgba width s y
      s.fold (fun _ _ out => out ++ row) out)
    (ascii (header (width * s) (height * s)))

end HandheldHost.Pixmap
