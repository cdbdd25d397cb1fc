import HandheldHost.Frame
import HandheldHost.Proofs.Raster
import Mathlib.Algebra.Group.Nat.Defs

/-!
# Frames, row by row

The octets of a frame are counted once, when it is made.  Everything that is read from
it afterwards is a stretch that starts and ends at multiples of a row or of a pixel, and
the count says that these stretches are there.

* `Frame.ofBytes_eq_zeroDimension_iff`, `Frame.ofBytes_eq_wrongSize_iff`,
  `Frame.exists_ofBytes_iff` -- what the check says, and when.
* `Frame.slice?_eq_row?` -- a stretch that is asked for as a row is there if the display
  has such a row.
* `Frame.flatMap_row` -- rows that follow each other are one stretch.
* `Frame.extract_row` -- the octets of a pixel in its row.
* `Frame.ofBytes_partitions_into_rows` -- what is read from a checked frame.
-/

namespace HandheldHost

/-- The octets of any display can be counted in 64 bits. -/
theorem Geometry.frameSize_lt (g : Geometry) : g.frameSize < 2 ^ 64 := by
  have fewer : g.width.toNat * g.height.toNat ≤ (2 ^ 16 - 1) * (2 ^ 16 - 1) :=
    Nat.mul_le_mul (Nat.le_of_lt_succ g.width.toNat_lt) (Nat.le_of_lt_succ g.height.toNat_lt)
  rw [frameSize_eq]
  omega

namespace Frame

/-! ## The check -/

section

variable {bytes : Bytes} {g : Geometry}

/-- What a check lets pass it leaves as it is. -/
theorem of_ofBytes {frame : Frame} (h : ofBytes bytes g = .ok frame) :
    frame.bytes = bytes ∧ frame.geometry = g := by
  unfold ofBytes at h
  split at h
  · cases h
  · split at h
    · cases h
    · split at h
      · cases h
        exact ⟨rfl, rfl⟩
      · cases h

/-- An empty display is reported as such, whatever the number of octets. -/
theorem ofBytes_eq_zeroDimension_iff :
    ofBytes bytes g = .error .zeroDimension ↔ g.width.toNat = 0 ∨ g.height.toNat = 0 := by
  unfold ofBytes
  split
  next narrow => exact iff_of_true rfl (.inl narrow)
  next wide =>
    split
    next flat => exact iff_of_true rfl (.inr flat)
    next tall => split <;> exact iff_of_false nofun (not_or.mpr ⟨wide, tall⟩)

theorem exists_ofBytes_iff :
    (∃ frame, ofBytes bytes g = .ok frame) ↔
      g.width.toNat ≠ 0 ∧ g.height.toNat ≠ 0 ∧ bytes.size = g.frameSize := by
  constructor
  · rintro ⟨frame, passed⟩
    obtain ⟨rfl, rfl⟩ := of_ofBytes passed
    exact ⟨Nat.ne_of_gt frame.width_pos, Nat.ne_of_gt frame.height_pos, frame.size_eq⟩
  · rintro ⟨wide, tall, size⟩
    exact ⟨_, ofBytes_eq_ok (Nat.pos_of_ne_zero wide) (Nat.pos_of_ne_zero tall) size⟩

/-- A wrong number of octets is reported together with the right one. -/
theorem ofBytes_eq_wrongSize_iff :
    ofBytes bytes g = .error (.wrongSize g.frameSize bytes.size) ↔
      g.width.toNat ≠ 0 ∧ g.height.toNat ≠ 0 ∧ bytes.size ≠ g.frameSize := by
  unfold ofBytes
  split
  next narrow => exact iff_of_false nofun fun h => h.1 narrow
  next wide =>
    split
    next flat => exact iff_of_false nofun fun h => h.2.1 flat
    next tall =>
      split
      next size => exact iff_of_false nofun fun h => h.2.2 size
      next size => exact iff_of_true rfl ⟨wide, tall, size⟩

end

variable (frame : Frame)

/-! ## Rows -/

theorem size_eq_rows : frame.bytes.size = frame.height * (frame.width * 4) := by
  rw [frame.size_eq, Geometry.frameSize, Geometry.pixels, Nat.mul_comm frame.geometry.width.toNat,
    Nat.mul_assoc, height, width]

/-- A row ends in the octets of the frame if it is a row of the display. -/
theorem row_stop_le_iff (y : Nat) :
    (y + 1) * (frame.width * 4) ≤ frame.bytes.size ↔ y < frame.height := by
  rw [size_eq_rows]
  exact Nat.mul_le_mul_right_iff (Nat.mul_pos frame.width_pos (by decide))

/-- The rows of a frame lie in its octets. -/
theorem row_stop_le {y : Nat} (hy : y < frame.geometry.height.toNat) :
    (y + 1) * (frame.width * 4) ≤ frame.bytes.size :=
  (frame.row_stop_le_iff y).mpr hy

theorem size_row {y : Nat} (hy : y < frame.geometry.height.toNat) :
    (frame.row y).size = 4 * frame.geometry.width.toNat := by
  rw [Frame.row, Array.size_extract, Nat.min_eq_left (frame.row_stop_le hy), ← Nat.sub_mul,
    Nat.add_sub_cancel_left, Nat.one_mul, Nat.mul_comm, Frame.width]

/-- The octets of row `y` of a frame, which have to be there. -/
def slice? (y : Nat) : Option Bytes :=
  Raster.slice? frame.bytes (y * (frame.width * 4)) ((y + 1) * (frame.width * 4))

/-- The octets are there for the rows of the display and for no others. -/
theorem slice?_eq_row? (y : Nat) : frame.slice? y = frame.row? y := by
  have ordered : y * (frame.width * 4) ≤ (y + 1) * (frame.width * 4) :=
    Nat.mul_le_mul_right _ y.le_succ
  simp only [slice?, Raster.slice?, row?, row, ordered, true_and, frame.row_stop_le_iff]

theorem slice?_eq {y : Nat} (hy : y < frame.geometry.height.toNat) :
    frame.slice? y = some (frame.row y) :=
  (frame.slice?_eq_row? y).trans (if_pos hy)

/-- The same octets, with their bounds computed in 64 bits. -/
def sliceAt? (y : UInt64) : Option Bytes :=
  let stride := UInt64.ofNat frame.width * 4
  Raster.slice? frame.bytes (y * stride).toNat ((y + 1) * stride).toNat

/-- Bounds that do not exceed 64 bits are what they should be. -/
theorem sliceAt?_eq {y : UInt64} (representable : (y.toNat + 1) * (frame.width * 4) < 2 ^ 64) :
    frame.sliceAt? y = frame.row? y.toNat := by
  have wide : 0 < frame.width * 4 := Nat.mul_pos frame.width_pos (by decide)
  have narrow : frame.width < 2 ^ 16 := frame.geometry.width.toNat_lt
  have stride : (UInt64.ofNat frame.width * 4).toNat = frame.width * 4 := by
    have representable : frame.width < 2 ^ 64 := by omega
    rw [UInt64.toNat_mul, UInt64.toNat_ofNat', Nat.mod_eq_of_lt representable]
    exact Nat.mod_eq_of_lt (show frame.width * 4 < 2 ^ 64 by omega)
  have next : y.toNat + 1 < 2 ^ 64 :=
    Nat.lt_of_le_of_lt (Nat.le_mul_of_pos_right _ wide) representable
  have next_row : (y + 1).toNat = y.toNat + 1 := by
    rw [UInt64.toNat_add]
    exact Nat.mod_eq_of_lt next
  have start : (y * (UInt64.ofNat frame.width * 4)).toNat = y.toNat * (frame.width * 4) := by
    rw [UInt64.toNat_mul, stride, Nat.mod_eq_of_lt]
    exact Nat.lt_of_le_of_lt (Nat.mul_le_mul_right _ y.toNat.le_succ) representable
  have stop : ((y + 1) * (UInt64.ofNat frame.width * 4)).toNat =
      (y.toNat + 1) * (frame.width * 4) := by
    rw [UInt64.toNat_mul, stride, next_row, Nat.mod_eq_of_lt representable]
  rw [← slice?_eq_row?, sliceAt?, start, stop, slice?]

/-- The bounds of a row of the display never exceed 64 bits. -/
theorem row_stop_lt {y : Nat} (hy : y < frame.height) :
    (y + 1) * (frame.width * 4) < 2 ^ 64 := by
  have inside := (frame.row_stop_le_iff y).mpr hy
  rw [frame.size_eq] at inside
  exact Nat.lt_of_le_of_lt inside frame.geometry.frameSize_lt

/-- Rows that follow each other are one stretch. -/
theorem flatMap_row (n : Nat) :
    (Array.range n).flatMap frame.row = frame.bytes.extract 0 (n * (frame.width * 4)) := by
  induction n with
  | zero => simp
  | succ n ih =>
    have longer : n * (frame.width * 4) ≤ (n + 1) * (frame.width * 4) :=
      Nat.mul_le_mul_right _ n.le_succ
    rw [Array.range_succ, Array.flatMap_append, ih, Array.flatMap_singleton, row,
      Array.extract_append_extract, Nat.zero_min, Nat.max_eq_right longer]

/-- All rows of a frame are the frame. -/
theorem flatMap_row_height : (Array.range frame.height).flatMap frame.row = frame.bytes := by
  rw [flatMap_row, ← size_eq_rows, Array.extract_size]

/-! ## Pixels -/

/-- The octets of a pixel in its row. -/
theorem extract_row {x : Nat} (hx : x < frame.width) (y : Nat) :
    (frame.row y).extract (4 * x) (4 * x + 4) =
      frame.bytes.extract (4 * (y * frame.width + x)) (4 * (y * frame.width + x) + 4) := by
  have start : y * (frame.width * 4) + 4 * x = 4 * (y * frame.width + x) := by
    rw [← Nat.mul_assoc]
    omega
  have stop : y * (frame.width * 4) + (4 * x + 4) ≤ (y + 1) * (frame.width * 4) := by
    rw [Nat.add_one_mul y]
    omega
  rw [row, Array.extract_extract, Nat.min_eq_left stop, ← Nat.add_assoc, start]

theorem exists_pixel? {x y : Nat} (hx : x < frame.width) (hy : y < frame.height) :
    ∃ p : Pixel, frame.pixel? x y = some p ∧
      (frame.row y).extract (4 * x) (4 * x + 4) = p.toList.toArray := by
  have room : 4 * (y * frame.width + x) + 4 ≤ frame.bytes.size := by
    rw [frame.size_eq, Geometry.frameSize_eq]
    exact Raster.pixel_stop_le hx hy
  obtain ⟨p, there, octets⟩ := Raster.exists_pixel? room
  exact ⟨p, (if_pos ⟨hx, hy⟩).trans there, (frame.extract_row hx y).trans octets⟩

/-- **A checked frame is divided into its rows and pixels.**  Take any octets and any
geometry.  The number of octets that the display has is less than `2 ^ 64`.  A frame is
made if neither dimension is zero and the octets are as many; a zero dimension is reported
whatever their number, and otherwise a wrong number is reported together with the right
one.  A frame that has been made keeps octets and geometry.  Each row of the display is
there and has four octets for each column, the rows one after the other are the octets,
and pixel `(x, y)` is octets `4 * x` to `4 * x + 3` of row `y`.  There are no other pixels
and no other rows; bounds that are computed in 64 bits and checked against the octets say
the same, unless they exceed 64 bits, which they never do inside the display. -/
theorem ofBytes_partitions_into_rows (bytes : Bytes) (g : Geometry) :
    let w := g.width.toNat
    let h := g.height.toNat
    (g.frameSize = w * h * 4 ∧ w * h * 4 < 2 ^ 64) ∧
      ((∃ frame, ofBytes bytes g = .ok frame) ↔ w ≠ 0 ∧ h ≠ 0 ∧ bytes.size = w * h * 4) ∧
      (ofBytes bytes g = .error .zeroDimension ↔ w = 0 ∨ h = 0) ∧
      (ofBytes bytes g = .error (.wrongSize (w * h * 4) bytes.size) ↔
        w ≠ 0 ∧ h ≠ 0 ∧ bytes.size ≠ w * h * 4) ∧
      ∀ frame, ofBytes bytes g = .ok frame →
        (frame.bytes = bytes ∧ frame.geometry = g) ∧
        (∀ y, y < h → frame.row? y = some (frame.row y) ∧ (frame.row y).size = w * 4) ∧
        (∀ y, h ≤ y → frame.row? y = none) ∧
        (Array.range h).flatMap frame.row = bytes ∧
        (∀ x y, x < w → y < h → ∃ p : Pixel, frame.pixel? x y = some p ∧
          (frame.row y).extract (4 * x) (4 * x + 4) = p.toList.toArray) ∧
        (∀ x y, ¬ (x < w ∧ y < h) → frame.pixel? x y = none) ∧
        ∀ y : UInt64, y.toNat < h ∨ (y.toNat + 1) * w * 4 < 2 ^ 64 →
          frame.sliceAt? y = frame.row? y.toNat := by
  intro w h
  refine ⟨⟨rfl, g.frameSize_lt⟩, exists_ofBytes_iff, ofBytes_eq_zeroDimension_iff,
    ofBytes_eq_wrongSize_iff, ?_⟩
  intro frame passed
  obtain ⟨rfl, rfl⟩ := of_ofBytes passed
  refine ⟨⟨rfl, rfl⟩, ?_, ?_, frame.flatMap_row_height, ?_, ?_, ?_⟩
  · intro y hy
    exact ⟨if_pos hy, (frame.size_row hy).trans (Nat.mul_comm 4 w)⟩
  · intro y below
    exact if_neg (Nat.not_lt.mpr below)
  · intro x y hx hy
    exact frame.exists_pixel? hx hy
  · intro x y outside
    exact if_neg outside
  · rintro y (inside | representable)
    · exact frame.sliceAt?_eq (frame.row_stop_lt inside)
    · rw [Nat.mul_assoc] at representable
      exact frame.sliceAt?_eq representable

/-- Four columns and two rows: pixel `(1, 1)` is the sixth, and there is no third row. -/
theorem ofBytes_partitions_four_by_two :
    let bytes : Bytes := Array.ofFn fun i : Fin 32 => UInt8.ofNat i
    ∃ frame, ofBytes bytes ⟨4, 2⟩ = .ok frame ∧ frame.pixel? 1 1 = some ⟨20, 21, 22, 23⟩ ∧
      frame.pixel? 4 0 = none ∧ (frame.row 1).size = 16 ∧ frame.sliceAt? 2 = none ∧
      (Array.range 2).flatMap frame.row = bytes := by
  intro bytes
  obtain ⟨_, made, _, _, read⟩ := ofBytes_partitions_into_rows bytes ⟨4, 2⟩
  obtain ⟨frame, passed⟩ := made.mpr ⟨by decide, by decide, Array.size_ofFn⟩
  obtain ⟨⟨bytes_eq, geometry_eq⟩, rows, no_rows, whole, pixels, no_pixels, checked⟩ :=
    read frame passed
  obtain ⟨p, there, octets⟩ := pixels 1 1 (by decide) (by decide)
  have sixth : (frame.row 1).extract 4 8 = #[20, 21, 22, 23] := by
    rw [row, width, bytes_eq, geometry_eq]
    decide
  obtain ⟨red, green, blue, alpha⟩ := p
  obtain ⟨rfl, rfl, rfl, rfl⟩ : 20 = red ∧ 21 = green ∧ 22 = blue ∧ 23 = alpha := by
    simpa [Pixel.toList] using sixth.symm.trans octets
  refine ⟨frame, passed, there, no_pixels 4 0 (by decide), (rows 1 (by decide)).2, ?_, whole⟩
  rw [checked 2 (.inr (by decide))]
  exact no_rows 2 (by decide)

end Frame

end HandheldHost
