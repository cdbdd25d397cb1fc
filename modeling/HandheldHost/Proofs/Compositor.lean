import HandheldHost.Compositor
import HandheldHost.Proofs.Frame

/-!
# What a canvas holds

`Layout.Holds row canvas` says of every octet of a canvas where it comes
from: the border has its colour, and the inside holds the rows `row 0`,
`row 1`, … of a display.

* `Layout.holds_copyRows` -- copying rows and painting the border gives such
  a canvas, whatever was there before.
* `Layout.Holds.paintBorder` -- painting the border again keeps it.
* `Layout.Holds.pixel?_border`, `Layout.Holds.extract_row` -- how the border
  and the rows are read back.

The copied stretches and the painted pixels write the same octets of one
string, so each loop is described octet by octet first, and the description
says which places it leaves alone.
-/

namespace HandheldHost

namespace Layout

variable (l : Layout)

/-! ## Border and inside -/

/-- An octet of the canvas is off the border exactly when it lies in the
display. -/
theorem onBorder_eq_false_iff (r c : Nat) :
    l.onBorder (c / 4) r = false ↔
      (l.border.thickness ≤ r ∧ r < l.border.thickness + l.geometry.height.toNat) ∧
        4 * l.border.thickness ≤ c ∧
          c < 4 * l.border.thickness + 4 * l.geometry.width.toNat := by
  simp only [onBorder, Bool.or_eq_false_iff, decide_eq_false_iff_not]
  omega

/-- Row `y` of the display lies in one row of the canvas. -/
theorem rowStart_eq (y : Nat) :
    l.rowStart y = 4 * ((y + l.border.thickness) * l.canvasWidth) + 4 * l.border.thickness := by
  rw [rowStart, Nat.mul_add]

/-- Copied rows show in the display and nowhere else. -/
theorem getElem?_copyRows (row : Nat → Bytes)
    (hrow : ∀ y, y < l.geometry.height.toNat → (row y).size = 4 * l.geometry.width.toNat)
    (canvas : l.Canvas) {r c : Nat} (hr : r < l.canvasHeight) (hc : c < 4 * l.canvasWidth) :
    (l.copyRows row canvas)[4 * (r * l.canvasWidth) + c]? =
      if l.onBorder (c / 4) r then canvas[4 * (r * l.canvasWidth) + c]?
      else (row (r - l.border.thickness))[c - 4 * l.border.thickness]? := by
  have copied := fold_invariant
    (fun m (v : l.Canvas) => v[4 * (r * l.canvasWidth) + c]? =
      if l.onBorder (c / 4) r = false ∧ r < l.border.thickness + m then
        (row (r - l.border.thickness))[c - 4 * l.border.thickness]?
      else canvas[4 * (r * l.canvasWidth) + c]?)
    (n := l.geometry.height.toNat) (a := canvas)
    (fun y _ v => Raster.splice v (l.rowStart y) (row y)) ?_ ?_
  · rw [copyRows, copied]
    cases hb : l.onBorder (c / 4) r
    · have := (l.onBorder_eq_false_iff r c).mp hb
      simp [this.1.2]
    · simp
  · rw [if_neg]
    rw [l.onBorder_eq_false_iff r c]
    omega
  · intro y hy v hv
    have wide : 4 * l.border.thickness + 4 * l.geometry.width.toNat ≤ 4 * l.canvasWidth := by
      simp only [canvasWidth]
      omega
    rw [Raster.getElem?_splice _ _ _ (Raster.place_lt hr hc), hv, hrow y hy, rowStart_eq]
    simp only [Raster.mem_stretch_iff hc wide, l.onBorder_eq_false_iff r c]
    by_cases here : r = y + l.border.thickness ∧ 4 * l.border.thickness ≤ c ∧
        c < 4 * l.border.thickness + 4 * l.geometry.width.toNat
    · obtain ⟨rfl, h₁, h₂⟩ := here
      rw [if_pos ⟨rfl, h₁, h₂⟩, if_pos (by omega), Nat.add_sub_cancel, Nat.add_sub_add_left]
    · rw [if_neg here]
      by_cases before : ((l.border.thickness ≤ r ∧
          r < l.border.thickness + l.geometry.height.toNat) ∧
          4 * l.border.thickness ≤ c ∧
          c < 4 * l.border.thickness + 4 * l.geometry.width.toNat) ∧
          r < l.border.thickness + y
      · rw [if_pos before, if_pos (by omega)]
      · rw [if_neg before, if_neg (by omega)]

/-- Painting a row of the border shows on the border in that row and
nowhere else. -/
theorem getElem?_paintRow (y : Nat) (canvas : l.Canvas) {r c : Nat} (hr : r < l.canvasHeight)
    (hc : c < 4 * l.canvasWidth) :
    (l.paintRow y canvas)[4 * (r * l.canvasWidth) + c]? =
      if r = y ∧ l.onBorder (c / 4) r then l.border.color.toList[c % 4]?
      else canvas[4 * (r * l.canvasWidth) + c]? := by
  have painted := fold_invariant
    (fun m (v : l.Canvas) => v[4 * (r * l.canvasWidth) + c]? =
      if c < 4 * m ∧ r = y ∧ l.onBorder (c / 4) r then l.border.color.toList[c % 4]?
      else canvas[4 * (r * l.canvasWidth) + c]?)
    (n := l.canvasWidth) (a := canvas)
    (fun x _ v =>
      if l.onBorder x y then
        Raster.splice v (4 * (y * l.canvasWidth + x)) l.border.color.toList.toArray
      else v) ?_ ?_
  · rw [paintRow, painted]
    simp [hc]
  · rw [if_neg (by omega)]
  · intro x hx v hv
    by_cases hb : l.onBorder x y
    · rw [if_pos hb, Raster.getElem?_splice _ _ _ (Raster.place_lt hr hc), hv, Nat.mul_add]
      simp only [List.size_toArray, show l.border.color.toList.length = 4 from rfl,
        Raster.mem_stretch_iff hc (show 4 * x + 4 ≤ 4 * l.canvasWidth by omega)]
      by_cases here : r = y ∧ 4 * x ≤ c ∧ c < 4 * x + 4
      · obtain ⟨rfl, h₁, h₂⟩ := here
        have hcx : c / 4 = x := by omega
        rw [if_pos ⟨rfl, h₁, h₂⟩, if_pos ⟨by omega, rfl, by rw [hcx]; exact hb⟩,
          List.getElem?_toArray]
        congr 1
        omega
      · rw [if_neg here]
        have : (c < 4 * x ∧ r = y) ↔ (c < 4 * (x + 1) ∧ r = y) := by omega
        simp only [← and_assoc, this]
    · rw [if_neg hb, hv]
      by_cases here : r = y ∧ c / 4 = x
      · obtain ⟨rfl, rfl⟩ := here
        simp [hb]
      · have : (c < 4 * x ∧ r = y) ↔ (c < 4 * (x + 1) ∧ r = y) := by omega
        simp only [← and_assoc, this]

/-- Painting the border shows on the border and nowhere else. -/
theorem getElem?_paintBorder (canvas : l.Canvas) {r c : Nat} (hr : r < l.canvasHeight)
    (hc : c < 4 * l.canvasWidth) :
    (l.paintBorder canvas)[4 * (r * l.canvasWidth) + c]? =
      if l.onBorder (c / 4) r then l.border.color.toList[c % 4]?
      else canvas[4 * (r * l.canvasWidth) + c]? := by
  have painted := fold_invariant
    (fun m (v : l.Canvas) => v[4 * (r * l.canvasWidth) + c]? =
      if r < m ∧ l.onBorder (c / 4) r then l.border.color.toList[c % 4]?
      else canvas[4 * (r * l.canvasWidth) + c]?)
    (n := l.canvasHeight) (a := canvas) (fun y _ v => l.paintRow y v) ?_ ?_
  · rw [paintBorder, painted]
    simp [hr]
  · rw [if_neg (by omega)]
  · intro y hy v hv
    rw [l.getElem?_paintRow y v hr hc, hv]
    by_cases hb : l.onBorder (c / 4) r
    · simp only [hb, and_true]
      by_cases here : r = y
      · rw [if_pos here, if_pos (by omega)]
      · rw [if_neg here]
        have : r < y ↔ r < y + 1 := by omega
        simp only [this]
    · simp [hb]

/-! ## Composed canvases -/

/-- The canvas is the border around a display with the given rows. -/
def Holds (row : Nat → Bytes) (canvas : l.Canvas) : Prop :=
  ∀ r c, r < l.canvasHeight → c < 4 * l.canvasWidth →
    canvas[4 * (r * l.canvasWidth) + c]? =
      if l.onBorder (c / 4) r then l.border.color.toList[c % 4]?
      else (row (r - l.border.thickness))[c - 4 * l.border.thickness]?

variable {l}

/-- Copying rows and painting the border composes a canvas out of any
octets. -/
theorem holds_copyRows {row : Nat → Bytes}
    (hrow : ∀ y, y < l.geometry.height.toNat → (row y).size = 4 * l.geometry.width.toNat)
    (canvas : l.Canvas) : l.Holds row (l.paintBorder (l.copyRows row canvas)) := by
  intro r c hr hc
  rw [l.getElem?_paintBorder _ hr hc, l.getElem?_copyRows row hrow canvas hr hc]
  by_cases hb : l.onBorder (c / 4) r <;> simp [hb]

/-- Painting the border of a composed canvas again changes nothing. -/
theorem Holds.paintBorder {row : Nat → Bytes} {canvas : l.Canvas} (h : l.Holds row canvas) :
    l.Holds row (l.paintBorder canvas) := by
  intro r c hr hc
  rw [l.getElem?_paintBorder _ hr hc, h r c hr hc]
  by_cases hb : l.onBorder (c / 4) r <;> simp [hb]

/-- Only the rows of the display matter. -/
theorem Holds.congr {row row' : Nat → Bytes} {canvas : l.Canvas} (h : l.Holds row canvas)
    (same : ∀ y, y < l.geometry.height.toNat → row y = row' y) : l.Holds row' canvas := by
  intro r c hr hc
  rw [h r c hr hc]
  cases hb : l.onBorder (c / 4) r
  · have inside := (l.onBorder_eq_false_iff r c).mp hb
    rw [same (r - l.border.thickness) (by omega)]
  · rfl

/-- A row of black pixels. -/
def blackRow (l : Layout) : Bytes := Raster.draw l.geometry.width.toNat 1 fun _ _ => .black

theorem size_blackRow (l : Layout) : l.blackRow.size = 4 * l.geometry.width.toNat := by
  rw [blackRow, (Raster.getElem?_draw _ _ _).1, Nat.mul_one]

/-- Before the first frame the display is black. -/
theorem holds_blank (l : Layout) : l.Holds (fun _ => l.blackRow) l.blank := by
  intro r c hr hc
  rw [blank, ← blackRow, l.getElem?_copyRows _ (fun _ _ => l.size_blackRow) _ hr hc,
    l.getElem?_paintBorder _ hr hc]
  by_cases hb : l.onBorder (c / 4) r <;> simp [hb]

/-! ## Equal canvases -/

/-- A canvas is known by its octets, row by row. -/
theorem canvas_ext {a b : l.Canvas}
    (h : ∀ r c, r < l.canvasHeight → c < 4 * l.canvasWidth →
      a[4 * (r * l.canvasWidth) + c]? = b[4 * (r * l.canvasWidth) + c]?) : a = b := by
  apply Vector.ext
  intro i hi
  obtain ⟨r, c, hr, hc, place⟩ := Raster.exists_place hi
  have same := h r c hr hc
  rw [place, Vector.getElem?_eq_getElem hi, Vector.getElem?_eq_getElem hi] at same
  exact Option.some.inj same

/-- A canvas is known by the rows that it holds. -/
theorem Holds.unique {row : Nat → Bytes} {a b : l.Canvas} (ha : l.Holds row a)
    (hb : l.Holds row b) : a = b := by
  apply canvas_ext
  intro r c hr hc
  rw [ha r c hr hc, hb r c hr hc]

theorem paintBorder_paintBorder (canvas : l.Canvas) :
    l.paintBorder (l.paintBorder canvas) = l.paintBorder canvas := by
  apply canvas_ext
  intro r c hr hc
  rw [l.getElem?_paintBorder _ hr hc, l.getElem?_paintBorder _ hr hc]
  by_cases hb : l.onBorder (c / 4) r <;> simp [hb]

/-! ## Reading a composed canvas -/

theorem size_toArray (canvas : l.Canvas) :
    canvas.toArray.size = 4 * (l.canvasWidth * l.canvasHeight) := canvas.size_toArray

/-- Every pixel of the border has its colour. -/
theorem Holds.pixel?_border {row : Nat → Bytes} {canvas : l.Canvas} (h : l.Holds row canvas)
    {x y : Nat} (hx : x < l.canvasWidth) (hy : y < l.canvasHeight) (hb : l.onBorder x y) :
    Raster.pixel? canvas.toArray (4 * (y * l.canvasWidth + x)) = some l.border.color := by
  rw [Raster.pixel?_eq_some_iff]
  intro k hk
  have hx' : (4 * x + k) / 4 = x := by omega
  have hk' : (4 * x + k) % 4 = k := by omega
  rw [Vector.getElem?_toArray, Nat.mul_add, Nat.add_assoc, h y (4 * x + k) hy (by omega), hx',
    if_pos hb, hk']

/-- Row `y` of the display stands on the canvas as it is. -/
theorem Holds.extract_row {row : Nat → Bytes} {canvas : l.Canvas} (h : l.Holds row canvas)
    {y : Nat} (hy : y < l.geometry.height.toNat)
    (hrow : (row y).size = 4 * l.geometry.width.toNat) :
    canvas.toArray.extract (l.rowStart y) (l.rowStart y + 4 * l.geometry.width.toNat) = row y := by
  have tall : y + l.border.thickness < l.canvasHeight := by
    simp only [canvasHeight]
    omega
  apply Array.ext_getElem?
  intro i
  rw [Array.getElem?_extract, l.rowStart_eq]
  by_cases hi : i < 4 * l.geometry.width.toNat
  · have hc : 4 * l.border.thickness + i < 4 * l.canvasWidth := by
      simp only [canvasWidth]
      omega
    have place := Raster.place_lt tall hc
    rw [if_pos (by rw [size_toArray]; omega), Vector.getElem?_toArray, Nat.add_assoc,
      h _ _ tall hc, if_neg, Nat.add_sub_cancel, Nat.add_sub_cancel_left]
    rw [Bool.not_eq_true, l.onBorder_eq_false_iff]
    omega
  · rw [if_neg (by omega), Array.getElem?_eq_none (by omega)]

end Layout

/-! ## Frames on the canvas -/

namespace Compositor

@[simp] theorem layout_accept (c : Compositor) (frame : Frame) :
    (c.accept frame).value.toLayout = c.toLayout := by
  unfold accept
  split <;> rfl

/-- A frame of the compositor's own geometry is on the canvas once it has
been accepted. -/
theorem holds_accept {c : Compositor} {frame : Frame} (same : frame.geometry = c.geometry) :
    (c.accept frame).value.Holds frame.row (c.accept frame).value.retained := by
  have rows : ∀ y, y < c.geometry.height.toNat →
      (frame.row y).size = 4 * c.geometry.width.toNat := by
    rw [← same]
    exact fun y hy => frame.size_row hy
  unfold accept
  rw [if_pos same]
  exact Layout.holds_copyRows rows _

/-- A frame of another geometry leaves a composed canvas composed as it
was. -/
theorem holds_accept_of_ne {c : Compositor} {frame : Frame} {row : Nat → Bytes}
    (other : frame.geometry ≠ c.geometry) (h : c.Holds row c.retained) :
    (c.accept frame).value.Holds row (c.accept frame).value.retained := by
  unfold accept
  rw [if_neg other]
  exact h.paintBorder

theorem value_accept (c : Compositor) (frame : Frame) :
    (c.accept frame).value =
      { c with
        retained :=
          if frame.geometry = c.geometry then c.paintBorder (c.copyRows frame.row c.retained)
          else c.paintBorder c.retained } := by
  unfold accept
  split <;> rfl

/-- A frame that has just been accepted changes nothing when it comes again. -/
theorem accept_accept (c : Compositor) (frame : Frame) :
    ((c.accept frame).value.accept frame).value = (c.accept frame).value := by
  rw [value_accept c, value_accept]
  by_cases same : frame.geometry = c.geometry
  · have rows : ∀ y, y < c.geometry.height.toNat →
        (frame.row y).size = 4 * c.geometry.width.toNat := by
      rw [← same]
      exact fun y hy => frame.size_row hy
    have again := (Layout.holds_copyRows rows
        (c.paintBorder (c.copyRows frame.row c.retained))).unique
      (Layout.holds_copyRows rows c.retained)
    simp only [if_pos same, again]
  · simp only [if_neg same, Layout.paintBorder_paintBorder]

end Compositor

end HandheldHost
