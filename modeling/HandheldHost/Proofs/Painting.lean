import HandheldHost.Proofs.Player.Picture

/-!
# Painting, call by call

A compositor is given frames to render, and is asked now and then to present what it
has.  All its writes go to one string of octets: stretches for the rows of a frame, and
four octets for each pixel of the border.

* `Layout.copyRows?`, `Layout.paintBorder?` -- the same loops with every stretch checked
  against the canvas before it is written; `Layout.copyRows?_eq` and
  `Layout.paintBorder?_eq`: no check ever fails.
* `Compositor.run?` -- a new compositor and a fresh screen after a list of calls.
* `Compositor.Carries.pixel?_inside` -- the pixels of the display, on the canvas.
* `Compositor.paints_border_and_frame` -- every pixel of the canvas after any calls.
-/

namespace HandheldHost

/-! ## Checked writes -/

namespace Layout

variable (l : Layout)

/-- Copies rows with every stretch checked. -/
def copyRows? (row? : Nat → Option Bytes) (canvas : l.Canvas) : Option l.Canvas :=
  l.geometry.height.toNat.fold
    (fun y _ acc => acc.bind fun canvas => (row? y).bind fun row =>
      Raster.splice? canvas (l.rowStart y) (4 * l.geometry.width.toNat) row) (some canvas)

/-- Paints a row of the border with every pixel checked. -/
def paintRow? (y : Nat) (canvas : l.Canvas) : Option l.Canvas :=
  l.canvasWidth.fold
    (fun x _ acc => acc.bind fun canvas =>
      if l.onBorder x y then
        Raster.splice? canvas (4 * (y * l.canvasWidth + x)) 4 l.border.color.toList.toArray
      else some canvas) (some canvas)

/-- Paints the border with every pixel checked. -/
def paintBorder? (canvas : l.Canvas) : Option l.Canvas :=
  l.canvasHeight.fold (fun y _ acc => acc.bind (l.paintRow? y)) (some canvas)

/-- The stretch that row `y` of the display is copied to lies on the canvas. -/
theorem rowStart_add_le {y : Nat} (hy : y < l.geometry.height.toNat) :
    l.rowStart y + 4 * l.geometry.width.toNat ≤ 4 * (l.canvasWidth * l.canvasHeight) := by
  have tall : y + l.border.thickness < l.canvasHeight := by
    simp only [canvasHeight]
    omega
  have wide : 4 * l.border.thickness + 4 * l.geometry.width.toNat ≤ 4 * l.canvasWidth := by
    simp only [canvasWidth]
    omega
  rw [rowStart_eq]
  exact Raster.stretch_le tall wide

theorem paintBorder?_eq (canvas : l.Canvas) :
    l.paintBorder? canvas = some (l.paintBorder canvas) := by
  refine fold_bind_eq_some (fun y hy canvas => ?_) canvas
  refine fold_bind_eq_some (fun x hx canvas => ?_) canvas
  split
  · exact Raster.splice?_eq (Raster.pixel_stop_le hx hy) rfl
  · rfl

theorem copyRows?_eq {row? : Nat → Option Bytes} {row : Nat → Bytes}
    (found : ∀ y, y < l.geometry.height.toNat →
      row? y = some (row y) ∧ (row y).size = 4 * l.geometry.width.toNat) (canvas : l.Canvas) :
    l.copyRows? row? canvas = some (l.copyRows row canvas) := by
  refine fold_bind_eq_some (fun y hy canvas => ?_) canvas
  rw [(found y hy).1]
  exact Raster.splice?_eq (l.rowStart_add_le hy) (found y hy).2

end Layout

namespace Compositor

/-! ## Calls -/

/-- A new compositor with every write checked. -/
def create? (geometry : Geometry) (border : Border) : Option Compositor := do
  let l : Layout := ⟨geometry, border⟩
  let framed ← l.paintBorder? (Vector.replicate _ 0)
  let retained ← l.copyRows? (fun _ => some l.blackRow) framed
  pure { geometry, border, retained }

/-- Accepts a frame with every write checked, and every row of the frame. -/
def accept? (c : Compositor) (frame : Frame) : Option Compositor := do
  let copied ← if frame.geometry = c.geometry then c.copyRows? frame.slice? c.retained
    else some c.retained
  let retained ← c.paintBorder? copied
  pure { c with retained }

/-- Something that a compositor is asked for. -/
inductive Call where
  /-- To show a frame. -/
  | render (frame : Frame)
  /-- To show again what it has. -/
  | present

/-- The frame that a call brings. -/
def Call.frame? : Call → Option Frame
  | render frame => some frame
  | present => none

/-- The compositor and the screen after a call. -/
def call : Compositor × Screen → Call → Compositor × Screen
  | (c, screen), .render frame =>
    let c := (c.accept frame).value
    (c, c.present screen)
  | (c, screen), .present => (c, c.present screen)

/-- The same with every write checked. -/
def call? : Compositor × Screen → Call → Option (Compositor × Screen)
  | (c, screen), .render frame => do
    let c ← c.accept? frame
    pure (c, c.present screen)
  | (c, screen), .present => some (c, c.present screen)

/-- A new compositor and a fresh screen after some calls. -/
def run (geometry : Geometry) (border : Border) (calls : List Call) : Compositor × Screen :=
  calls.foldl call ({ geometry, border }, {})

/-- The same with every write checked. -/
def run? (geometry : Geometry) (border : Border) (calls : List Call) :
    Option (Compositor × Screen) := do
  let c ← create? geometry border
  calls.foldlM call? (c, {})

theorem create?_eq (geometry : Geometry) (border : Border) :
    create? geometry border = some { geometry, border } := by
  let l : Layout := ⟨geometry, border⟩
  have copied (canvas : l.Canvas) : l.copyRows? (fun _ => some l.blackRow) canvas =
      some (l.copyRows (fun _ => l.blackRow) canvas) :=
    l.copyRows?_eq (fun _ _ => ⟨rfl, l.size_blackRow⟩) canvas
  show (l.paintBorder? _).bind (fun framed => (l.copyRows? _ framed).bind _) = _
  rw [l.paintBorder?_eq, Option.bind_some, copied]
  rfl

theorem accept?_eq (c : Compositor) (frame : Frame) :
    c.accept? frame = some (c.accept frame).value := by
  rw [value_accept, accept?]
  by_cases same : frame.geometry = c.geometry
  · have rows : ∀ y, y < c.geometry.height.toNat →
        frame.slice? y = some (frame.row y) ∧ (frame.row y).size = 4 * c.geometry.width.toNat := by
      rw [← same]
      exact fun y hy => ⟨frame.slice?_eq hy, frame.size_row hy⟩
    rw [if_pos same, if_pos same, c.copyRows?_eq rows]
    show (c.paintBorder? _).bind _ = _
    rw [c.paintBorder?_eq]
    rfl
  · rw [if_neg same, if_neg same]
    show (c.paintBorder? _).bind _ = _
    rw [c.paintBorder?_eq]
    rfl

theorem call?_eq (state : Compositor × Screen) (request : Call) :
    call? state request = some (call state request) := by
  cases request with
  | render frame => rw [call?, accept?_eq]; rfl
  | present => rfl

/-- **No check fails.** -/
theorem run?_eq (geometry : Geometry) (border : Border) (calls : List Call) :
    run? geometry border calls = some (run geometry border calls) := by
  rw [run?, create?_eq]
  show calls.foldlM call? _ = some (calls.foldl call _)
  generalize (({ geometry, border }, {}) : Compositor × Screen) = state
  induction calls generalizing state with
  | nil => rfl
  | cons request calls ih =>
    rw [List.foldlM_cons, call?_eq]
    exact ih _

/-! ## What is shown -/

/-- The last frame of the given geometry that was rendered. -/
def shown? (g : Geometry) (calls : List Call) : Option Frame :=
  (calls.filterMap Call.frame?).reverse.find? fun frame => frame.geometry = g

/-- What the canvas has inside the border: the last such frame, and black before the first. -/
def picture (g : Geometry) (calls : List Call) : Bytes :=
  match shown? g calls with
  | some frame => frame.bytes
  | none => g.black

theorem picture_append_render (g : Geometry) (calls : List Call) (frame : Frame) :
    picture g (calls ++ [.render frame]) =
      if frame.geometry = g then frame.bytes else picture g calls := by
  have last : shown? g (calls ++ [.render frame]) =
      if frame.geometry = g then some frame else shown? g calls := by
    rw [shown?, List.filterMap_append, List.reverse_append]
    show ([frame] ++ (calls.filterMap Call.frame?).reverse).find? _ = _
    rw [List.singleton_append, List.find?_cons]
    by_cases same : frame.geometry = g <;> simp [same, shown?]
  rw [picture, last]
  by_cases same : frame.geometry = g
  · rw [if_pos same, if_pos same]
  · rw [if_neg same, if_neg same, picture]

theorem picture_append_present (g : Geometry) (calls : List Call) :
    picture g (calls ++ [.present]) = picture g calls := by
  have brings : (calls ++ [Call.present]).filterMap Call.frame? = calls.filterMap Call.frame? := by
    rw [List.filterMap_append]
    exact List.append_nil _
  rw [picture, picture, shown?, shown?, brings]

theorem run_append_singleton (g : Geometry) (border : Border) (calls : List Call)
    (request : Call) : run g border (calls ++ [request]) = call (run g border calls) request :=
  List.foldl_append

theorem carries_run (g : Geometry) (border : Border) (calls : List Call) :
    (run g border calls).1.Carries g border (picture g calls) := by
  induction calls using List.reverseRecOn with
  | nil => exact carries_new g border
  | append_singleton calls request ih =>
    rw [run_append_singleton]
    cases request with
    | render frame =>
      rw [picture_append_render]
      exact ih.accept frame
    | present =>
      rw [picture_append_present]
      exact ih

/-- Each call presents the canvas that it leaves. -/
theorem screen_run (g : Geometry) (border : Border) (calls : List Call) :
    (run g border calls).2.presents = UInt64.ofNat calls.length ∧
      (calls ≠ [] → ∃ screen, (run g border calls).2 = (run g border calls).1.present screen) := by
  induction calls using List.reverseRecOn with
  | nil => exact ⟨rfl, fun none => absurd rfl none⟩
  | append_singleton calls request ih =>
    rw [run_append_singleton, List.length_append, List.length_singleton, UInt64.ofNat_add, ← ih.1]
    cases request with
    | render frame => exact ⟨rfl, fun _ => ⟨_, rfl⟩⟩
    | present => exact ⟨rfl, fun _ => ⟨_, rfl⟩⟩

/-- Inside the border a canvas has the pixels of the picture. -/
theorem Carries.pixel?_inside {c : Compositor} {g : Geometry} {border : Border} {picture : Bytes}
    (h : c.Carries g border picture) {x y : Nat} (hx : x < g.width.toNat)
    (hy : y < g.height.toNat) :
    Raster.pixel? c.canvas
        (4 * ((y + border.thickness) * c.canvasWidth + (x + border.thickness))) =
      Raster.pixel? picture (4 * (y * g.width.toNat + x)) := by
  obtain rfl : c.geometry = g := congrArg Layout.geometry h.layout_eq
  obtain rfl : c.border = border := congrArg Layout.border h.layout_eq
  refine Raster.pixel?_congr fun k hk => ?_
  have tall : y + c.border.thickness < c.canvasHeight := by
    simp only [Layout.canvasHeight]
    omega
  have wide : 4 * (x + c.border.thickness) + k < 4 * c.canvasWidth := by
    simp only [Layout.canvasWidth]
    omega
  have inside : ¬c.onBorder ((4 * (x + c.border.thickness) + k) / 4) (y + c.border.thickness) := by
    rw [Bool.not_eq_true, c.onBorder_eq_false_iff]
    omega
  have column : 4 * (x + c.border.thickness) + k - 4 * c.border.thickness = 4 * x + k := by omega
  rw [canvas, Vector.getElem?_toArray, Nat.mul_add, Nat.add_assoc, h.holds _ _ tall wide,
    if_neg inside, Nat.add_sub_cancel, column, Geometry.getElem?_row h.whole hy (by omega),
    Nat.mul_add, Nat.add_assoc]

/-- Every pixel of the picture is that of the last frame, or black. -/
theorem exists_pixel?_picture (g : Geometry) (calls : List Call) {x y : Nat}
    (hx : x < g.width.toNat) (hy : y < g.height.toNat) :
    ∃ p, Raster.pixel? (picture g calls) (4 * (y * g.width.toNat + x)) = some p ∧
      match shown? g calls with
      | some frame => frame.pixel? x y = some p
      | none => p = .black := by
  unfold picture
  cases last : shown? g calls with
  | none => exact ⟨.black, Raster.pixel?_draw hx hy _, rfl⟩
  | some frame =>
    have own : decide (frame.geometry = g) = true :=
      List.find?_some (p := fun frame : Frame => decide (frame.geometry = g)) last
    obtain rfl : frame.geometry = g := of_decide_eq_true own
    obtain ⟨p, read, -⟩ := frame.exists_pixel? hx hy
    have inside : frame.pixel? x y = _ := if_pos ⟨hx, hy⟩
    exact ⟨p, inside.symm.trans read, read⟩

/-- A canvas that carries the picture, pixel by pixel. -/
theorem Carries.exists_pixel? {c : Compositor} {g : Geometry} {border : Border}
    {calls : List Call} (h : c.Carries g border (picture g calls)) {x y : Nat}
    (hx : x < g.width.toNat + 2 * border.thickness)
    (hy : y < g.height.toNat + 2 * border.thickness) :
    ∃ p, Raster.pixel? c.canvas (4 * (y * (g.width.toNat + 2 * border.thickness) + x)) = some p ∧
      if x < border.thickness ∨ y < border.thickness ∨ g.width.toNat + border.thickness ≤ x ∨
          g.height.toNat + border.thickness ≤ y then
        p = border.color
      else
        match shown? g calls with
        | some frame => frame.pixel? (x - border.thickness) (y - border.thickness) = some p
        | none => p = .black := by
  obtain rfl : c.geometry = g := congrArg Layout.geometry h.layout_eq
  obtain rfl : c.border = border := congrArg Layout.border h.layout_eq
  by_cases edge : x < c.border.thickness ∨ y < c.border.thickness ∨
      c.geometry.width.toNat + c.border.thickness ≤ x ∨
        c.geometry.height.toNat + c.border.thickness ≤ y
  · have onBorder : c.onBorder x y := by
      simp only [Layout.onBorder, Bool.or_eq_true, decide_eq_true_eq]
      omega
    exact ⟨_, h.holds.pixel?_border hx hy onBorder, by rw [if_pos edge]⟩
  · obtain ⟨p, drawn, last⟩ := exists_pixel?_picture c.geometry calls
      (show x - c.border.thickness < c.geometry.width.toNat by omega)
      (show y - c.border.thickness < c.geometry.height.toNat by omega)
    have same := h.pixel?_inside (show x - c.border.thickness < c.geometry.width.toNat by omega)
      (show y - c.border.thickness < c.geometry.height.toNat by omega)
    rw [Nat.sub_add_cancel (by omega), Nat.sub_add_cancel (by omega), drawn] at same
    exact ⟨p, same, by rw [if_neg edge]; exact last⟩

/-- **A canvas is the border around the last frame.**  Take a new compositor for any display
and any border, also an empty one, and a fresh screen, and let it render frames of any
geometry and present what it has, in any order.  With every stretch that is read or written
checked against what it is a part of, the calls give what they give unchecked, so none lies
outside; where the canvas has fewer than 2 ^ 64 octets, no offset needs more bits.  After the
calls the canvas has its size, and each of its pixels is the colour of the border within its
thickness of an edge, and elsewhere the pixel of the last frame that was rendered of the
display's own geometry, or opaque black if none was.  The screen has counted the calls with
64 bits, and after the first it holds this canvas: it gives the pixels of the canvas and no
others. -/
theorem paints_border_and_frame (g : Geometry) (border : Border) (calls : List Call) :
    let t := border.thickness
    let width := g.width.toNat + 2 * t
    let height := g.height.toNat + 2 * t
    let canvas := (run g border calls).1.canvas
    let screen := (run g border calls).2
    run? g border calls = some (run g border calls) ∧
      canvas.size = 4 * (width * height) ∧
      (∀ x y, x < width → y < height → ∃ p, Raster.pixel? canvas (4 * (y * width + x)) = some p ∧
        if x < t ∨ y < t ∨ g.width.toNat + t ≤ x ∨ g.height.toNat + t ≤ y then p = border.color
        else
          match shown? g calls with
          | some frame => frame.pixel? (x - t) (y - t) = some p
          | none => p = .black) ∧
      screen.presents = UInt64.ofNat calls.length ∧
        (calls ≠ [] → (screen.pixels = canvas ∧ screen.width = width ∧ screen.height = height) ∧
          ∀ x y, screen.pixel? x y =
            if x < width ∧ y < height then Raster.pixel? canvas (4 * (y * width + x))
            else none) := by
  intro t width height canvas screen
  have carries := carries_run g border calls
  obtain ⟨presents, presented⟩ := screen_run g border calls
  have layout_eq := carries.layout_eq
  refine ⟨run?_eq g border calls, ?_, fun x y => carries.exists_pixel?, presents, ?_⟩
  · show (run g border calls).1.retained.toArray.size = _
    rw [Layout.size_toArray, layout_eq]
    rfl
  · intro called
    obtain ⟨old, shown⟩ := presented called
    have held : screen = ⟨canvas, width, height, old.presents + 1⟩ := by
      rw [show screen = _ from shown, present, Screen.present, layout_eq]
      rfl
    rw [held]
    exact ⟨⟨rfl, rfl, rfl⟩, fun _ _ => rfl⟩

end Compositor

end HandheldHost
