import HandheldHost.Proofs.Compositor
import HandheldHost.Proofs.Player.Run

/-!
# What the screen shows

The screen shows the border around a picture.  The picture of a run is
described by what the ticks have found and not by the canvas: it is the
framebuffer of the last tick that had a frame of the right geometry
(`Sight.picture`).

* `Compositor.Carries` -- the invariant: the retained canvas is the border
  around the picture.  `Compositor.Carries.accept` carries it over a frame.
* `Player.screen_shows_last_frame` -- what the screen shows after any run.
-/

namespace HandheldHost

/-! ## Pictures of a display -/

/-- The octets of row `y` of a picture of the display. -/
def Geometry.row (g : Geometry) (picture : Bytes) (y : Nat) : Bytes :=
  picture.extract (4 * (y * g.width.toNat)) (4 * (y * g.width.toNat) + 4 * g.width.toNat)

/-- The display in opaque black. -/
def Geometry.black (g : Geometry) : Bytes :=
  Raster.draw g.width.toNat g.height.toNat fun _ _ => .black

/-- The screen shows the border around a picture of the display: a canvas of
the right size, the border in its colour, and between the borders of every
row the octets of that row of the picture. -/
structure Screen.Shows (screen : Screen) (g : Geometry) (border : Border) (picture : Bytes) :
    Prop where
  width_eq : screen.width = g.width.toNat + 2 * border.thickness
  height_eq : screen.height = g.height.toNat + 2 * border.thickness
  size_eq : screen.pixels.size = 4 * (screen.width * screen.height)
  border_eq : ∀ x y, x < screen.width → y < screen.height →
    (x < border.thickness ∨ y < border.thickness ∨ border.thickness + g.width.toNat ≤ x ∨
      border.thickness + g.height.toNat ≤ y) →
    screen.pixel? x y = some border.color
  inside_eq : ∀ y, y < g.height.toNat →
    let start := 4 * ((y + border.thickness) * screen.width + border.thickness)
    screen.pixels.extract start (start + 4 * g.width.toNat) =
      picture.extract (4 * (y * g.width.toNat)) (4 * (y * g.width.toNat) + 4 * g.width.toNat)

namespace Geometry

theorem size_row (g : Geometry) {picture : Bytes}
    (whole : picture.size = 4 * (g.width.toNat * g.height.toNat)) {y : Nat}
    (hy : y < g.height.toNat) : (g.row picture y).size = 4 * g.width.toNat := by
  have : 4 * (y * g.width.toNat) + 4 * g.width.toNat ≤ picture.size := by
    rw [whole, ← Nat.mul_add, ← Nat.succ_mul, Nat.mul_comm g.width.toNat]
    exact Nat.mul_le_mul_left 4 (Nat.mul_le_mul_right _ hy)
  rw [row, Array.size_extract, Nat.min_eq_left this, Nat.add_sub_cancel_left]

/-- A row of a picture reads as the picture does there. -/
theorem getElem?_row {g : Geometry} {picture : Bytes}
    (whole : picture.size = 4 * (g.width.toNat * g.height.toNat)) {r c : Nat}
    (hr : r < g.height.toNat) (hc : c < 4 * g.width.toNat) :
    (g.row picture r)[c]? = picture[4 * (r * g.width.toNat) + c]? := by
  have place := Raster.place_lt hr hc
  rw [row, Array.getElem?_extract, if_pos]
  omega

theorem size_black (g : Geometry) : g.black.size = 4 * (g.width.toNat * g.height.toNat) :=
  (Raster.getElem?_draw _ _ _).1

/-- Every row of the black display is a row of black pixels. -/
theorem row_black (l : Layout) {y : Nat} (hy : y < l.geometry.height.toNat) :
    l.geometry.row l.geometry.black y = l.blackRow := by
  obtain ⟨size, drawn⟩ := Raster.getElem?_draw l.geometry.width.toNat l.geometry.height.toNat
    fun _ _ => Pixel.black
  obtain ⟨_, drawn_row⟩ := Raster.getElem?_draw l.geometry.width.toNat 1 fun _ _ => Pixel.black
  apply Array.ext_getElem?
  intro c
  rcases Nat.lt_or_ge c (4 * l.geometry.width.toNat) with hc | hc
  · have place := Raster.place_lt hy hc
    have row_zero := drawn_row 0 c Nat.zero_lt_one hc
    rw [Nat.zero_mul, Nat.mul_zero, Nat.zero_add] at row_zero
    rw [row, Array.getElem?_extract, if_pos (by rw [size_black]; omega), black, drawn y c hy hc,
      Layout.blackRow, row_zero]
  · have short := l.geometry.size_row l.geometry.size_black hy
    have short' := l.size_blackRow
    rw [Array.getElem?_eq_none (by omega), Array.getElem?_eq_none (by omega)]

end Geometry

namespace Frame

/-- A row of a frame is that row of its octets. -/
theorem row_eq (frame : Frame) (y : Nat) : frame.row y = frame.geometry.row frame.bytes y := by
  have start : y * (frame.width * 4) = 4 * (y * frame.geometry.width.toNat) := by
    rw [← Nat.mul_assoc, Nat.mul_comm _ 4, width]
  have stop : (y + 1) * (frame.width * 4) =
      4 * (y * frame.geometry.width.toNat) + 4 * frame.geometry.width.toNat := by
    rw [Nat.succ_mul, start, Nat.mul_comm _ 4, width]
  rw [row, start, stop, Geometry.row]

end Frame

/-! ## The retained canvas -/

namespace Compositor

/-- The compositor carries a picture of the display: its canvas is the
border around that picture. -/
structure Carries (c : Compositor) (g : Geometry) (border : Border) (picture : Bytes) : Prop where
  layout_eq : c.toLayout = ⟨g, border⟩
  whole : picture.size = 4 * (g.width.toNat * g.height.toNat)
  holds : c.Holds (g.row picture) c.retained

variable {c : Compositor} {g : Geometry} {border : Border} {picture : Bytes}

/-- A new compositor carries the black display. -/
theorem carries_new (g : Geometry) (border : Border) :
    Carries { geometry := g, border } g border g.black := by
  refine ⟨rfl, g.size_black, (Layout.holds_blank ⟨g, border⟩).congr ?_⟩
  intro y hy
  exact (Geometry.row_black ⟨g, border⟩ hy).symm

/-- A frame of the right geometry becomes the picture, and any other frame
leaves the picture as it is. -/
theorem Carries.accept (h : Carries c g border picture) (frame : Frame) :
    Carries (c.accept frame).value g border
      (if frame.geometry = g then frame.bytes else picture) := by
  have same_geometry : c.geometry = g := congrArg Layout.geometry h.layout_eq
  by_cases same : frame.geometry = g
  · rw [if_pos same]
    refine ⟨(layout_accept c frame).trans h.layout_eq, ?_, ?_⟩
    · rw [frame.size_eq, same, Geometry.frameSize_eq]
    · have rows : g.row frame.bytes = frame.row := by
        funext y
        rw [frame.row_eq, same]
      rw [rows]
      exact holds_accept (same.trans same_geometry.symm)
  · rw [if_neg same]
    have other : frame.geometry ≠ c.geometry := by
      rw [same_geometry]
      exact same
    exact ⟨(layout_accept c frame).trans h.layout_eq, h.whole, holds_accept_of_ne other h.holds⟩

/-- A screen that a carried picture is presented to shows it. -/
theorem Carries.shows (h : Carries c g border picture) (screen : Screen) :
    (c.present screen).Shows g border picture := by
  obtain rfl : c.geometry = g := congrArg Layout.geometry h.layout_eq
  obtain rfl : c.border = border := congrArg Layout.border h.layout_eq
  refine ⟨rfl, rfl, Layout.size_toArray c.retained, ?_, ?_⟩
  · intro x y hx hy edge
    have onBorder : c.onBorder x y := by
      simp only [Layout.onBorder, Bool.or_eq_true, decide_eq_true_eq]
      omega
    rw [Screen.pixel?, if_pos ⟨hx, hy⟩]
    exact h.holds.pixel?_border hx hy onBorder
  · intro y hy
    exact h.holds.extract_row hy (c.geometry.size_row h.whole hy)

end Compositor

/-! ## Pictures of a run -/

namespace Sight

variable {γ : Type} [Core γ]

/-- Whether there is a frame of the given geometry. -/
def hasFrameOf (g : Geometry) (s : Sight γ) : Bool :=
  match s.frame with
  | .ok frame => frame.geometry = g
  | .error _ => false

/-- The picture of a run for a display: the framebuffer of the last tick that
had a frame of its geometry, and black while there was none. -/
def picture (g : Geometry) (sights : List (Sight γ)) : Bytes :=
  match sights.reverse.find? (hasFrameOf g) with
  | some s => Core.framebuffer s.core
  | none => g.black

theorem picture_append (g : Geometry) (sights : List (Sight γ)) (s : Sight γ) :
    picture g (sights ++ [s]) =
      if s.hasFrameOf g then Core.framebuffer s.core else picture g sights := by
  rw [picture, List.reverse_append, List.reverse_singleton, List.singleton_append,
    List.find?_cons]
  cases s.hasFrameOf g <;> rfl

end Sight

namespace Player

variable {γ δ : Type} [Core γ]

/-- A tick carries the picture of the run on. -/
theorem carries_nextCompositor {player : Player γ δ} {g : Geometry} {border : Border}
    {sights : List (Sight γ)}
    (h : player.compositor.Carries g border (Sight.picture g sights)) :
    player.nextCompositor.Carries g border (Sight.picture g (sights ++ [player.sight])) := by
  rw [Sight.picture_append, nextCompositor, Sight.hasFrameOf]
  cases fetched : player.sight.frame with
  | error defect => exact h
  | ok frame =>
    have bytes_eq : frame.bytes = Core.framebuffer player.sight.core :=
      (Frame.of_ofBytes fetched).1
    simpa only [bytes_eq, decide_eq_true_eq] using h.accept frame

/-- A request presents nothing. -/
theorem screen_request (player : Player γ δ) (r : Request) :
    (player.request r).value.screen = player.screen := by
  rw [value_request]

variable [FaultSink δ]

theorem carries_after (core : γ) (screen : Screen) (sink : δ) (config : PlayerConfig)
    (actions : List Action) :
    ((start core screen sink config).after actions).compositor.Carries (Core.geometry core)
      config.border
      (Sight.picture (Core.geometry core) ((start core screen sink config).sights actions)) := by
  refine run_induction (motive := fun _ q sights => q.compositor.Carries (Core.geometry core)
    config.border (Sight.picture (Core.geometry core) sights)) _ ?_ ?_ ?_ actions
  · exact Compositor.carries_new _ _
  · intro _ q sights r ih
    rw [value_request]
    exact ih
  · intro _ q sights now ih
    exact carries_nextCompositor ih

/-- A tick presents once. -/
theorem presents_after (player : Player γ δ) (actions : List Action) :
    (player.after actions).screen.presents =
      player.screen.presents + UInt64.ofNat (actions.countP Action.isTick) := by
  refine run_induction (motive := fun actions q _ => q.screen.presents =
    player.screen.presents + UInt64.ofNat (actions.countP Action.isTick)) _ ?_ ?_ ?_ actions
  · exact (UInt64.add_zero _).symm
  · intro actions q _ r ih
    rw [screen_request, ih, List.countP_append]
    rfl
  · intro actions q _ now ih
    rw [List.countP_append, UInt64.ofNat_add, ← UInt64.add_assoc, ← ih]
    rfl

/-- Once it has ticked, a player shows what its compositor composed last. -/
theorem screen_after (player : Player γ δ) (actions : List Action) :
    0 < actions.countP Action.isTick → ∃ screen,
      (player.after actions).screen = (player.after actions).compositor.present screen := by
  refine run_induction (motive := fun actions q _ => 0 < actions.countP Action.isTick →
    ∃ screen, q.screen = q.compositor.present screen) _ ?_ ?_ ?_ actions
  · intro ticked
    exact absurd ticked (Nat.lt_irrefl 0)
  · intro actions q _ r ih ticked
    rw [List.countP_append] at ticked
    rw [value_request]
    exact ih ticked
  · intro actions q _ now _ _
    exact ⟨q.screen, rfl⟩

/-- **The screen shows the last good frame.**  On every run of a player over
any core, from a fresh screen: every tick presents once, counted with 64 bits,
and a request never; and after the first tick the screen shows the border
around the framebuffer that the core had after the advance of the last tick
with a frame of the starting geometry, or around a black display while no tick
had one. -/
theorem screen_shows_last_frame (core : γ) (sink : δ) (config : PlayerConfig)
    (actions : List Action) :
    let first := start core {} sink config
    let player := first.after actions
    let geometry := Core.geometry core
    player.screen.presents = UInt64.ofNat (actions.countP Action.isTick) ∧
      (∀ r, (player.request r).value.screen = player.screen) ∧
      (0 < actions.countP Action.isTick →
        player.screen.Shows geometry config.border
          (Sight.picture geometry (first.sights actions))) := by
  intro first player geometry
  have carries : player.compositor.Carries geometry config.border
      (Sight.picture geometry (first.sights actions)) :=
    carries_after core {} sink config actions
  refine ⟨?_, screen_request player, ?_⟩
  · exact (presents_after first actions).trans (UInt64.zero_add _)
  · intro ticked
    obtain ⟨screen, shown⟩ := screen_after first actions ticked
    rw [show player.screen = player.compositor.present screen from shown]
    exact carries.shows screen

end Player

end HandheldHost
