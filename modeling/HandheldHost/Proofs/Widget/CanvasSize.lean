import HandheldHost.Proofs.Widget.Turns

/-!
# The size of the canvas

A canvas is sized when it is bound, to the screen as it is at that moment.
A session that has not ticked yet has shown nothing, and its screen has no
size; so a canvas bound to it stays empty, though what is drawn to it later
has the size of the composed canvas.

* `Page.canvasSize` -- what a canvas was last sized to.
* `Widget.Settled.canvasSize_turn` -- what one turn does to it.
* `Widget.canvas_sized_to_screen` -- every run of turns from an opened page.
* `Widget.canvas_without_size` -- a run on which the canvas has no size.
-/

namespace HandheldHost

/-- The width that a call gives a canvas. -/
def PageCall.width? (canvas : String) : PageCall → Option UInt32
  | .width id columns => if id = canvas then some columns else none
  | _ => none

/-- The height that a call gives a canvas. -/
def PageCall.height? (canvas : String) : PageCall → Option UInt32
  | .height id rows => if id = canvas then some rows else none
  | _ => none

/-- The width and the height that a canvas was last given. -/
def Page.canvasSize (page : Page) (canvas : String) : Option UInt32 × Option UInt32 :=
  ((page.canvasCalls.filterMap (PageCall.width? canvas)).getLast?,
    (page.canvasCalls.filterMap (PageCall.height? canvas)).getLast?)

theorem Page.canvasSize_of_sized {before page : Page} {id : String} {columns rows : UInt32}
    (calls : page.canvasCalls = before.canvasCalls ++ [.width id columns, .height id rows])
    (canvas : String) :
    page.canvasSize canvas =
      if canvas = id then (some columns, some rows) else before.canvasSize canvas := by
  rw [canvasSize, calls, List.filterMap_append, List.filterMap_append]
  by_cases same : canvas = id
  · simp [PageCall.width?, PageCall.height?, List.filterMap_cons, same]
  · simp [PageCall.width?, PageCall.height?, List.filterMap_cons, same, Ne.symm same, canvasSize]

theorem Page.canvasSize_of_drawn {before page : Page} {id : String} {columns rows : UInt32}
    {bytes : Bytes}
    (calls : page.canvasCalls = before.canvasCalls ++ [.image columns rows, .put id bytes])
    (canvas : String) : page.canvasSize canvas = before.canvasSize canvas := by
  rw [canvasSize, calls, List.filterMap_append, List.filterMap_append]
  exact congrArg₂ Prod.mk (congrArg _ (List.append_nil _)) (congrArg _ (List.append_nil _))

/-- Every image drawn has the size of the composed canvas. -/
def Page.Drawn (page : Page) : Prop :=
  ∀ columns rows, .image columns rows ∈ page.canvasCalls → columns = 162 ∧ rows = 146

namespace Widget

variable {w : Widget}

/-- A canvas that is bound takes the size of the screen: that of the composed
canvas if the session has ticked, and none otherwise.  Every other canvas keeps
its size. -/
theorem Settled.canvasSize_bound (settled : w.Settled) (id : String)
    {player : Player PatternCore Ledger} (live : w.session = some ⟨.live player⟩)
    (canvas : String) :
    (w.bound id player.screen).page.canvasSize canvas =
      if canvas = id then
        if player.lastStamp.isSome then (some 162, some 146) else (some 0, some 0)
      else w.page.canvasSize canvas := by
  have begun : player.Begun := settled.begun live
  rw [Page.canvasSize_of_sized (w.canvasCalls_bound id player.screen)]
  have shown := begun.screen_eq
  cases stamp : player.lastStamp with
  | none =>
    rw [stamp] at shown
    rw [shown]
    rfl
  | some now =>
    rw [stamp] at shown
    obtain ⟨-, width, height⟩ := shown
    rw [width, height]
    rfl

/-- No other turn sizes a canvas. -/
theorem Settled.canvasSize_turn (settled : w.Settled) {t : Turn}
    (binds : ∀ id, (t, (w.turn t).1) ≠ (.export (.start id), .returned .unit)) (canvas : String) :
    (w.turn t).2.page.canvasSize canvas = w.page.canvasSize canvas := by
  have turned := settled.turned t
  generalize (w.turn t).1 = a, (w.turn t).2 = v at turned binds
  cases turned with
  | worked session lines begun live plain started =>
    rw [Page.canvasSize, Page.canvasCalls_writeAll, plain, List.append_nil]
    rfl
  | bound id player live => exact absurd rfl (binds id)
  | ended live =>
    rw [Page.canvasSize, canvasCalls_released]
    rfl
  | drawn d shown player live now =>
    exact Page.canvasSize_of_drawn (settled.canvasCalls_drawn d live now) canvas

theorem Turned.drawn_images {v : Widget} {t : Turn} {a : Answer} (h : w.Turned t a v)
    (settled : w.Settled) (before : w.page.Drawn) : v.page.Drawn := by
  intro columns rows mem
  cases h with
  | worked session lines begun live plain started =>
    rw [Page.canvasCalls_writeAll, plain, List.append_nil] at mem
    exact before columns rows mem
  | bound id player live =>
    rw [canvasCalls_bound] at mem
    exact before columns rows (by simpa using mem)
  | ended live =>
    rw [canvasCalls_released] at mem
    exact before columns rows mem
  | drawn d shown player live now =>
    rw [settled.canvasCalls_drawn d live now] at mem
    obtain mem | same : _ ∨ columns = 162 ∧ rows = 146 := by simpa using mem
    · exact before columns rows mem
    · exact same

theorem Settled.images_after (settled : w.Settled) (before : w.page.Drawn) (turns : List Turn) :
    (w.after turns).page.Drawn := by
  induction turns generalizing w with
  | nil => exact before
  | cons t turns ih =>
    have turned := settled.turned t
    exact ih (turned.settled settled) (turned.drawn_images settled before)

/-- **The canvas is sized to the screen, and the screen has no size before the
first tick.**  After any turns on any page just opened: a start that succeeds
binds a display to the canvas it was asked for, and gives that canvas the size
of the composed canvas, 162 by 146, if the session has ticked, and the size 0 by
0 if it has not.  No other canvas is sized by it, and none by any other turn.
Every image that was drawn is 162 by 146. -/
theorem canvas_sized_to_screen (hasWindow hasDocument : Bool)
    (elements : List (String × Element)) (turns : List Turn) :
    let w := (opened hasWindow hasDocument elements).after turns
    (∀ id, (w.turn (.export (.start id))).1 = .returned .unit →
      let v := (w.turn (.export (.start id))).2
      v.display.map Display.canvas = some id ∧
        ∃ player : Player PatternCore Ledger, w.session = some ⟨.live player⟩ ∧
          ∀ canvas, v.page.canvasSize canvas =
            if canvas = id then
              if player.lastStamp.isSome then (some 162, some 146) else (some 0, some 0)
            else w.page.canvasSize canvas) ∧
      (∀ t, (∀ id, (t, (w.turn t).1) ≠ (.export (.start id), .returned .unit)) →
        ∀ canvas, (w.turn t).2.page.canvasSize canvas = w.page.canvasSize canvas) ∧
      ∀ columns rows, .image columns rows ∈ w.page.canvasCalls → columns = 162 ∧ rows = 146 := by
  intro w
  have initial := settled_opened hasWindow hasDocument elements
  have settled : w.Settled := initial.after turns
  refine ⟨fun id answered => ?_, fun t => settled.canvasSize_turn, ?_⟩
  · have turned := settled.turned (.export (.start id))
    rw [answered] at turned
    intro v
    change w.Turned _ _ v at turned
    clear_value v
    cases turned with
    | worked session lines begun live plain started => exact absurd rfl (started id rfl)
    | bound id player live => exact ⟨rfl, player, live, settled.canvasSize_bound id live⟩
  · have nothing : (opened hasWindow hasDocument elements).page.Drawn := by
      rintro columns rows ⟨⟩
    exact initial.images_after nothing turns

/-- A start that finds its canvas and a live session sizes the canvas, and the
first frame draws an image of the size of the composed canvas to it. -/
theorem Settled.first_frame (settled : w.Settled) {id : String} (found : w.page.obstacle? id = none)
    {player : Player PatternCore Ledger} (live : w.session = some ⟨.live player⟩) (now : Float) :
    let v := w.turn (.export (.start id))
    v.1 = .returned .unit ∧
      v.2.page.canvasSize id =
        (if player.lastStamp.isSome then (some 162, some 146) else (some 0, some 0)) ∧
      ∃ pixels, (v.2.turn (.frame now)).2.page.canvasCalls =
        v.2.page.canvasCalls ++ [.image 162 146, .put id pixels] := by
  intro v
  have bound : v = (.returned .unit, w.bound id player.screen) := settled.turn_start found live
  have settled' := settled.bound id live
  have frame := WidgetM.eval_frame_of_bound settled' rfl live now
  rw [bound]
  refine ⟨rfl, ?_, (player.act (.tick now)).compositor.canvas, ?_⟩
  · rw [settled.canvasSize_bound id live, if_pos rfl]
  · rw [turn_eq, Turn.step, frame]
    exact settled'.canvasCalls_drawn _ live now

/-- A canvas that is bound before the first tick has no size, and the first
frame draws an image of full size to it. -/
theorem canvas_without_size :
    let opened := opened true true [("screen", .canvas .flat)]
    let w := opened.after [.export (.init (Array.replicate 0x150 0) false)]
    let v := w.turn (.export (.start "screen"))
    v.1 = .returned .unit ∧ v.2.page.canvasSize "screen" = (some 0, some 0) ∧
      ∃ pixels, (v.2.turn (.frame 0)).2.page.canvasCalls =
        v.2.page.canvasCalls ++ [.image 162 146, .put "screen" pixels] := by
  have initial := settled_opened true true [("screen", .canvas .flat)]
  have large : PatternCore.minimumRom ≤ (Array.replicate 0x150 (0 : UInt8)).size := by
    simp [PatternCore.minimumRom]
  have settled := initial.after [.export (.init (Array.replicate 0x150 0) false)]
  rw [initial.after_init large] at settled
  intro opened
  rw [initial.after_init large]
  exact settled.first_frame rfl rfl 0

end Widget

end HandheldHost
