import HandheldHost.Proofs.Widget.Turns

/-!
# The frame loop

A display that is bound keeps one animation frame pending and one listener
attached for each kind of key event.  A frame that is called back draws and
asks for the next, so the loop neither stops nor doubles, whatever a page
does in between: bind another canvas, start another session, or shut down.

* `Widget.Settled.loop`, `Widget.Settled.unheard` -- what a display keeps, and a
  page without one.
* `Widget.Settled.free_turn`, `Widget.Settled.free_after` -- without a display
  nothing is drawn, until one is bound.
* `Widget.one_frame_loop` -- every run of turns from an opened page.
-/

namespace HandheldHost.Widget

variable {w : Widget}

/-- What is attached and pending for the display that is bound, if there is
one. -/
theorem Settled.loop (settled : w.Settled) :
    match w.display with
    | none => w.page.pending = [] ∧ w.page.listeners = []
    | some d =>
      (∃ player, w.session = some ⟨.live player⟩) ∧
        w.page.pending = [(d.handle, ⟨d.owner, none⟩)] ∧
        ∀ event, w.page.listenersFor event = [⟨d.owner, some event⟩] := by
  obtain ⟨⟨-, events, pending, listeners, -⟩, -, -, live⟩ := settled
  cases shown : w.display with
  | none =>
    rw [shown] at pending listeners
    exact ⟨pending, listeners⟩
  | some d =>
    rw [shown] at pending listeners live
    refine ⟨live rfl, pending, fun event => ?_⟩
    rw [Page.listenersFor, listeners, Option.toList_some, List.flatMap_singleton, events d shown]
    cases event <;> rfl

/-! ## Callbacks -/

/-- Without a display neither a frame nor a key event reaches anything. -/
theorem Settled.unheard (settled : w.Settled) (free : w.display = none) :
    (∀ now, w.turn (.frame now) = (.fired 0, w)) ∧
      ∀ event code, w.turn (.key event code) = (.fired 0, w) :=
  ⟨WidgetM.eval_frame_of_free settled free, WidgetM.eval_key_of_free settled free⟩

/-! ## Without a display -/

/-- The answers of turns, in order. -/
def answers (w : Widget) : List Turn → List Answer
  | [] => []
  | t :: turns => (w.turn t).1 :: answers (w.turn t).2 turns

/-- No canvas is bound by any of the turns. -/
def BindsNone (w : Widget) (turns : List Turn) : Prop :=
  ∀ id, (.export (.start id), .returned .unit) ∉ turns.zip (w.answers turns)

/-- A turn without a display leaves every canvas alone, unless it binds one. -/
theorem Settled.free_turn (settled : w.Settled) (free : w.display = none) {t : Turn}
    (binds : ∀ id, (t, (w.turn t).1) ≠ (.export (.start id), .returned .unit)) :
    (w.turn t).2.display = none ∧ (w.turn t).2.page.canvasCalls = w.page.canvasCalls := by
  have turned := settled.turned t
  generalize (w.turn t).1 = a, (w.turn t).2 = v at turned binds
  cases turned with
  | worked session lines begun live plain started =>
    refine ⟨free, ?_⟩
    rw [Page.canvasCalls_writeAll, plain, List.append_nil]
  | bound id player live => exact absurd rfl (binds id)
  | ended live => exact ⟨rfl, w.canvasCalls_released⟩
  | drawn d shown player live now =>
    rw [free] at shown
    cases shown

/-- A shutdown that is not refused lets the display go. -/
theorem Settled.shutdown (settled : w.Settled) {live : Bool}
    (answered : (w.turn (.export .shutdown)).1 = .returned (.bool live)) :
    (w.turn (.export .shutdown)).2.display = none ∧
      (w.turn (.export .shutdown)).2.page.canvasCalls = w.page.canvasCalls := by
  have result : w.turn (.export .shutdown) =
      (WidgetM.answer .bool (WidgetM.eval (WidgetM.shutdown WidgetM.quiet) w).1,
        (WidgetM.eval (WidgetM.shutdown WidgetM.quiet) w).2) := rfl
  rw [result, WidgetM.eval_shutdown settled] at answered ⊢
  cases session : w.session with
  | none =>
    rw [session] at answered
    cases answered
  | some viewer => exact ⟨rfl, w.canvasCalls_released⟩

/-- Turns that bind no canvas leave a page without a display as it is. -/
theorem Settled.free_after (settled : w.Settled) (free : w.display = none) {turns : List Turn}
    (binds : w.BindsNone turns) :
    (w.after turns).page.pending = [] ∧ (w.after turns).page.canvasCalls = w.page.canvasCalls := by
  induction turns generalizing w with
  | nil =>
    have pending := settled.pending
    rw [free] at pending
    exact ⟨pending, rfl⟩
  | cons t turns ih =>
    have first : ∀ id, (t, (w.turn t).1) ≠ (.export (.start id), .returned .unit) := by
      intro id same
      exact binds id (same ▸ List.mem_cons_self)
    obtain ⟨still, unchanged⟩ := settled.free_turn free first
    have rest : (w.turn t).2.BindsNone turns := fun id mem => binds id (List.mem_cons_of_mem _ mem)
    obtain ⟨pending, later⟩ := ih ((settled.turned t).settled settled) still rest
    exact ⟨pending, later.trans unchanged⟩

/-- **There is one frame loop, and only while a display is bound.**  After any
turns on any page just opened:

While a display is bound, its session is live, the one frame pending is the
display's, and each kind of key event has one listener.  While none is bound,
nothing is pending or attached.

A frame that is called back ticks the session once, draws the canvas composed
by that tick once, to the canvas of the display and no other, and asks for the
next frame; a key event carries out one key request and does nothing else.
Without a display neither does anything.

Once a shutdown has answered, nothing is pending and every canvas is left
alone for as long as none is bound. -/
theorem one_frame_loop (hasWindow hasDocument : Bool) (elements : List (String × Element))
    (turns : List Turn) :
    let w := (opened hasWindow hasDocument elements).after turns
    (match w.display with
      | none =>
        w.page.pending = [] ∧ w.page.listeners = [] ∧
          (∀ now, w.turn (.frame now) = (.fired 0, w)) ∧
          ∀ event code, w.turn (.key event code) = (.fired 0, w)
      | some d => ∃ player : Player PatternCore Ledger,
        w.session = some ⟨.live player⟩ ∧
          w.page.pending = [(d.handle, ⟨d.owner, none⟩)] ∧
          (∀ event, w.page.listenersFor event = [⟨d.owner, some event⟩]) ∧
          (∀ now, w.turn (.frame now) = (.fired 1, w.drawn d player now) ∧
            (w.drawn d player now).page.canvasCalls = w.page.canvasCalls ++
              [.image 162 146, .put d.canvas (player.tick now).value.2.compositor.canvas]) ∧
          ∀ event code, w.turn (.key event code) = (.fired 1,
            { w with session := some ⟨.live (player.request (.key code event.pressed)).value⟩ })) ∧
    ∀ live, (w.turn (.export .shutdown)).1 = .returned (.bool live) →
      let v := (w.turn (.export .shutdown)).2
      ∀ more, v.BindsNone more →
        (v.after more).page.pending = [] ∧
          (v.after more).page.canvasCalls = w.page.canvasCalls := by
  intro w
  have settled : w.Settled := (settled_opened hasWindow hasDocument elements).after turns
  refine ⟨?_, fun live answered => ?_⟩
  · have attached := settled.loop
    cases shown : w.display with
    | none =>
      rw [shown] at attached
      exact ⟨attached.1, attached.2, settled.unheard shown⟩
    | some d =>
      rw [shown] at attached
      obtain ⟨⟨player, live⟩, pending, listeners⟩ := attached
      have keys := WidgetM.eval_key_of_bound settled shown live
      rw [shown] at keys
      exact ⟨player, live, pending, listeners,
        fun now => ⟨WidgetM.eval_frame_of_bound settled shown live now,
          settled.canvasCalls_drawn d live now⟩, keys⟩
  · have turned := settled.turned (.export .shutdown)
    rw [answered] at turned
    intro v more binds
    obtain ⟨free, unchanged⟩ := settled.shutdown answered
    obtain ⟨pending, later⟩ := (turned.settled settled).free_after free binds
    exact ⟨pending, later.trans unchanged⟩

end HandheldHost.Widget
