import HandheldHost.Proofs.Widget.Follows
import HandheldHost.Proofs.Widget.Turns

/-!
# Sessions that have been shut down

A use of a session that has been shut down fails and does nothing.  There is one
exception: the name of a button is looked up before the session, so a name that
means none is turned down without an error.

A page may get to such a session by any steps, and take further steps inside
the calls of the widget, to any depth.  Shutting down lets the display go with
the guard down, so even a new session may be started in the middle of it.

* `WidgetM.run_use_of_ended` -- a use of a session that has ended.
* `WidgetM.ended_session_refuses_uses` -- every use, wherever the page has got to.
* `Widget.unknown_button_outlives_session` -- the exception.
-/

namespace HandheldHost

/-- What a use of a session that has been shut down answers. -/
def Export.afterlife : Export → Answer
  | .button name _ =>
    match Button.ofName? name with
    | some _ => .thrown (.session .shutDown)
    | none => .returned (.bool false)
  | _ => .thrown (.session .shutDown)

/-- The only uses that do not fail are those of buttons that do not exist. -/
theorem Export.afterlife_ne_thrown_iff (e : Export) :
    e.afterlife ≠ .thrown (.session .shutDown) ↔
      ∃ name pressed, e = .button name pressed ∧ Button.ofName? name = none := by
  cases e with
  | button name pressed => cases found : Button.ofName? name <;> simp [afterlife, found]
  | _ => simp [afterlife]

/-- Shutting a session down ends it. -/
theorem Viewer.isLive_shutdown (viewer : WidgetSession) :
    viewer.shutdown.value.2.session.isLive = false := by
  obtain ⟨_ | player, releases⟩ := viewer <;> rfl

namespace WidgetM

open Widget SessionMove

variable {notify : PageCall → WidgetM Unit}

/-- A use of a session that has ended leaves the widget alone and logs
nothing. -/
theorem run_use_of_ended {w : Widget} (idle : w.busy = false) {viewer : WidgetSession}
    (there : w.session = some viewer) (ended : viewer.session.isLive = false) {e : Export}
    (use : e.isUse = true) : (runExport notify e).run w = pure (e.afterlife, w) := by
  obtain ⟨page, session, display, busy, alive, nextOwner⟩ := w
  obtain rfl : busy = false := idle
  obtain rfl : session = some viewer := there
  obtain ⟨_ | player, releases⟩ := viewer
  · cases e with
    | init | start | shutdown => cases use
    | button name pressed =>
      simp only [runExport, Viewer.setButton, Export.afterlife]
      cases Button.ofName? name <;> rfl
    | _ => rfl
  · cases ended

/-- A shutdown that is not refused leaves a session that has ended, unless the
log tells of one that was started since. -/
theorem ended_of_shutdown (inside : ∀ c, Follows (fun _ => True) (notify c)) {w : Widget}
    (idle : w.busy = false) {released : Value}
    (answered : (eval (step notify (.export .shutdown)) w).1 = .returned released)
    (later : List PageStep)
    (silent : ∀ size, .sessionStarted size ∉ events (step notify (.export .shutdown)) w ++
      events (stepAll notify later) (eval (step notify (.export .shutdown)) w).2) :
    ∃ viewer : WidgetSession, viewer.session.isLive = false ∧
      (eval (stepAll notify later) (eval (step notify (.export .shutdown)) w).2).2.session =
        some viewer := by
  have stopped : eval (step notify (.export .shutdown)) w =
      (answer .bool (eval (shutdown notify) w).1, (eval (shutdown notify) w).2) := rfl
  have logged : events (step notify (.export .shutdown)) w = events (shutdown notify) w :=
    List.append_nil _
  rw [stopped] at answered silent ⊢
  rw [logged] at silent
  cases there : w.session with
  | none =>
    rw [result_shutdown notify idle, there] at answered
    cases answered
  | some viewer =>
    obtain ⟨rest, -, first⟩ := led_shutdown inside idle
    obtain ⟨more, -, second⟩ := follows_stepAll inside (fun _ => trivial) later
      (fun _ _ _ _ => trivial) (eval (shutdown notify) w).2
    -- All that is done, the shutdown first, as one list of moves.
    have moved := (first.trans second).session_eq
    rw [there, List.cons_append, runAll_cons, run_shutdown, Option.map_some] at moved
    have ended := viewer.isLive_shutdown
    have whole : ending (some viewer) ++
        (runAll (rest ++ more) (some viewer.shutdown.value.2)).events =
        events (shutdown notify) w ++ events (stepAll notify later) (eval (shutdown notify) w).2 :=
      congrArg Logged.events moved
    have still := runAll_of_ended ended (rest ++ more) fun size started =>
      silent size (whole ▸ List.mem_append_right _ started)
    refine ⟨viewer.shutdown.value.2, ended, ?_⟩
    have left := congrArg Logged.value moved
    rw [Logged.value_bind, still] at left
    exact left.symm

/-- **A session that has been shut down refuses every use.**  Take any page,
and let it take any steps of its own inside the calls of the widget, to any
depth.

Wherever its steps have led, if the session there has ended, every use of it
answers that and nothing else happens.  And once a shutdown has answered
without an error, that is so after any further steps, for as long as the log
tells of no session that was started.

The answer is that the session is already shut down, save that setting a button
of a name that means none returns false. -/
theorem ended_session_refuses_uses (react : PageCall → Page → Page)
    (choose : PageCall → Widget → List PageStep) (depth : Nat) (page : Page)
    (steps : List PageStep) :
    let notify := lively react choose depth
    let w := (eval (stepAll notify steps) { page }).2
    (∀ viewer, w.session = some viewer → viewer.session.isLive = false →
        ∀ e : Export, e.isUse = true → (runExport notify e).run w = pure (e.afterlife, w)) ∧
      (∀ released later,
        let stop := (step notify (.export .shutdown)).run w
        let rest := (stepAll notify later).run stop.value.2
        stop.value.1 = .returned released →
          (∀ size, .sessionStarted size ∉ stop.events ++ rest.events) →
            ∀ e : Export, e.isUse = true →
              (runExport notify e).run rest.value.2 = pure (e.afterlife, rest.value.2)) ∧
      (∀ e : Export, e.afterlife ≠ .thrown (.session .shutDown) ↔
        ∃ name pressed, e = .button name pressed ∧ Button.ofName? name = none) ∧
      Thrown.message (.session .shutDown) = "session already shut down" := by
  intro notify w
  have inside : ∀ c, Follows (fun _ => True) (notify c) := follows_lively react choose depth
  have keepsBusy (steps : List PageStep) (v : Widget) :
      (eval (stepAll notify steps) v).2.busy = v.busy := by
    obtain ⟨_, -, led⟩ := follows_stepAll inside (fun _ => trivial) steps
      (fun _ _ _ _ => trivial) v
    exact led.busy_eq
  have idle : w.busy = false := keepsBusy steps { page }
  refine ⟨fun viewer there ended e use => run_use_of_ended idle there ended use, ?_,
    Export.afterlife_ne_thrown_iff, rfl⟩
  intro released later stop rest answered silent e use
  obtain ⟨viewer, ended, there⟩ := ended_of_shutdown inside idle answered later silent
  have stopped : stop.value.2.busy = false := by
    obtain ⟨_, -, led⟩ := follows_step inside (fun _ => trivial) (.export .shutdown)
      (fun _ _ => trivial) w
    exact led.busy_eq.trans idle
  exact run_use_of_ended ((keepsBusy later _).trans stopped) there ended use

end WidgetM

namespace Widget

/-- After a shutdown that has released the core, setting a button of an unknown
name returns false, though setting any button there is fails. -/
theorem unknown_button_outlives_session :
    let w := (opened true true []).after [.export (.init (Array.replicate 0x150 0) false)]
    let v := w.turn (.export .shutdown)
    v.1 = .returned (.bool true) ∧
      (v.2.turn (.export (.button "turbo" true))).1 = .returned (.bool false) ∧
      (v.2.turn (.export (.button "a" true))).1 = .thrown (.session .shutDown) := by
  have large : PatternCore.minimumRom ≤ (Array.replicate 0x150 (0 : UInt8)).size := by
    simp [PatternCore.minimumRom]
  rw [(settled_opened true true []).after_init large]
  exact ⟨rfl, rfl, rfl⟩

end Widget

end HandheldHost
