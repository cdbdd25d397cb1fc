import HandheldHost.Proofs.Widget.Settled

/-!
# Turns

A page that fails no call and never calls back from inside one takes turns with
its widget: exported calls, display refreshes and key events, in any order.

* `Widget.Turned` -- the four things that a turn can come to;
  `Widget.Settled.turned` -- every turn comes to one of them.
* `Widget.Settled.after` -- a run of turns leaves the widget settled.
* `Page.canvasCalls` -- how canvases were sized and drawn to on a run.
-/

namespace HandheldHost

/-! ## Canvases -/

/-- A call that sizes a canvas or draws to one. -/
def PageLine.canvasCall? : PageLine → Option PageCall
  | .call (.width canvas columns) => some (.width canvas columns)
  | .call (.height canvas rows) => some (.height canvas rows)
  | .call (.image columns rows) => some (.image columns rows)
  | .call (.put canvas bytes) => some (.put canvas bytes)
  | _ => none

/-- The calls that size a canvas or draw to one, in order. -/
def Page.canvasCalls (page : Page) : List PageCall :=
  page.transcript.toList.filterMap PageLine.canvasCall?

theorem Page.canvasCalls_writeAll (page : Page) (lines : List PageLine) :
    (page.writeAll lines).canvasCalls =
      page.canvasCalls ++ lines.filterMap PageLine.canvasCall? := by
  simp [canvasCalls, writeAll]

namespace Widget

/-- Something that happens on a page that fails no call and never calls back
from inside one. -/
inductive Turn where
  | export (e : Export)
  | frame (now : Float)
  | key (event : KeyEvent) (code : UInt32)

/-- A turn as a step on the page. -/
def Turn.step : Turn → PageStep
  | .export e => .export e
  | .frame now => .frame now
  | .key event code => .key event code

/-- A widget on a page just opened. -/
def opened (hasWindow hasDocument : Bool) (elements : List (String × Element)) : Widget where
  page := { hasWindow, hasDocument, elements }

/-- Takes a turn; gives its answer as well. -/
def turn (w : Widget) (t : Turn) : Answer × Widget := (w.perform (fun _ => none) t.step).value

/-- The widget after turns. -/
def after (w : Widget) (turns : List Turn) : Widget := turns.foldl (fun w t => (w.turn t).2) w

theorem turn_eq (w : Widget) (t : Turn) :
    w.turn t = WidgetM.eval (WidgetM.step WidgetM.quiet t.step) w := rfl

theorem Settled.after_init {w : Widget} (settled : w.Settled) {rom : Bytes}
    (large : PatternCore.minimumRom ≤ rom.size) (debug : Bool) :
    w.after [.export (.init rom debug)] =
      w.begun rom (.start (.boot rom) {} default { debug }) := by
  simp only [after, List.foldl_cons, List.foldl_nil, turn_eq, Turn.step, WidgetM.step,
    WidgetM.runExport, WidgetM.eval_bind, WidgetM.eval_init settled.idle, WidgetM.eval_pure,
    (PatternCore.load_eq_ok_iff rom _).mpr ⟨large, rfl⟩]

theorem Settled.turn_start {w : Widget} (settled : w.Settled) {id : String}
    (found : w.page.obstacle? id = none) {player : Player PatternCore Ledger}
    (live : w.session = some ⟨.live player⟩) :
    w.turn (.export (.start id)) = (.returned .unit, w.bound id player.screen) := by
  simp only [turn_eq, Turn.step, WidgetM.step, WidgetM.runExport, WidgetM.eval_bind,
    WidgetM.eval_start settled, WidgetM.eval_pure, found, live]
  rfl

/-- What a turn can come to. -/
inductive Turned (w : Widget) : Turn → Answer → Widget → Prop
  /-- The turn has to do with the session alone. -/
  | worked {t : Turn} {a : Answer} (session : Option WidgetSession) (lines : List PageLine)
      (begun : ∀ viewer, session = some viewer → viewer.Begun)
      (live : ∀ player, w.session = some ⟨.live player⟩ → ∃ next, session = some ⟨.live next⟩)
      (plain : lines.filterMap PageLine.canvasCall? = [])
      (started : ∀ id, t = .export (.start id) → a ≠ .returned .unit) :
      w.Turned t a { w with session := session, page := w.page.writeAll lines }
  /-- A display is bound. -/
  | bound (id : String) (player : Player PatternCore Ledger)
      (live : w.session = some ⟨.live player⟩) :
      w.Turned (.export (.start id)) (.returned .unit) (w.bound id player.screen)
  /-- The session is shut down and the display let go. -/
  | ended (live : Bool) :
      w.Turned (.export .shutdown) (.returned (.bool live))
        { w.released with session := some ⟨.ended⟩ }
  /-- A frame is drawn. -/
  | drawn (d : Display) (shown : w.display = some d) (player : Player PatternCore Ledger)
      (live : w.session = some ⟨.live player⟩) (now : Float) :
      w.Turned (.frame now) (.fired 1) (w.drawn d player now)

/-- The turn leaves the widget as it was. -/
theorem Settled.unchanged {w : Widget} (settled : w.Settled) {t : Turn} {a : Answer}
    {session : Option WidgetSession} (same : w.session = session) (lines : List PageLine)
    (plain : lines.filterMap PageLine.canvasCall? = [])
    (started : ∀ id, t = .export (.start id) → a ≠ .returned .unit) :
    w.Turned t a { w with session := session, page := w.page.writeAll lines } := by
  subst same
  exact .worked w.session lines settled.sessions (fun player live => ⟨player, live⟩) plain started

@[simp] theorem canvasCalls_reports (reports : List (Nat × Fault)) :
    (reports.map WidgetM.reportLine).filterMap PageLine.canvasCall? = [] := by
  induction reports with
  | nil => rfl
  | cons report reports ih => exact ih

theorem Settled.turned_init {w : Widget} (settled : w.Settled) (rom : Bytes) (debug : Bool) :
    w.Turned (.export (.init rom debug)) (w.turn (.export (.init rom debug))).1
      (w.turn (.export (.init rom debug))).2 := by
  simp only [turn_eq, Turn.step, WidgetM.step, WidgetM.runExport, WidgetM.eval_bind,
    WidgetM.eval_init settled.idle, WidgetM.eval_pure]
  cases loaded : (PatternCore.load rom).value with
  | error reason => exact settled.unchanged rfl [] (by simp) (by simp)
  | ok core =>
    obtain ⟨-, rfl⟩ := (PatternCore.load_eq_ok_iff rom core).mp loaded
    refine .worked _ _ ?_ (fun _ _ => ⟨_, rfl⟩) ?_ (by simp)
    · rintro _ ⟨⟩
      exact .inr ⟨_, rfl, Player.begun_start rom debug⟩
    · rfl

theorem Settled.turned_start {w : Widget} (settled : w.Settled) (id : String) :
    w.Turned (.export (.start id)) (w.turn (.export (.start id))).1
      (w.turn (.export (.start id))).2 := by
  have searched : (w.page.searchLines id).filterMap PageLine.canvasCall? = [] := by
    unfold Page.searchLines
    repeat' split
    all_goals rfl
  simp only [turn_eq, Turn.step, WidgetM.step, WidgetM.runExport, WidgetM.eval_bind,
    WidgetM.eval_start settled, WidgetM.eval_pure]
  cases w.page.obstacle? id with
  | some e => exact settled.unchanged rfl _ searched (by simp [WidgetM.answer])
  | none =>
    cases session : w.session with
    | none => exact settled.unchanged session _ searched (by simp [WidgetM.answer])
    | some viewer =>
      obtain rfl | ⟨player, rfl, -⟩ := settled.sessions viewer session
      · have gone : Viewer.canvas (⟨.ended⟩ : WidgetSession) = .error .shutDown := rfl
        simp only [Option.map_some, gone]
        exact settled.unchanged session _ searched (by simp [WidgetM.answer])
      · exact .bound id player session

theorem Settled.turned_shutdown {w : Widget} (settled : w.Settled) :
    w.Turned (.export .shutdown) (w.turn (.export .shutdown)).1
      (w.turn (.export .shutdown)).2 := by
  simp only [turn_eq, Turn.step, WidgetM.step, WidgetM.runExport, WidgetM.eval_bind,
    WidgetM.eval_shutdown settled, WidgetM.eval_pure]
  cases session : w.session with
  | none => exact settled.unchanged rfl [] (by simp) (by simp)
  | some viewer => exact .ended viewer.session.isLive

theorem Settled.turned_use {w : Widget} (settled : w.Settled) {e : Export}
    (use : e.isUse = true) :
    w.Turned (.export e) (w.turn (.export e)).1 (w.turn (.export e)).2 := by
  have started : ∀ id, Turn.export e = .export (.start id) →
      (w.turn (.export e)).1 ≠ .returned .unit := by
    rintro id ⟨⟩
    cases use
  have left : (w.turn (.export e)).2 = (WidgetM.eval (WidgetM.runExport WidgetM.quiet e) w).2 := rfl
  rw [left, WidgetM.left_use use settled.idle]
  cases session : w.session with
  | none => exact settled.unchanged rfl [] (by simp) started
  | some viewer =>
    refine .worked _ _ ?_ ?_ (canvasCalls_reports _) started
    · rintro _ ⟨⟩
      exact (settled.sessions viewer session).played e.actions
    · intro player live
      obtain rfl : viewer = ⟨.live player⟩ := Option.some.inj (session.symm.trans live)
      exact ⟨player.after e.actions, rfl⟩

/-- **Every turn comes to one of four things.** -/
theorem Settled.turned {w : Widget} (settled : w.Settled) (t : Turn) :
    w.Turned t (w.turn t).1 (w.turn t).2 := by
  rw [turn_eq]
  cases t with
  | frame now =>
    cases shown : w.display with
    | none =>
      rw [Turn.step, WidgetM.eval_frame_of_free settled shown]
      exact settled.unchanged rfl [] (by simp) (by simp)
    | some d =>
      obtain ⟨player, live⟩ := settled.live (by rw [shown]; rfl)
      rw [Turn.step, WidgetM.eval_frame_of_bound settled shown live]
      exact .drawn d shown player live now
  | key event code =>
    cases shown : w.display with
    | none =>
      rw [Turn.step, WidgetM.eval_key_of_free settled shown]
      exact settled.unchanged rfl [] (by simp) (by simp)
    | some d =>
      obtain ⟨player, live⟩ := settled.live (by rw [shown]; rfl)
      rw [Turn.step, WidgetM.eval_key_of_bound settled shown live]
      refine .worked _ [] ?_ (fun _ _ => ⟨_, rfl⟩) (by simp) (by simp)
      rintro _ ⟨⟩
      exact (settled.sessions _ live).played [.request (.key code event.pressed)]
  | «export» e =>
    cases e with
    | init rom debug => exact settled.turned_init rom debug
    | start id => exact settled.turned_start id
    | shutdown => exact settled.turned_shutdown
    | _ => exact settled.turned_use rfl

theorem settled_opened (hasWindow hasDocument : Bool) (elements : List (String × Element)) :
    (opened hasWindow hasDocument elements).Settled where
  granting := rfl
  events := by rintro d ⟨⟩
  pending := rfl
  listeners := rfl
  alive := rfl
  idle := rfl
  sessions := by rintro viewer ⟨⟩
  live := by rintro ⟨⟩

theorem Settled.bound {w : Widget} (settled : w.Settled) (id : String)
    {player : Player PatternCore Ledger} (live : w.session = some ⟨.live player⟩) :
    (w.bound id player.screen).Settled where
  granting := settled.granting
  events := by rintro d ⟨⟩; rfl
  pending := rfl
  listeners := rfl
  alive := rfl
  idle := settled.idle
  sessions := settled.sessions
  live _ := ⟨player, live⟩

theorem Settled.ended {w : Widget} (settled : w.Settled) :
    Settled { w.released with session := some ⟨.ended⟩ } where
  granting := settled.granting
  events := by rintro d ⟨⟩
  pending := rfl
  listeners := rfl
  alive := rfl
  idle := settled.idle
  sessions := by rintro viewer ⟨⟩; exact .inl rfl
  live := by rintro ⟨⟩

theorem Settled.drawn {w : Widget} (settled : w.Settled) {d : Display}
    (shown : w.display = some d) {player : Player PatternCore Ledger}
    (live : w.session = some ⟨.live player⟩) (now : Float) : (w.drawn d player now).Settled := by
  obtain ⟨⟨granting, events, -, listeners, alive⟩, idle, sessions, -⟩ := settled
  rw [shown] at listeners alive
  refine ⟨⟨granting, ?_, rfl, listeners, alive⟩, idle, ?_, fun _ => ⟨_, rfl⟩⟩
  · rintro _ ⟨⟩
    exact events d shown
  · rintro _ ⟨⟩
    exact (sessions _ live).played [.tick now]

/-- Every turn leaves the widget settled. -/
theorem Turned.settled {w v : Widget} {t : Turn} {a : Answer} (h : w.Turned t a v)
    (settled : w.Settled) : v.Settled := by
  cases h with
  | worked session lines begun live plain started =>
    refine ⟨⟨settled.granting, settled.events, settled.pending, settled.listeners, settled.alive⟩,
      settled.idle, begun, fun shown => ?_⟩
    obtain ⟨player, playing⟩ := settled.live shown
    exact live player playing
  | bound id player live => exact settled.bound id live
  | ended _ => exact settled.ended
  | drawn d shown player live now => exact settled.drawn shown live now

/-- So does every run. -/
theorem Settled.after {w : Widget} (settled : w.Settled) (turns : List Turn) :
    (w.after turns).Settled := by
  induction turns generalizing w with
  | nil => exact settled
  | cons t turns ih => exact ih ((settled.turned t).settled settled)

/-! ## What turns do to canvases -/

@[simp] theorem canvasCalls_releaseLines (w : Widget) :
    w.releaseLines.filterMap PageLine.canvasCall? = [] := by
  rw [List.filterMap_eq_nil_iff]
  intro line mem
  obtain ⟨d, -, mem⟩ := List.mem_flatMap.mp mem
  obtain rfl | mem := List.mem_cons.mp mem
  · rfl
  · obtain ⟨event, -, rfl⟩ := List.mem_map.mp mem
    rfl

theorem canvasCalls_bound (w : Widget) (id : String) (screen : Screen) :
    (w.bound id screen).page.canvasCalls =
      w.page.canvasCalls ++
        [.width id (UInt32.ofNat screen.width), .height id (UInt32.ofNat screen.height)] := by
  rw [bound, Page.canvasCalls_writeAll, bindLines]
  simp only [List.filterMap_append, canvasCalls_releaseLines]
  rfl

theorem canvasCalls_released (w : Widget) :
    w.released.page.canvasCalls = w.page.canvasCalls := by
  rw [released, Page.canvasCalls_writeAll, canvasCalls_releaseLines]
  exact List.append_nil _

/-- A frame that is called back draws the canvas of the player after its one
tick to the canvas of its display, and nothing else. -/
theorem Settled.canvasCalls_drawn {w : Widget} (settled : w.Settled) (d : Display)
    {player : Player PatternCore Ledger} (live : w.session = some ⟨.live player⟩) (now : Float) :
    (w.drawn d player now).page.canvasCalls =
      w.page.canvasCalls ++
        [.image 162 146, .put d.canvas (player.act (.tick now)).compositor.canvas] := by
  obtain ⟨pixels, width, height⟩ := (settled.begun live).screen_tick now
  rw [Widget.drawn, Page.canvasCalls_writeAll, List.filterMap_append, pictureLines,
    List.filterMap_append, canvasCalls_reports, pixels, width, height]
  rfl

end Widget

end HandheldHost
