import HandheldHost.Proofs.Core.Pattern
import HandheldHost.Proofs.Player.Picture
import HandheldHost.Proofs.Session
import HandheldHost.Proofs.Widget.Evaluation

/-!
# Widgets between two calls

Between two calls of its page a widget is settled: what is attached and pending
on the page belongs to the display that is bound, and that display plays a live
session.  Here each call and each callback is evaluated from such a state, on a
page that grants every call and does nothing of its own.

* `Player.Begun.screen_eq` -- what a player of a page has on its screen.
* `Widget.Tidy`, `Widget.Settled` -- what holds between two calls.
* `WidgetM.eval_init`, `WidgetM.eval_start`, `WidgetM.eval_shutdown`,
  `WidgetM.left_use` -- the exported calls.
* `WidgetM.eval_frame_of_bound`, `WidgetM.eval_key_of_bound` -- the callbacks.
-/

namespace HandheldHost

/-! ## Players and sessions of a page -/

namespace Player

/-- The player of a session that was started on a page: it plays a cartridge
on a fresh screen, and has been through some actions since. -/
def Begun (player : Player PatternCore Ledger) : Prop :=
  ∃ rom debug actions, player = (start (PatternCore.boot rom) {} default { debug }).after actions

theorem begun_start (rom : Bytes) (debug : Bool) :
    (start (PatternCore.boot rom) {} default { debug } : Player PatternCore Ledger).Begun :=
  ⟨rom, debug, [], rfl⟩

theorem Begun.after {player : Player PatternCore Ledger} (h : player.Begun)
    (actions : List Action) : (player.after actions).Begun := by
  obtain ⟨rom, debug, before, rfl⟩ := h
  exact ⟨rom, debug, before ++ actions, (after_append _ before actions).symm⟩

theorem layout_eq_of_begun {player : Player PatternCore Ledger} (h : player.Begun) :
    player.compositor.toLayout = ⟨.standard, {}⟩ := by
  obtain ⟨rom, debug, actions, rfl⟩ := h
  exact (carries_after (PatternCore.boot rom) {} default { debug } actions).layout_eq

/-- A player has a stamp of its last tick just when it has ticked, and it is
then that its screen shows its canvas. -/
theorem screen_of_lastStamp (first : Player PatternCore Ledger) (fresh : first.lastStamp = none)
    (actions : List Action) :
    match (first.after actions).lastStamp with
    | none => (first.after actions).screen = first.screen
    | some _ => ∃ screen,
      (first.after actions).screen = (first.after actions).compositor.present screen := by
  refine run_induction (motive := fun _ q _ => match q.lastStamp with
    | none => q.screen = first.screen
    | some _ => ∃ screen, q.screen = q.compositor.present screen) first ?_ ?_ ?_ actions
  · rw [fresh]
  · -- A request leaves the stamp and the screen, a tick sets both.
    intro _ q _ r ih
    rw [value_request]
    exact ih
  · intro _ q _ now _
    exact ⟨q.screen, rfl⟩

/-- The screen shows the composed canvas once the player has ticked, and
nothing before. -/
theorem Begun.screen_eq {player : Player PatternCore Ledger} (h : player.Begun) :
    match player.lastStamp with
    | none => player.screen = {}
    | some _ => player.screen.pixels = player.compositor.canvas ∧
      player.screen.width = 162 ∧ player.screen.height = 146 := by
  have layout := layout_eq_of_begun h
  obtain ⟨rom, debug, actions, rfl⟩ := h
  have shown := screen_of_lastStamp (start (PatternCore.boot rom) {} default { debug }) rfl actions
  cases stamp : ((start (PatternCore.boot rom) {} default { debug } :
      Player PatternCore Ledger).after actions).lastStamp with
  | none =>
    rw [stamp] at shown
    exact shown
  | some now =>
    rw [stamp] at shown
    obtain ⟨screen, shown⟩ := shown
    rw [shown]
    refine ⟨rfl, ?_, ?_⟩
    · show Layout.canvasWidth _ = _
      rw [layout]
      rfl
    · show Layout.canvasHeight _ = _
      rw [layout]
      rfl

/-- So after a tick it shows the canvas that the tick has composed. -/
theorem Begun.screen_tick {player : Player PatternCore Ledger} (h : player.Begun) (now : Float) :
    (player.act (.tick now)).screen.pixels = (player.act (.tick now)).compositor.canvas ∧
      (player.act (.tick now)).screen.width = 162 ∧
      (player.act (.tick now)).screen.height = 146 := by
  have stamp : (player.act (.tick now)).lastStamp = some now := by
    rw [act_tick]
    rfl
  have shown := (h.after [.tick now]).screen_eq
  rw [show player.after [.tick now] = player.act (.tick now) from rfl, stamp] at shown
  exact shown

end Player

/-- What an exported call does with a player. -/
def Export.actions : Export → List Action
  | .tick now => [.tick now]
  | .key code pressed => [.request (.key code pressed)]
  | .button name pressed =>
    ((Button.ofName? name).map fun which => .request (.button which pressed)).toList
  | .togglePause => [.request .togglePause]
  | .setPaused paused => [.request (.setPaused paused)]
  | .stepFrame => [.request .stepFrame]
  | .stepInstruction => [.request .stepInstruction]
  | .toggleDebug => [.request .toggleDebug]
  | _ => []

/-- The exported calls that use a session and do nothing besides. -/
def Export.isUse : Export → Bool
  | .init .. | .start _ | .shutdown => false
  | _ => true

namespace Viewer

section

variable {γ δ : Type} [Core γ] [FaultSink δ]

/-- A session after actions of its player, if it has one still. -/
def played (viewer : Viewer γ δ) (actions : List Action) : Viewer γ δ :=
  match viewer.session.player with
  | none => viewer
  | some player => ⟨{ viewer.session with player := some (player.after actions) }⟩

@[simp] theorem played_nil (viewer : Viewer γ δ) : viewer.played [] = viewer := by
  obtain ⟨_ | player, releases⟩ := viewer <;> rfl

theorem played_played (viewer : Viewer γ δ) (actions more : List Action) :
    (viewer.played actions).played more = viewer.played (actions ++ more) := by
  obtain ⟨_ | player, releases⟩ := viewer
  · rfl
  · simp only [played, Player.after_append]

@[simp] theorem isLive_played (viewer : Viewer γ δ) (actions : List Action) :
    (viewer.played actions).session.isLive = viewer.session.isLive := by
  obtain ⟨_ | player, releases⟩ := viewer <;> rfl

theorem left_tick (viewer : Viewer γ δ) (now : Float) :
    (viewer.tick now).value.2 = viewer.played [.tick now] := by
  obtain ⟨_ | player, releases⟩ := viewer <;> rfl

theorem left_request (viewer : Viewer γ δ) (r : Request) :
    (viewer.request r).value.2 = viewer.played [.request r] := by
  obtain ⟨_ | player, releases⟩ := viewer <;> rfl

theorem left_setButton (viewer : Viewer γ δ) (name : String) (pressed : Bool) :
    (viewer.setButton name pressed).value.2 =
      viewer.played (Export.button name pressed).actions := by
  rw [setButton, Export.actions]
  cases Button.ofName? name with
  | none => exact viewer.played_nil.symm
  | some which => exact viewer.left_request (.button which pressed)

end

/-- A session that was started on a page, before or after its end. -/
def Begun (viewer : WidgetSession) : Prop :=
  viewer = ⟨.ended⟩ ∨ ∃ player : Player PatternCore Ledger, viewer = ⟨.live player⟩ ∧ player.Begun

/-- Shutting a session down ends it, whether or not it was live. -/
theorem Begun.value_shutdown {viewer : WidgetSession} (h : viewer.Begun) :
    viewer.shutdown.value = (viewer.session.isLive, ⟨.ended⟩) := by
  obtain rfl | ⟨player, rfl, -⟩ := h <;> rfl

theorem create_of_large {rom : Bytes} (large : PatternCore.minimumRom ≤ rom.size) (sink : Ledger)
    (config : PlayerConfig) :
    (create rom sink config : Logged (Except SessionError WidgetSession)) =
      ⟨.ok ⟨.live (.start (.boot rom) {} sink config)⟩,
        [.patternLoaded rom.size, .sessionStarted rom.size]⟩ := by
  rw [create, Session.create_of_large large]
  rfl

theorem create_of_refused {rom : Bytes} {reason : CartridgeError}
    (refused : PatternCore.load rom = pure (.error reason)) (sink : Ledger)
    (config : PlayerConfig) :
    (create rom sink config : Logged (Except SessionError WidgetSession)) =
      pure (.error (.cartridge reason)) := by
  rw [create, Session.create_of_refused refused]
  rfl

/-- A session is created just when the cartridge gives a core. -/
theorem value_create (rom : Bytes) (sink : Ledger) (config : PlayerConfig) :
    (create rom sink config : Logged (Except SessionError WidgetSession)).value =
      match (PatternCore.load rom).value with
      | .error reason => .error (.cartridge reason)
      | .ok core => .ok ⟨.live (.start core {} sink config)⟩ := by
  have load : (Core.load rom : Logged (Except CartridgeError PatternCore)) =
      PatternCore.load rom := rfl
  simp only [create, Session.create, Logged.value_bind, load]
  cases (PatternCore.load rom).value <;> rfl

theorem Begun.played {viewer : WidgetSession} (h : viewer.Begun) (actions : List Action) :
    (viewer.played actions).Begun := by
  obtain rfl | ⟨player, rfl, begun⟩ := h
  · exact .inl rfl
  · exact .inr ⟨player.after actions, rfl, begun.after actions⟩

end Viewer

/-! ## Displays of a page -/

/-- The key listeners of one attempt to start a display. -/
def Callback.keys (owner : Nat) (events : List KeyEvent) : List Callback :=
  events.map fun event => ⟨owner, some event⟩

namespace Widget

/-- What is attached and pending on the page, and what the widget stands
behind, belongs to the display that is bound. -/
structure Tidy (w : Widget) : Prop where
  granting : w.page.failing = []
  events : ∀ d, w.display = some d → d.events = [.down, .up]
  pending : w.page.pending = w.display.toList.map fun d => (d.handle, ⟨d.owner, none⟩)
  listeners : w.page.listeners = w.display.toList.flatMap fun d => Callback.keys d.owner d.events
  alive : w.alive = w.display.toList.flatMap fun d =>
    ⟨d.owner, none⟩ :: (Callback.keys d.owner d.events).reverse

/-- No exported call is running, and a display that is bound plays a live
session. -/
structure Settled (w : Widget) : Prop extends Tidy w where
  idle : w.busy = false
  sessions : ∀ viewer, w.session = some viewer → viewer.Begun
  live : w.display.isSome → ∃ player, w.session = some ⟨.live player⟩

theorem Settled.begun {w : Widget} (settled : w.Settled) {player : Player PatternCore Ledger}
    (live : w.session = some ⟨.live player⟩) : player.Begun := by
  obtain gone | ⟨_, same, begun⟩ := settled.sessions _ live
  · cases gone
  · cases same
    exact begun

theorem Tidy.withSession {w : Widget} (h : w.Tidy) (session : Option WidgetSession) :
    Tidy { w with session := session } :=
  ⟨h.granting, h.events, h.pending, h.listeners, h.alive⟩

theorem Tidy.writeAll {w : Widget} (h : w.Tidy) (lines : List PageLine) :
    Tidy { w with page := w.page.writeAll lines } :=
  ⟨h.granting, h.events, h.pending, h.listeners, h.alive⟩

/-- The lines that letting the display go writes. -/
def releaseLines (w : Widget) : List PageLine :=
  w.display.toList.flatMap fun d =>
    .call (.cancel d.handle) :: d.events.map fun event => .call (.unlisten event)

/-- The widget once the display is let go. -/
def released (w : Widget) : Widget :=
  { w with
    display := none
    alive := []
    page := { w.page with pending := [], listeners := [] }.writeAll w.releaseLines }

end Widget

namespace WidgetM

/-! ## Sessions in use -/

/-- The line of the console that a fault report writes. -/
def reportLine (report : Nat × Fault) : PageLine :=
  .call (.error (.faulted report.1 report.2))

theorem eval_announce (reports : List (Nat × Fault)) (w : Widget) :
    eval (announce quiet reports) w =
      ((), { w with page := w.page.writeAll (reports.map reportLine) }) := by
  induction reports generalizing w with
  | nil => simp [announce]
  | cons report reports ih =>
    obtain ⟨tick, fault⟩ := report
    rw [announce, eval_bind, eval_call, ih, Page.writeAll_writeAll]
    rfl

theorem eval_withSession {α : Type} {w : Widget} (idle : w.busy = false)
    (use : WidgetSession → Logged (Except SessionError α × WidgetSession)) :
    eval (withSession quiet use) w =
      match w.session with
      | none => (.error .notStarted, w)
      | some before =>
        ((use before).value.1.mapError .session,
          { w with
            session := some (use before).value.2
            page := w.page.writeAll
              ((newReports before (use before).value.2).map reportLine) }) := by
  obtain ⟨page, session, display, busy, alive, nextOwner⟩ := w
  subst idle
  rw [withSession, eval_guarded_of_idle rfl, eval_bind, eval_get]
  cases session with
  | none => rfl
  | some before => simp only [eval_bind, eval_lift, eval_modify, eval_announce, eval_pure]

/-- An exported call that only uses the session. -/
theorem left_use {e : Export} (use : e.isUse = true) {w : Widget} (idle : w.busy = false) :
    (eval (runExport quiet e) w).2 =
      match w.session with
      | none => w
      | some before =>
        { w with
          session := some (before.played e.actions)
          page := w.page.writeAll
            ((newReports before (before.played e.actions)).map reportLine) } := by
  cases e with
  | init | start | shutdown => cases use
  | tick now =>
    simp only [runExport, eval_bind, eval_pure, eval_withSession idle, ← Viewer.left_tick,
      Export.actions]
    cases w.session <;> rfl
  | button name pressed =>
    simp only [runExport, eval_bind, eval_pure, eval_withSession idle, ← Viewer.left_setButton]
    cases w.session <;> rfl
  | framePointer | frameLength | frameWidth | frameHeight | panel | state =>
    simp only [runExport, readSession, eval_bind, eval_pure, eval_withSession idle, Export.actions,
      Viewer.played_nil]
    cases w.session <;> rfl
  | _ =>
    simp only [runExport, requestSession, eval_bind, eval_pure, eval_withSession idle,
      ← Viewer.left_request, Export.actions]
    cases w.session <;> rfl

@[simp] theorem newReports_self (viewer : WidgetSession) : newReports viewer viewer = [] := by
  unfold newReports
  cases viewer.session.player with
  | none => rfl
  | some player => exact List.drop_length

/-- A request leaves nothing to report. -/
theorem newReports_request (player : Player PatternCore Ledger) (r : Request) :
    newReports ⟨.live player⟩ ⟨.live (player.act (.request r))⟩ = [] := by
  show ((player.request r).value.sink.reports.drop player.sink.reports.length) = []
  rw [Player.value_request]
  exact List.drop_length

/-- The faults that a frame reports are those of its tick. -/
theorem newReports_tick (player : Player PatternCore Ledger) (now : Float) :
    newReports ⟨.live player⟩ ⟨.live (player.act (.tick now))⟩ =
      player.reported.toList.map fun fault => (player.nextCounters.ticks.val, fault) := by
  show ((player.act (.tick now)).sink.reports.drop player.sink.reports.length) = _
  rw [Player.act_tick, Player.reports_next, List.drop_left]

/-- There is nothing to report of a session that has ended. -/
theorem newReports_ended (viewer : WidgetSession) : newReports viewer ⟨.ended⟩ = [] := by
  unfold newReports
  cases viewer.session.player <;> rfl

theorem eval_readSession {α : Type} {w : Widget} (idle : w.busy = false)
    (f : WidgetSession → Except SessionError α) :
    eval (readSession quiet f) w =
      match w.session with
      | none => (.error .notStarted, w)
      | some viewer => ((f viewer).mapError .session, w) := by
  obtain ⟨page, session, display, busy, alive, nextOwner⟩ := w
  rw [readSession, eval_withSession idle]
  cases session with
  | none => rfl
  | some viewer => simp [newReports_self]

/-! ## Displays -/

theorem eval_attempt {w : Widget} (granting : w.page.failing = []) (c : PageCall)
    (effect : Page → Page) :
    eval (attempt quiet c effect) w =
      (.ok (), { w with page := effect (w.page.writeAll [.call c]) }) :=
  eval_attempt_of_granted (fun name _ => by rw [granting]; exact List.not_mem_nil) effect

theorem eval_requestFrame {w : Widget} (granting : w.page.failing = []) (callback : Callback) :
    eval (requestFrame quiet callback) w =
      (.ok w.page.nextRequest,
        { w with
          page := (w.page.writeAll [.call (.request w.page.nextRequest)]).enqueue callback }) := by
  simp only [requestFrame, eval_bind, eval_get, eval_attempt granting, eval_pure]

theorem eval_listenTo {w : Widget} (granting : w.page.failing = []) (owner : Nat)
    (events : List KeyEvent) :
    eval (listenTo quiet owner events) w =
      (.ok (),
        { w with
          alive := (Callback.keys owner events).reverse ++ w.alive
          page :=
            { w.page with listeners := w.page.listeners ++ Callback.keys owner events }.writeAll
              (events.map fun event => .call (.listen event)) }) := by
  induction events generalizing w with
  | nil => simp [listenTo, Callback.keys]
  | cons event events ih =>
    -- The listeners are attached in order; the widget has the last one first.
    simp [listenTo, adopt, eval_attempt, ih, granting, Page.attach, Page.writeAll, Callback.keys]

/-- A display of the usual kind lets go of what belongs to it. -/
theorem eval_unbind {w : Widget} (tidy : w.Tidy) :
    eval (unbind quiet) w = ((), w.released) := by
  obtain ⟨page, session, display, busy, alive, nextOwner⟩ := w
  obtain ⟨hasWindow, hasDocument, elements, failing, listeners, pending, nextRequest, _⟩ := page
  obtain ⟨granting, events, pendingEq, listenersEq, aliveEq⟩ := tidy
  dsimp only at granting events pendingEq listenersEq aliveEq
  subst granting pendingEq listenersEq aliveEq
  cases display with
  | none => simp [unbind, Widget.released, Widget.releaseLines, Page.writeAll]
  | some d =>
    obtain ⟨owner, canvas, kinds, handle⟩ := d
    obtain rfl : kinds = [.down, .up] := events _ rfl
    have lines (transcript : Array PageLine) (a b c : PageLine) :
        ((transcript.push a).push b).push c = transcript ++ #[a, b, c] := Array.ext' (by simp)
    simp [unbind, releaseDisplay, eval_attempt, releaseListeners, abandon, Page.withdraw,
      Page.detach, Widget.released, Widget.releaseLines, Callback.keys, Page.writeAll, lines]

theorem eval_unbind_of_free {w : Widget} (free : w.display = none) :
    eval (unbind quiet) w = ((), w) := by
  simp only [unbind, eval_bind, eval_get, free, eval_pure]

end WidgetM

namespace Widget

/-- The lines that a successful start writes. -/
def bindLines (w : Widget) (id : String) (screen : Screen) : List PageLine :=
  let columns := UInt32.ofNat screen.width
  let rows := UInt32.ofNat screen.height
  [.call (.context id), .call (.width id columns), .call (.height id rows)] ++ w.releaseLines ++
    [.call (.listen .down), .call (.listen .up), .call (.request w.page.nextRequest),
      .call (.log (.bound id columns rows))]

/-- The widget once a display is bound to the canvas with the given id. -/
def bound (w : Widget) (id : String) (screen : Screen) : Widget :=
  let keys := Callback.keys w.nextOwner [.down, .up]
  { w with
    page :=
      { w.page with
        listeners := keys
        pending := [(w.page.nextRequest, ⟨w.nextOwner, none⟩)]
        nextRequest := w.page.nextRequest + 1 }.writeAll (w.bindLines id screen)
    display := some ⟨w.nextOwner, id, [.down, .up], w.page.nextRequest⟩
    alive := ⟨w.nextOwner, none⟩ :: keys.reverse
    nextOwner := w.nextOwner + 1 }

/-- The widget once a session over the given player is started. -/
def begun (w : Widget) (rom : Bytes) (player : Player PatternCore Ledger) : Widget :=
  { w with
    session := some ⟨.live player⟩
    page := w.page.writeAll [.call (.log (.sessionStarted rom.size))] }

/-- The lines that one frame of a canvas writes when its tick brings a player to
the next state: the faults of the tick, and the one image drawn. -/
def pictureLines (canvas : String) (player next : Player PatternCore Ledger) : List PageLine :=
  (WidgetM.newReports ⟨.live player⟩ ⟨.live next⟩).map WidgetM.reportLine ++
    [.call (.image (UInt32.ofNat next.screen.width) (UInt32.ofNat next.screen.height)),
      .call (.put canvas next.screen.pixels)]

/-- The widget once a frame of its display was called back. -/
def drawn (w : Widget) (d : Display) (player : Player PatternCore Ledger) (now : Float) : Widget :=
  let next := player.act (.tick now)
  { w with
    session := some ⟨.live next⟩
    display := some { d with handle := w.page.nextRequest }
    page :=
      { w.page with
        pending := [(w.page.nextRequest, ⟨d.owner, none⟩)]
        nextRequest := w.page.nextRequest + 1 }.writeAll
          (pictureLines d.canvas player next ++ [PageLine.call (.request w.page.nextRequest)]) }

end Widget

namespace WidgetM

/-! ## Exported calls -/

theorem eval_start {w : Widget} (settled : w.Settled) (id : String) :
    eval (start quiet id) w =
      match w.page.obstacle? id with
      | some e => (.error e, { w with page := w.page.writeAll (w.page.searchLines id) })
      | none =>
        match w.session.map Viewer.canvas with
        | none => (.error .notStarted, { w with page := w.page.writeAll (w.page.searchLines id) })
        | some (.error e) =>
          (.error (.session e), { w with page := w.page.writeAll (w.page.searchLines id) })
        | some (.ok screen) => (.ok (), w.bound id screen) := by
  obtain ⟨page, session, display, busy, alive, nextOwner⟩ := w
  rw [start, eval_bind, eval_findCanvas]
  cases found : page.obstacle? id with
  | some e => rfl
  | none =>
    dsimp only
    rw [eval_bind, eval_readSession (by exact settled.idle)]
    cases session with
    | none => rfl
    | some viewer =>
      cases canvas : viewer.canvas with
      | error e => simp [canvas]
      | ok screen =>
        simp only [canvas, Option.map_some, mapError_ok, eval_bind, eval_call,
          Page.writeAll_writeAll]
        -- The display bound before is let go first; the second release finds none.
        rw [eval_unbind (settled.writeAll _)]
        simp only [eval_get, eval_modify]
        rw [eval_listenTo (by exact settled.granting)]
        simp only [adopt, eval_bind, eval_modify]
        rw [eval_requestFrame (by exact settled.granting)]
        simp only [eval_bind]
        rw [eval_unbind_of_free (by rfl)]
        simp [Widget.bound, Widget.released, Page.enqueue, Page.writeAll, Widget.bindLines,
          Widget.releaseLines, Page.searchLines_of_obstacle? found]

theorem eval_init {w : Widget} (idle : w.busy = false) (rom : Bytes) (debug : Bool) :
    eval (init quiet rom debug) w =
      match (PatternCore.load rom).value with
      | .error reason => (.error (.session (.cartridge reason)), w)
      | .ok core => (.ok (), w.begun rom (.start core {} default { debug })) := by
  obtain ⟨page, session, display, busy, alive, nextOwner⟩ := w
  subst idle
  have created := Viewer.value_create rom default { debug }
  rw [init, eval_guarded_of_idle rfl, eval_bind, eval_lift, created]
  cases (PatternCore.load rom).value with
  | error reason => rfl
  | ok core => cases session <;> simp [Widget.begun]

theorem eval_shutdown {w : Widget} (settled : w.Settled) :
    eval (shutdown quiet) w =
      match w.session with
      | none => (.error .notStarted, w)
      | some viewer =>
        (.ok viewer.session.isLive, { w.released with session := some ⟨.ended⟩ }) := by
  rw [shutdown, eval_bind, eval_withSession settled.idle]
  cases session : w.session with
  | none => rfl
  | some viewer =>
    have ended := (settled.sessions viewer session).value_shutdown
    simp only [Logged.value_bind, Logged.value_pure, ended, newReports_ended, List.map_nil,
      Page.writeAll_nil, mapError_ok, eval_bind, eval_pure]
    rw [eval_unbind (settled.withSession _)]
    rfl

/-! ## Callbacks -/

theorem value_onFrame_live (player : Player PatternCore Ledger) (now : Float) :
    (Viewer.onFrame (⟨.live player⟩ : WidgetSession) now).value =
      (.ok true, ⟨.live (player.act (.tick now))⟩) := by
  simp only [Viewer.onFrame, Viewer.tick, Session.isLive, Session.withPlayer, Session.live,
      Option.isSome_some, if_true, Logged.value_bind, Logged.value_pure]
  rfl

/-- A frame of a display that plays a live session ticks once and draws once. -/
theorem eval_drawFrame {w : Widget} (granting : w.page.failing = []) (idle : w.busy = false)
    {d : Display} (shown : w.display = some d) {player : Player PatternCore Ledger}
    (live : w.session = some ⟨.live player⟩) (now : Float) :
    let next := player.act (.tick now)
    eval (drawFrame quiet now) w =
      (.ok true,
        { w with
          session := some ⟨.live next⟩
          page := w.page.writeAll (Widget.pictureLines d.canvas player next) }) := by
  intro next
  have ticked : (Viewer.onFrame (⟨.live player⟩ : WidgetSession) now).value =
      (.ok true, ⟨.live next⟩) := value_onFrame_live player now
  obtain ⟨page, session, display, busy, alive, nextOwner⟩ := w
  dsimp only at granting idle shown live
  subst idle shown live
  rw [drawFrame, eval_bind, eval_withSession (by rfl)]
  simp only [ticked, mapError_ok, eval_bind, eval_get]
  rw [eval_guarded_of_idle (by rfl)]
  have canvas : Viewer.canvas (⟨.live next⟩ : WidgetSession) = .ok next.screen := rfl
  simp only [eval_bind, eval_get, canvas]
  rw [eval_attempt (by exact granting)]
  simp only [eval_bind]
  rw [eval_attempt (by exact granting)]
  simp [Widget.pictureLines]

/-- A display refresh calls the frame of a display that is bound, and of none
else. -/
theorem eval_frame_of_bound {w : Widget} (settled : w.Settled) {d : Display}
    (shown : w.display = some d) {player : Player PatternCore Ledger}
    (live : w.session = some ⟨.live player⟩) (now : Float) :
    eval (step quiet (.frame now)) w = (.fired 1, w.drawn d player now) := by
  obtain ⟨⟨granting, -, pending, -, alive⟩, idle, -, -⟩ := settled
  rw [shown] at pending alive
  have standing : (⟨d.owner, none⟩ : Callback) ∈ w.alive := by
    rw [alive]
    exact List.mem_cons_self
  rw [step, eval_bind, eval_get, pending]
  simp only [Option.toList_some, List.map_cons, List.map_nil, eval_bind, eval_onPage, callFrames,
    callBack, eval_get, standing, if_true, callFrame, eval_pure]
  rw [eval_drawFrame (by exact granting) (by exact idle) (by exact shown) (by exact live)]
  simp only [eval_bind, eval_get, standing, if_true]
  rw [eval_requestFrame (by exact granting)]
  simp [Widget.drawn, shown, Page.enqueue, Page.writeAll]

theorem eval_frame_of_free {w : Widget} (settled : w.Settled) (free : w.display = none)
    (now : Float) : eval (step quiet (.frame now)) w = (.fired 0, w) := by
  have pending := settled.pending
  rw [free] at pending
  obtain ⟨page, session, display, busy, alive, nextOwner⟩ := w
  obtain ⟨hasWindow, hasDocument, elements, failing, listeners, _, nextRequest, transcript⟩ := page
  obtain rfl : _ = [] := pending
  rfl

/-- A key event calls the one listener of a display that is bound. -/
theorem eval_key_of_bound {w : Widget} (settled : w.Settled) {d : Display}
    (shown : w.display = some d) {player : Player PatternCore Ledger}
    (live : w.session = some ⟨.live player⟩) (event : KeyEvent) (code : UInt32) :
    eval (step quiet (.key event code)) w =
      (.fired 1,
        { w with
          session := some ⟨.live (player.act (.request (.key code event.pressed)))⟩ }) := by
  obtain ⟨⟨granting, events, -, listeners, alive⟩, idle, -, -⟩ := settled
  rw [shown, Option.toList_some, List.flatMap_singleton, events d shown] at listeners alive
  have attached : w.page.listenersFor event = [⟨d.owner, some event⟩] := by
    rw [Page.listenersFor, listeners]
    cases event <;> rfl
  have standing : (⟨d.owner, some event⟩ : Callback) ∈ w.alive := by
    rw [alive]
    cases event <;> simp [Callback.keys]
  rw [step, eval_bind, eval_get, attached]
  simp only [eval_bind, callListeners, callBack, eval_get, standing, if_true,
    callListener, requestSession, eval_pure]
  rw [eval_withSession idle, live]
  have pressed : (Viewer.request (⟨.live player⟩ : WidgetSession) (.key code event.pressed)).value =
      (.ok (), ⟨.live (player.act (.request (.key code event.pressed)))⟩) := rfl
  simp only [pressed, newReports_request, mapError_ok, List.map_nil, Page.writeAll_nil,
    eval_pure]
  rfl

theorem eval_key_of_free {w : Widget} (settled : w.Settled) (free : w.display = none)
    (event : KeyEvent) (code : UInt32) :
    eval (step quiet (.key event code)) w = (.fired 0, w) := by
  have listeners := settled.listeners
  rw [free] at listeners
  have attached : w.page.listenersFor event = [] := by
    rw [Page.listenersFor, listeners]
    rfl
  rw [step, eval_bind, eval_get, attached]
  rfl

end WidgetM

end HandheldHost
