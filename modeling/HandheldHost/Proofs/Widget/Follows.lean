import HandheldHost.Proofs.Widget.Alike
import HandheldHost.Proofs.Widget.SessionMoves

/-!
# How a widget moves its session

As far as the session, the log and the guard are concerned, every computation of
a widget is made of the moves of its session.  What the page does inside the
calls of the widget may be anything, as long as it is made of moves as well.

* `WidgetM.Follows` -- a computation that is made of moves of some kind;
  `WidgetM.follows_step` -- every step on the page is one, and one lemma for
  each computation of a widget leads there.
* `WidgetM.led_init`, `WidgetM.led_shutdown` -- the move that comes first.
* `WidgetM.aloof`, `WidgetM.lively` -- pages that keep to themselves, and pages
  that call back.
-/

namespace HandheldHost

open SessionMove

/-- The moves lead from one widget to another and log the given events.  The
guard is as it was. -/
structure Widget.Led (moves : List SessionMove) (w : Widget) (events : List Event) (v : Widget) :
    Prop where
  busy_eq : v.busy = w.busy
  session_eq : runAll moves w.session = ⟨v.session, events⟩

namespace Widget.Led

theorem refl (w : Widget) : Led [] w [] w := ⟨rfl, rfl⟩

theorem trans {moves more : List SessionMove} {w v u : Widget} {events others : List Event}
    (h : Led moves w events v) (h' : Led more v others u) :
    Led (moves ++ more) w (events ++ others) u where
  busy_eq := h'.busy_eq.trans h.busy_eq
  session_eq := by
    rw [runAll_append, h.session_eq]
    exact Logged.ext (by simp only [Logged.value_bind, h'.session_eq])
      (by simp only [Logged.events_bind, h'.session_eq])

end Widget.Led

namespace WidgetM

open Widget

variable {α β : Type}

/-! ## What a computation logs -/

/-- The events that a computation logs. -/
def events (x : WidgetM α) (w : Widget) : List Event := (x.run w).events

@[simp] theorem events_pure (a : α) (w : Widget) : events (pure a) w = [] := rfl

@[simp] theorem events_bind (x : WidgetM α) (f : α → WidgetM β) (w : Widget) :
    events (x >>= f) w = events x w ++ events (f (eval x w).1) (eval x w).2 := rfl

@[simp] theorem events_map (f : α → β) (x : WidgetM α) (w : Widget) :
    events (f <$> x) w = events x w :=
  List.append_nil _

@[simp] theorem events_get (w : Widget) : events get w = [] := rfl

@[simp] theorem events_modify (f : Widget → Widget) (w : Widget) : events (modify f) w = [] := rfl

@[simp] theorem events_lift (x : Logged α) (w : Widget) : events (liftM x) w = x.events :=
  List.append_nil _

theorem events_guarded_of_busy {w : Widget} (busy : w.busy = true)
    (body : WidgetM (Except Thrown α)) : events (guarded body) w = [] := by
  simp [guarded, busy]

theorem events_guarded_of_idle {w : Widget} (idle : w.busy = false)
    (body : WidgetM (Except Thrown α)) :
    events (guarded body) w = events body { w with busy := true } := by
  simp [guarded, idle]

/-! ## Computations made of moves -/

/-- As far as session, log and guard are concerned, the computation is made of
moves of the kind allowed. -/
def Follows (allowed : SessionMove → Prop) (x : WidgetM α) : Prop :=
  ∀ w, ∃ moves, (∀ m ∈ moves, allowed m) ∧ Led moves w (events x w) (eval x w).2

variable {allowed : SessionMove → Prop}

namespace Follows

theorem pure (a : α) : Follows allowed (Pure.pure a : WidgetM α) :=
  fun w => ⟨[], nofun, .refl w⟩

theorem bind {x : WidgetM α} {f : α → WidgetM β} (h : Follows allowed x)
    (h' : ∀ a, Follows allowed (f a)) : Follows allowed (x >>= f) := by
  intro w
  obtain ⟨moves, ok, led⟩ := h w
  obtain ⟨more, ok', led'⟩ := h' (eval x w).1 (eval x w).2
  exact ⟨moves ++ more, List.forall_mem_append.mpr ⟨ok, ok'⟩, led.trans led'⟩

theorem get {f : Widget → WidgetM α} (h : ∀ w, Follows allowed (f w)) :
    Follows allowed (MonadState.get >>= f) :=
  fun w => h w w

/-- A change of something else. -/
theorem change {f : Widget → Widget}
    (aside : ∀ w, (f w).busy = w.busy ∧ (f w).session = w.session) :
    Follows allowed (modify f : WidgetM Unit) := by
  intro w
  obtain ⟨busy, session⟩ := aside w
  exact ⟨[], nofun, busy, congrArg Pure.pure session.symm⟩

theorem change_bind {f : Widget → Widget} {x : WidgetM α}
    (aside : ∀ w, (f w).busy = w.busy ∧ (f w).session = w.session) (h : Follows allowed x) :
    Follows allowed (do modify f; x) :=
  (change aside).bind fun _ => h

theorem guarded {x : WidgetM (Except Thrown α)} (h : Follows allowed x) :
    Follows allowed (guarded x) := by
  intro w
  cases guard : w.busy with
  | true =>
    rw [eval_guarded_of_busy guard, events_guarded_of_busy guard]
    exact ⟨[], List.forall_mem_nil _, .refl w⟩
  | false =>
    rw [eval_guarded_of_idle guard, events_guarded_of_idle guard]
    obtain ⟨moves, ok, -, session_eq⟩ := h { w with busy := true }
    exact ⟨moves, ok, guard.symm, session_eq⟩

end Follows

/-! ## Uses of a session -/

/-- A use of a session comes to the given moves, and there are none without a
session. -/
structure Uses (moves : List SessionMove)
    (use : WidgetSession → Logged (Except SessionError α × WidgetSession)) : Prop where
  absent : runAll moves none = pure none
  present : ∀ viewer, runAll moves (some viewer) = ⟨some (use viewer).value.2, (use viewer).events⟩

namespace Uses

theorem reading (f : WidgetSession → Except SessionError α) :
    Uses [] fun viewer => pure (f viewer, viewer) :=
  ⟨rfl, fun _ => rfl⟩

theorem tick (now : Float) : Uses [.act (.tick now)] fun viewer => viewer.tick now where
  absent := rfl
  present viewer := by
    rw [runAll_singleton]
    exact Logged.ext rfl (List.append_nil _)

theorem request (r : Request) : Uses [.act (.request r)] fun viewer => viewer.request r where
  absent := rfl
  present viewer := by
    rw [runAll_singleton]
    exact Logged.ext rfl (List.append_nil _)

theorem setButton (name : String) (pressed : Bool) :
    Uses ((Export.button name pressed).actions.map .act)
      fun viewer => viewer.setButton name pressed := by
  simp only [Viewer.setButton, Export.actions]
  cases Button.ofName? name with
  | none => exact reading _
  | some button =>
    refine ⟨rfl, fun viewer => ?_⟩
    rw [Option.map_some, Option.toList_some, List.map_singleton, runAll_singleton]
    rfl

theorem onFrame (now : Float) : Uses [.act (.tick now)] fun viewer => viewer.onFrame now where
  absent := rfl
  present viewer := by
    rw [runAll_singleton]
    obtain ⟨_ | player, releases⟩ := viewer <;> rfl

theorem shutdown : Uses [.shutdown] fun viewer => do
    let (released, viewer) ← viewer.shutdown
    pure (.ok released, viewer) where
  absent := rfl
  present _ := by
    rw [runAll_singleton]
    rfl

end Uses

/-! ## The computations of a widget -/

theorem follows_write (line : PageLine) : Follows allowed (write line) :=
  .change fun _ => ⟨rfl, rfl⟩

theorem follows_adopt (callback : Callback) : Follows allowed (adopt callback) :=
  .change fun _ => ⟨rfl, rfl⟩

theorem follows_abandon (callback : Callback) : Follows allowed (abandon callback) :=
  .change fun _ => ⟨rfl, rfl⟩

section

variable {notify : PageCall → WidgetM Unit} (inside : ∀ c, Follows allowed (notify c))
include inside

theorem follows_call (c : PageCall) : Follows allowed (call notify c) :=
  (follows_write _).bind fun _ => inside c

theorem follows_attempt (c : PageCall) (effect : Page → Page) :
    Follows allowed (attempt notify c effect) := by
  have granted : Follows allowed (do onPage effect; return .ok () : WidgetM (Except Thrown Unit)) :=
    .change_bind (fun _ => ⟨rfl, rfl⟩) (.pure _)
  refine (follows_call inside c).bind fun _ => ?_
  cases c.fallible? with
  | none => exact granted
  | some name =>
    refine .get fun w => ?_
    split
    · exact .pure _
    · exact granted

theorem follows_requestFrame (callback : Callback) :
    Follows allowed (requestFrame notify callback) := by
  refine .get fun w => (follows_attempt inside _ _).bind fun r => ?_
  cases r <;> exact .pure _

theorem follows_releaseListeners (owner : Nat) (events : List KeyEvent) :
    Follows allowed (releaseListeners notify owner events) := by
  induction events with
  | nil => exact .pure _
  | cons event events ih =>
    refine (follows_attempt inside _ _).bind fun r => ?_
    cases r with
    | error e => exact (follows_call inside _).bind fun _ => (follows_abandon _).bind fun _ => ih
    | ok _ => exact (follows_abandon _).bind fun _ => ih

theorem follows_releaseDisplay (display : Display) :
    Follows allowed (releaseDisplay notify display) := by
  refine (follows_attempt inside _ _).bind fun r => ?_
  have rest := (follows_releaseListeners inside display.owner display.events).bind
    fun _ => follows_abandon ⟨display.owner, none⟩
  cases r with
  | error e => exact (follows_call inside _).bind fun _ => rest
  | ok _ => exact rest

theorem follows_unbind : Follows allowed (unbind notify) := by
  refine .get fun w => ?_
  cases w.display with
  | none => exact .pure _
  | some display =>
    exact .change_bind (fun _ => ⟨rfl, rfl⟩) (follows_releaseDisplay inside display)

theorem follows_announce (reports : List (Nat × Fault)) :
    Follows allowed (announce notify reports) := by
  induction reports with
  | nil => exact .pure _
  | cons report reports ih => exact (follows_call inside _).bind fun _ => ih

/-- An exported call that runs alone and uses the session makes the moves of
the use first. -/
theorem led_withSession {use : WidgetSession → Logged (Except SessionError α × WidgetSession)}
    {moves : List SessionMove} (uses : Uses moves use) {w : Widget} (idle : w.busy = false) :
    ∃ rest, (∀ m ∈ rest, allowed m) ∧
      Led (moves ++ rest) w (events (withSession notify use) w)
        (eval (withSession notify use) w).2 := by
  rw [withSession, eval_guarded_of_idle idle, events_guarded_of_idle idle]
  obtain ⟨page, _ | before, display, busy, alive, nextOwner⟩ := w
  · exact ⟨[], List.forall_mem_nil _, idle.symm, by rw [List.append_nil]; exact uses.absent⟩
  · have first : Led moves ⟨page, some before, display, true, alive, nextOwner⟩ (use before).events
        ⟨page, some (use before).value.2, display, true, alive, nextOwner⟩ :=
      ⟨rfl, uses.present before⟩
    obtain ⟨rest, ok, second⟩ :=
      follows_announce inside (newReports before (use before).value.2)
        ⟨page, some (use before).value.2, display, true, alive, nextOwner⟩
    refine ⟨rest, ok, idle.symm, (first.trans second).session_eq.trans (Logged.ext rfl ?_)⟩
    simp

theorem follows_withSession
    {use : WidgetSession → Logged (Except SessionError α × WidgetSession)}
    {moves : List SessionMove} (uses : Uses moves use) (ok : ∀ m ∈ moves, allowed m) :
    Follows allowed (withSession notify use) := by
  intro w
  cases guard : w.busy with
  | true =>
    rw [withSession, eval_guarded_of_busy guard, events_guarded_of_busy guard]
    exact ⟨[], List.forall_mem_nil _, .refl w⟩
  | false =>
    obtain ⟨rest, ok', led⟩ := led_withSession inside uses guard
    exact ⟨moves ++ rest, List.forall_mem_append.mpr ⟨ok, ok'⟩, led⟩

theorem follows_drawFrame (acts : ∀ a, allowed (.act a)) (now : Float) :
    Follows allowed (drawFrame notify now) := by
  refine (follows_withSession inside (.onFrame now) (by simp [acts])).bind fun r => ?_
  rcases r with e | _ | _
  · exact .pure _
  · exact .pure _
  · refine .get fun w => ?_
    cases w.display with
    | none => exact .pure _
    | some display =>
      refine .guarded (.get fun w => ?_)
      cases w.session with
      | none => exact .pure _
      | some session =>
        dsimp only
        cases session.canvas with
        | error e => exact .pure _
        | ok screen =>
          refine (follows_attempt inside _ _).bind fun r => ?_
          cases r with
          | error e => exact .pure _
          | ok _ =>
            refine (follows_attempt inside _ _).bind fun r => ?_
            cases r <;> exact .pure _

theorem follows_callFrame (acts : ∀ a, allowed (.act a)) (owner : Nat) (now : Float) :
    Follows allowed (callFrame notify owner now) := by
  refine (follows_drawFrame inside acts now).bind fun r => ?_
  rcases r with e | _ | _
  · exact follows_call inside _
  · exact follows_call inside _
  · refine .get fun w => ?_
    split
    · refine (follows_requestFrame inside _).bind fun r => ?_
      cases r with
      | error e => exact follows_call inside _
      | ok id => exact .change fun _ => ⟨rfl, rfl⟩
    · exact .pure _

theorem follows_callListener (acts : ∀ a, allowed (.act a)) (event : KeyEvent) (code : UInt32) :
    Follows allowed (callListener notify event code) := by
  refine (follows_withSession inside (.request _) (by simp [acts])).bind fun r => ?_
  cases r with
  | error e => exact follows_call inside _
  | ok _ => exact .pure _

theorem follows_listenTo (owner : Nat) (events : List KeyEvent) :
    Follows allowed (listenTo notify owner events) := by
  induction events with
  | nil => exact .pure _
  | cons event events ih =>
    refine (follows_adopt _).bind fun _ => (follows_attempt inside _ _).bind fun r => ?_
    cases r with
    | error e => exact (follows_abandon _).bind fun _ => .pure _
    | ok _ =>
      refine ih.bind fun r => ?_
      cases r with
      | error e => exact (follows_abandon _).bind fun _ => .pure _
      | ok _ => exact .pure _

theorem follows_findCanvas (id : String) : Follows allowed (findCanvas notify id) := by
  refine .get fun w => ?_
  dsimp only
  split
  · exact .pure _
  · split
    · exact .pure _
    · rcases w.page.element? id with _ | context | _
      · exact .pure _
      · refine (follows_attempt inside _ _).bind fun r => ?_
        cases r with
        | error e => exact .pure _
        | ok _ => cases context <;> exact .pure _
      · exact .pure _

theorem follows_start (id : String) : Follows allowed (start notify id) := by
  refine (follows_findCanvas inside id).bind fun r => ?_
  cases r with
  | error e => exact .pure _
  | ok _ =>
    refine (follows_withSession inside (.reading _) nofun).bind fun r => ?_
    cases r with
    | error e => exact .pure _
    | ok screen =>
      refine (follows_call inside _).bind fun _ => (follows_call inside _).bind fun _ =>
        (follows_unbind inside).bind fun _ => .get fun w => ?_
      refine .change_bind (fun _ => ⟨rfl, rfl⟩) ?_
      refine (follows_listenTo inside _ _).bind fun r => ?_
      cases r with
      | error e => exact .pure _
      | ok _ =>
        refine (follows_adopt _).bind fun _ => (follows_requestFrame inside _).bind fun r => ?_
        cases r with
        | error e =>
          -- The two listeners and the frame are abandoned, in this order.
          exact (follows_abandon _).bind fun _ => (follows_abandon _).bind fun _ =>
            (follows_abandon _).bind fun _ => .pure _
        | ok handle =>
          exact (follows_unbind inside).bind fun _ => .change_bind (fun _ => ⟨rfl, rfl⟩)
            ((follows_call inside _).bind fun _ => .pure _)

/-- An exported call that runs alone and starts a session makes that move
first. -/
theorem led_init (rom : Bytes) (debug : Bool) {w : Widget} (idle : w.busy = false) :
    ∃ rest, (∀ m ∈ rest, allowed m) ∧
      Led (.start rom debug :: rest) w (events (init notify rom debug) w)
        (eval (init notify rom debug) w).2 := by
  obtain ⟨page, session, display, busy, alive, nextOwner⟩ := w
  rcases Nat.lt_or_ge rom.size PatternCore.minimumRom with small | large
  · obtain ⟨reason, refused⟩ := PatternCore.load_of_small small
    refine ⟨[], nofun, ?_⟩
    simp only [init, eval_guarded_of_idle idle, events_guarded_of_idle idle,
      Viewer.create_of_refused refused]
    exact ⟨idle.symm, by rw [runAll_singleton, run_start_of_refused refused]; rfl⟩
  · -- The session is in place, and the one before is shut down, when the page is called.
    let fresh : WidgetSession := ⟨.live (.start (.boot rom) {} default { debug })⟩
    obtain ⟨rest, ok, second⟩ := follows_call inside (.log (.sessionStarted rom.size))
      ⟨page, some fresh, display, true, alive, nextOwner⟩
    have first : Led [.start rom debug] ⟨page, session, display, true, alive, nextOwner⟩
        ([.patternLoaded rom.size, .sessionStarted rom.size] ++ ending session)
        ⟨page, some fresh, display, true, alive, nextOwner⟩ :=
      ⟨rfl, by rw [runAll_singleton, run_start_of_large large]⟩
    refine ⟨rest, ok, ?_⟩
    simp only [init, eval_guarded_of_idle idle, events_guarded_of_idle idle,
      Viewer.create_of_large large]
    refine ⟨idle.symm, (first.trans second).session_eq.trans (Logged.ext ?_ ?_)⟩ <;>
      cases session <;> simp [fresh, events_shutdown, ending, player?]

/-- An exported call that runs alone and shuts the session down makes that
move first. -/
theorem led_shutdown {w : Widget} (idle : w.busy = false) :
    ∃ rest, (∀ m ∈ rest, allowed m) ∧
      Led (.shutdown :: rest) w (events (shutdown notify) w) (eval (shutdown notify) w).2 := by
  obtain ⟨rest, ok, first⟩ := led_withSession inside .shutdown idle
  rw [shutdown, eval_bind, events_bind]
  split
  · exact ⟨rest, ok, by rwa [events_pure, List.append_nil]⟩
  · obtain ⟨more, ok', second⟩ := follows_unbind inside (eval (withSession notify _) w).2
    refine ⟨rest ++ more, List.forall_mem_append.mpr ⟨ok, ok'⟩, ?_⟩
    simpa using first.trans second

end

end WidgetM

/-- The move that an exported call makes whatever the session is: none unless
it starts or ends one. -/
def Export.lifeMove? : Export → Option SessionMove
  | .init rom debug => some (.start rom debug)
  | .shutdown => some .shutdown
  | _ => none

/-- The move that a step on a page makes whatever the session is. -/
def PageStep.lifeMove? : PageStep → Option SessionMove
  | .export e => e.lifeMove?
  | _ => none

namespace WidgetM

open Widget

variable {allowed : SessionMove → Prop}

section

variable {notify : PageCall → WidgetM Unit} (inside : ∀ c, Follows allowed (notify c))
include inside

theorem follows_init (rom : Bytes) (debug : Bool) (ok : allowed (.start rom debug)) :
    Follows allowed (init notify rom debug) := by
  intro w
  cases guard : w.busy with
  | true =>
    rw [init, eval_guarded_of_busy guard, events_guarded_of_busy guard]
    exact ⟨[], List.forall_mem_nil _, .refl w⟩
  | false =>
    obtain ⟨rest, ok', led⟩ := led_init inside rom debug guard
    exact ⟨_, List.forall_mem_cons.mpr ⟨ok, ok'⟩, led⟩

theorem follows_shutdown (ok : allowed .shutdown) : Follows allowed (shutdown notify) := by
  refine (follows_withSession inside .shutdown (by simpa)).bind fun r => ?_
  cases r with
  | error e => exact .pure _
  | ok released => exact (follows_unbind inside).bind fun _ => .pure _

theorem follows_runExport (acts : ∀ a, allowed (.act a)) (e : Export)
    (ok : ∀ m, e.lifeMove? = some m → allowed m) : Follows allowed (runExport notify e) := by
  have act (a : Action) : ∀ m ∈ [SessionMove.act a], allowed m := by simp [acts]
  cases e with
  | init rom debug => exact (follows_init inside rom debug (ok _ rfl)).bind fun _ => .pure _
  | shutdown => exact (follows_shutdown inside (ok _ rfl)).bind fun _ => .pure _
  | start id => exact (follows_start inside id).bind fun _ => .pure _
  | tick now => exact (follows_withSession inside (.tick now) (act _)).bind fun _ => .pure _
  | button name pressed =>
    exact (follows_withSession inside (.setButton name pressed) (by simp [acts])).bind
      fun _ => .pure _
  | key | togglePause | setPaused | stepFrame | stepInstruction | toggleDebug =>
    exact (follows_withSession inside (.request _) (act _)).bind fun _ => .pure _
  | framePointer | frameLength | frameWidth | frameHeight | panel | state =>
    exact (follows_withSession inside (.reading _) nofun).bind fun _ => .pure _

omit inside in
theorem follows_callBack (callback : Callback) {x : WidgetM Unit} (h : Follows allowed x) :
    Follows allowed (callBack callback x) := by
  refine .get fun w => ?_
  split
  · exact h
  · exact follows_write _

theorem follows_callFrames (acts : ∀ a, allowed (.act a)) (now : Float)
    (requests : List (Nat × Callback)) : Follows allowed (callFrames notify now requests) := by
  induction requests with
  | nil => exact .pure _
  | cons request requests ih =>
    exact (follows_callBack _ (follows_callFrame inside acts _ now)).bind fun _ => ih

theorem follows_callListeners (acts : ∀ a, allowed (.act a)) (event : KeyEvent) (code : UInt32)
    (callbacks : List Callback) : Follows allowed (callListeners notify event code callbacks) := by
  induction callbacks with
  | nil => exact .pure _
  | cons callback callbacks ih =>
    exact (follows_callBack _ (follows_callListener inside acts event code)).bind fun _ => ih

/-- **A step on the page is made of moves**: of acts, and of the one move that
starts or ends a session if the step is a call that does, if what the page does
inside the calls of the widget is made of such moves. -/
theorem follows_step (acts : ∀ a, allowed (.act a)) (s : PageStep)
    (ok : ∀ m, s.lifeMove? = some m → allowed m) : Follows allowed (step notify s) := by
  cases s with
  | «export» e => exact follows_runExport inside acts e ok
  | frame now =>
    refine .get fun w => .change_bind (fun _ => ⟨rfl, rfl⟩) ?_
    exact (follows_callFrames inside acts now _).bind fun _ => .pure _
  | key event code =>
    exact .get fun w => (follows_callListeners inside acts event code _).bind fun _ => .pure _
  | fail calls => exact .change_bind (fun _ => ⟨rfl, rfl⟩) (.pure _)

theorem follows_stepAll (acts : ∀ a, allowed (.act a)) (steps : List PageStep)
    (ok : ∀ s ∈ steps, ∀ m, s.lifeMove? = some m → allowed m) :
    Follows allowed (stepAll notify steps) := by
  induction steps with
  | nil => exact .pure _
  | cons s steps ih =>
    obtain ⟨ok, rest⟩ := List.forall_mem_cons.mp ok
    exact (follows_step inside acts s ok).bind fun _ => (ih rest).bind fun _ => .pure _

end

/-! ## What exported calls answer -/

section

variable {α : Type} (notify : PageCall → WidgetM Unit) {w : Widget} (idle : w.busy = false)
include idle

/-- What the page does inside the calls has no part in the result of a use. -/
theorem result_withSession (use : WidgetSession → Logged (Except SessionError α × WidgetSession)) :
    (eval (withSession notify use) w).1 =
      match w.session with
      | none => .error .notStarted
      | some viewer => (use viewer).value.1.mapError .session := by
  rw [withSession, eval_guarded_of_idle idle]
  obtain ⟨page, _ | viewer, display, busy, alive, nextOwner⟩ := w <;> rfl

theorem result_init_of_large {rom : Bytes} (large : PatternCore.minimumRom ≤ rom.size)
    (debug : Bool) : (eval (init notify rom debug) w).1 = .ok () := by
  simp only [init, eval_guarded_of_idle idle, Viewer.create_of_large large]
  obtain ⟨page, _ | previous, display, busy, alive, nextOwner⟩ := w <;> rfl

/-- An image that is refused leaves the widget alone, and nothing is logged. -/
theorem run_init_of_refused {rom : Bytes} {reason : CartridgeError}
    (refused : PatternCore.load rom = pure (.error reason)) (debug : Bool) :
    (init notify rom debug).run w = pure (.error (.session (.cartridge reason)), w) := by
  obtain ⟨page, session, display, busy, alive, nextOwner⟩ := w
  obtain rfl : busy = false := idle
  simp only [init, guarded, Viewer.create_of_refused refused]
  rfl

theorem result_shutdown :
    (eval (shutdown notify) w).1 =
      match w.session with
      | none => .error .notStarted
      | some viewer => .ok viewer.session.isLive := by
  rw [shutdown, eval_bind, result_withSession notify idle]
  cases w.session with
  | none => rfl
  | some viewer =>
    obtain ⟨_ | player, releases⟩ := viewer <;> rfl

end

/-! ## Pages -/

/-- A page that reacts to the calls of the widget in any way, but never calls
back from inside one. -/
def aloof (react : PageCall → Page → Page) (c : PageCall) : WidgetM Unit := onPage (react c)

/-- Takes steps in the middle of a call. -/
def interruptAll (notify : PageCall → WidgetM Unit) : List PageStep → WidgetM Unit
  | [] => pure ()
  | s :: steps => do
    let answer ← step notify s
    write (.interrupted answer)
    interruptAll notify steps

/-- A page that reacts to the calls of the widget in any way, and takes steps
of its own inside them.  Which ones may depend on everything there is.  Inside
the calls of those steps it does so again, down to the given depth. -/
def lively (react : PageCall → Page → Page) (choose : PageCall → Widget → List PageStep) :
    Nat → PageCall → WidgetM Unit
  | 0, c => aloof react c
  | depth + 1, c => do
    aloof react c
    let w ← get
    interruptAll (lively react choose depth) (choose c w)

theorem follows_aloof (react : PageCall → Page → Page) (c : PageCall) :
    Follows allowed (aloof react c) :=
  .change fun _ => ⟨rfl, rfl⟩

theorem follows_lively (react : PageCall → Page → Page)
    (choose : PageCall → Widget → List PageStep) (depth : Nat) (c : PageCall) :
    Follows (fun _ => True) (lively react choose depth c) := by
  -- The steps inside are taken on a page of less depth, so the induction is on the depth.
  induction depth generalizing c with
  | zero => exact follows_aloof react c
  | succ depth ih =>
    refine (follows_aloof react c).bind fun _ => .get fun w => ?_
    induction choose c w with
    | nil => exact .pure _
    | cons s steps ih' =>
      exact (follows_step ih (fun _ => trivial) s fun _ _ => trivial).bind fun _ =>
        (follows_write _).bind fun _ => ih'

end WidgetM

end HandheldHost
