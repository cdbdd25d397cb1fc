import HandheldHost.Widget.Basic

/-!
# What a widget exports to its page

The calls a page can make on a widget, and what a page does by itself: it
fires animation frames and key events.  At most one exported call runs at a
time.  The page may take one step of its own inside any call that the
widget makes, but no step inside that one.

Main definitions: `Export` and `PageStep` say what can be asked for,
`Widget.perform` carries it out.
-/

namespace HandheldHost

/-- A call that a page can make on a widget. -/
inductive Export where
  /-- Starts a session from a cartridge image. -/
  | init (rom : Bytes) (debug : Bool)
  /-- Binds the canvas with the given id and starts drawing to it. -/
  | start (id : String)
  | tick (now : Float)
  | key (code : UInt32) (pressed : Bool)
  | button (name : String) (pressed : Bool)
  | togglePause
  | setPaused (paused : Bool)
  | stepFrame
  | stepInstruction
  | toggleDebug
  /-- Where the canvas is in memory: a number that means nothing here. -/
  | framePointer
  | frameLength
  | frameWidth
  | frameHeight
  | panel
  | state
  | shutdown

/-- Something that happens on a page. -/
inductive PageStep where
  | export (e : Export)
  /-- The display refreshes: every pending frame is called back. -/
  | frame (now : Float)
  /-- A key event: every listener attached for it is called. -/
  | key (event : KeyEvent) (code : UInt32)
  /-- From now on exactly these calls fail. -/
  | fail (calls : List Fallible)

namespace WidgetM

variable (notify : PageCall → WidgetM Unit)

/-- The reports that a ledger has and an earlier one had not. -/
def newReports (before after : WidgetSession) : List (Nat × Fault) :=
  match before.session.player, after.session.player with
  | some b, some a => a.sink.reports.drop b.sink.reports.length
  | _, _ => []

/-- Writes fault reports to the console. -/
def announce : List (Nat × Fault) → WidgetM Unit
  | [] => pure ()
  | (tick, fault) :: reports => do
    call notify (.error (.faulted tick fault))
    announce reports

/-- Uses the session of the widget, as one exported call. -/
def withSession (use : WidgetSession → Logged (Except SessionError α × WidgetSession)) :
    WidgetM (Except Thrown α) :=
  guarded do
    match (← get).session with
    | none => return .error .notStarted
    | some before => do
      let (result, after) ← use before
      modify fun w => { w with session := some after }
      announce notify (newReports before after)
      return result.mapError .session

/-- Reads something off the session, as one exported call. -/
def readSession (f : WidgetSession → Except SessionError α) : WidgetM (Except Thrown α) :=
  withSession notify fun session => pure (f session, session)

/-- Carries out a request, as one exported call. -/
def requestSession (r : Request) : WidgetM (Except Thrown Unit) :=
  withSession notify fun session => session.request r

/-- Starts a session.  One that is running already is shut down when the
new one is there, and kept when the cartridge is refused. -/
def init (rom : Bytes) (debug : Bool) : WidgetM (Except Thrown Unit) :=
  guarded do
    let config : PlayerConfig := { debug }
    match ← (Viewer.create rom default config : Logged (Except SessionError WidgetSession)) with
    | .error e => return .error (.session e)
    | .ok session => do
      let previous := (← get).session
      modify fun w => { w with session := some session }
      match previous with
      | none => pure ()
      | some previous => do
        let _ ← previous.shutdown
      call notify (.log (.sessionStarted rom.size))
      return .ok ()

/-- Ticks once and draws the canvas.  The result says whether to go on:
without a live session or a display the loop ends. -/
def drawFrame (now : Float) : WidgetM (Except Thrown Bool) := do
  match ← withSession notify fun session => session.onFrame now with
  | .error e => return .error e
  | .ok false => return .ok false
  | .ok true =>
    match (← get).display with
    | none => return .ok false
    | some display =>
      guarded do
        match (← get).session with
        | none => return .error .notStarted
        | some session =>
          match session.canvas with
          | .error e => return .error (.session e)
          | .ok screen => do
            let columns := UInt32.ofNat screen.width
            let rows := UInt32.ofNat screen.height
            match ← attempt notify (.image columns rows) (fun page => page) with
            | .error e => return .error e
            | .ok () =>
              match ← attempt notify (.put display.canvas screen.pixels) (fun page => page) with
              | .error e => return .error e
              | .ok () => return .ok true

/-- Calls the frame callback of one attempt: it draws, and asks for the next
frame as long as there is something to draw. -/
def callFrame (owner : Nat) (now : Float) : WidgetM Unit := do
  match ← drawFrame notify now with
  | .error e => call notify (.error (.thrown e))
  | .ok false => call notify (.log .loopEnded)
  | .ok true =>
    let callback : Callback := ⟨owner, none⟩
    if callback ∈ (← get).alive then
      match ← requestFrame notify callback with
      | .error e => call notify (.error (.thrown e))
      | .ok id =>
        modify fun w =>
          { w with
            display := w.display.map fun d => if d.owner = owner then { d with handle := id } else d }

/-- Calls a key listener: it presses or releases the key. -/
def callListener (event : KeyEvent) (code : UInt32) : WidgetM Unit := do
  match ← requestSession notify (.key code event.pressed) with
  | .error e => call notify (.warn (.thrown e))
  | .ok () => pure ()

/-- Listens to the given kinds of key events.  When the page refuses one,
nothing stands behind any of these listeners any more. -/
def listenTo (owner : Nat) : List KeyEvent → WidgetM (Except Thrown Unit)
  | [] => return .ok ()
  | event :: events => do
    let callback : Callback := ⟨owner, some event⟩
    adopt callback
    match ← attempt notify (.listen event) (·.attach callback) with
    | .error e =>
      abandon callback
      return .error e
    | .ok () =>
      match ← listenTo owner events with
      | .error e =>
        abandon callback
        return .error e
      | .ok () => return .ok ()

/-- Finds the canvas and its drawing context. -/
def findCanvas (id : String) : WidgetM (Except Thrown Unit) := do
  let page := (← get).page
  if !page.hasWindow then return .error .noWindow
  if !page.hasDocument then return .error .noDocument
  match page.element? id with
  | none => return .error (.noElement id)
  | some .other => return .error (.notCanvas id)
  | some (.canvas context) =>
    match ← attempt notify (.context id) (fun page => page) with
    | .error e => return .error e
    | .ok () =>
      match context with
      | .missing => return .error .noContext
      | .foreign => return .error .foreignContext
      | .flat => return .ok ()

/-- Binds a canvas and starts drawing to it, in place of any display bound
before.  The canvas gets the size of the screen as it is now. -/
def start (id : String) : WidgetM (Except Thrown Unit) := do
  match ← findCanvas notify id with
  | .error e => return .error e
  | .ok () => pure ()
  match ← readSession notify Viewer.canvas with
  | .error e => return .error e
  | .ok screen =>
    let columns := UInt32.ofNat screen.width
    let rows := UInt32.ofNat screen.height
    call notify (.width id columns)
    call notify (.height id rows)
    unbind notify
    let owner := (← get).nextOwner
    modify fun w => { w with nextOwner := owner + 1 }
    let events := [KeyEvent.down, KeyEvent.up]
    match ← listenTo notify owner events with
    | .error e => return .error e
    | .ok () =>
      let callback : Callback := ⟨owner, none⟩
      adopt callback
      match ← requestFrame notify callback with
      | .error e =>
        events.forM fun event => abandon ⟨owner, some event⟩
        abandon callback
        return .error e
      | .ok handle =>
        unbind notify
        modify fun w => { w with display := some ⟨owner, id, events, handle⟩ }
        call notify (.log (.bound id columns rows))
        return .ok ()

/-- Shuts the session down and lets the display go. -/
def shutdown : WidgetM (Except Thrown Bool) := do
  match ← withSession notify fun session => do
      let (released, session) ← session.shutdown
      pure (.ok released, session) with
  | .error e => return .error e
  | .ok released =>
    unbind notify
    return .ok released

/-- Words the result of an exported call. -/
def answer (wrap : α → Value) (result : Except Thrown α) : Answer :=
  match result with
  | .ok a => .returned (wrap a)
  | .error e => .thrown e

/-- Carries out an exported call. -/
def runExport : Export → WidgetM Answer
  | .init rom debug => do return answer (fun _ => .unit) (← init notify rom debug)
  | .start id => do return answer (fun _ => .unit) (← start notify id)
  | .tick now => do
    return answer .report (← withSession notify fun session => session.tick now)
  | .key code pressed => do
    return answer (fun _ => .unit) (← requestSession notify (.key code pressed))
  | .button name pressed => do
    return answer .bool (← withSession notify fun session => session.setButton name pressed)
  | .togglePause => do
    return answer (fun _ => .unit) (← requestSession notify .togglePause)
  | .setPaused paused => do
    return answer (fun _ => .unit) (← requestSession notify (.setPaused paused))
  | .stepFrame => do return answer (fun _ => .unit) (← requestSession notify .stepFrame)
  | .stepInstruction => do
    return answer (fun _ => .unit) (← requestSession notify .stepInstruction)
  | .toggleDebug => do
    return answer (fun _ => .unit) (← requestSession notify .toggleDebug)
  | .framePointer => do return answer (fun _ => .unit) (← readSession notify Viewer.canvas)
  | .frameLength => do
    return answer (fun s => .number (UInt32.ofNat s.pixels.size))
      (← readSession notify Viewer.canvas)
  | .frameWidth => do
    return answer (fun s => .number (UInt32.ofNat s.width)) (← readSession notify Viewer.canvas)
  | .frameHeight => do
    return answer (fun s => .number (UInt32.ofNat s.height)) (← readSession notify Viewer.canvas)
  | .panel => do return answer .text (← readSession notify Viewer.debugPanel)
  | .state => do return answer .inspection (← readSession notify Viewer.inspection)
  | .shutdown => do return answer .bool (← shutdown notify)

/-- Calls a callback, or notes that nothing stands behind it. -/
def callBack (callback : Callback) (body : WidgetM Unit) : WidgetM Unit := do
  if callback ∈ (← get).alive then body else write .deadCallback

/-- Calls the callbacks of pending frames, in order. -/
def callFrames (now : Float) : List (Nat × Callback) → WidgetM Unit
  | [] => pure ()
  | (_, callback) :: requests => do
    callBack callback (callFrame notify callback.owner now)
    callFrames now requests

/-- Calls the listeners of a key event, in order. -/
def callListeners (event : KeyEvent) (code : UInt32) : List Callback → WidgetM Unit
  | [] => pure ()
  | callback :: callbacks => do
    callBack callback (callListener notify event code)
    callListeners event code callbacks

/-- Takes one step on the page. -/
def step : PageStep → WidgetM Answer
  | .export e => runExport notify e
  | .frame now => do
    let pending := (← get).page.pending
    onPage fun page => { page with pending := [] }
    callFrames notify now pending
    return .fired pending.length
  | .key event code => do
    let listeners := (← get).page.listenersFor event
    callListeners notify event code listeners
    return .fired listeners.length
  | .fail calls => do
    onPage fun page => { page with failing := calls }
    return .done

/-- A page that never calls back from inside a call. -/
def quiet : PageCall → WidgetM Unit := fun _ => pure ()

/-- A page that takes a step of its own inside the calls chosen by `hook`. -/
def interrupting (hook : PageCall → Option PageStep) (c : PageCall) : WidgetM Unit := do
  match hook c with
  | none => pure ()
  | some s => do
    let answer ← step quiet s
    write (.interrupted answer)

end WidgetM

namespace Widget

/-- Takes one step on the page, which may take the steps chosen by `hook`
inside the calls of the widget. -/
def perform (hook : PageCall → Option PageStep) (s : PageStep) (w : Widget) :
    Logged (Answer × Widget) :=
  (WidgetM.step (WidgetM.interrupting hook) s).run w

/-- Gives the widget up; a session that is still live is dropped. -/
def close (w : Widget) : Logged Unit :=
  match w.session with
  | none => pure ()
  | some viewer => do
    let _ ← viewer.session.drop

end Widget

end HandheldHost
