import HandheldHost.Core.Pattern
import HandheldHost.Widget.Page

/-!
# The state of a widget, and its calls on the page

A widget holds at most one session and at most one display, and a flag that
is up while an exported call is running.  The computations here are in
`WidgetM`: they change the widget and may log.

A page may call back into the widget from inside any call that the widget
makes.  That is the parameter `notify`: what the page does in the middle of
a call.
-/

namespace HandheldHost

/-- A canvas being drawn to, with the callbacks that were registered for it. -/
structure Display where
  /-- The attempt that started the display. -/
  owner : Nat
  /-- The id of the canvas. -/
  canvas : String
  /-- The kinds of key events listened to. -/
  events : List KeyEvent
  /-- The number of the last animation frame asked for. -/
  handle : Nat
  deriving DecidableEq, Repr

/-- The session that a widget runs. -/
abbrev WidgetSession := Viewer PatternCore Ledger

/-- A widget on its page. -/
structure Widget where
  page : Page := {}
  session : Option WidgetSession := none
  display : Option Display := none
  /-- An exported call is running. -/
  busy : Bool := false
  /-- Callbacks that the widget still stands behind. -/
  alive : List Callback := []
  /-- The number of the next attempt to start a display. -/
  nextOwner : Nat := 0

instance : Inhabited Widget := ⟨{}⟩

/-- A computation of a widget. -/
abbrev WidgetM := StateT Widget Logged

namespace WidgetM

/-- Changes the page. -/
def onPage (f : Page → Page) : WidgetM Unit := modify fun w => { w with page := f w.page }

/-- Writes a line of the transcript. -/
def write (line : PageLine) : WidgetM Unit := onPage fun page => page.write line

variable (notify : PageCall → WidgetM Unit)

/-- Makes a call that cannot fail. -/
def call (c : PageCall) : WidgetM Unit := do
  write (.call c)
  notify c

/-- Makes a call that the page may fail; the effect takes place only if it
does not. -/
def attempt (c : PageCall) (effect : Page → Page) : WidgetM (Except Thrown Unit) := do
  call notify c
  match c.fallible? with
  | some name =>
    if name ∈ (← get).page.failing then return .error (.page name)
    onPage effect
    return .ok ()
  | none =>
    onPage effect
    return .ok ()

/-- Stands behind a callback. -/
def adopt (callback : Callback) : WidgetM Unit :=
  modify fun w => { w with alive := callback :: w.alive }

/-- Stands behind a callback no longer. -/
def abandon (callback : Callback) : WidgetM Unit :=
  modify fun w => { w with alive := w.alive.erase callback }

/-- Asks for an animation frame; gives its number. -/
def requestFrame (callback : Callback) : WidgetM (Except Thrown Nat) := do
  let id := (← get).page.nextRequest
  match ← attempt notify (.request id) (·.enqueue callback) with
  | .error e => return .error e
  | .ok () => return .ok id

/-- Detaches the listeners of one attempt, warning of each failure.  Nothing
stands behind a listener any more once its turn is over. -/
def releaseListeners (owner : Nat) : List KeyEvent → WidgetM Unit
  | [] => pure ()
  | event :: events => do
    let callback : Callback := ⟨owner, some event⟩
    match ← attempt notify (.unlisten event) (·.detach callback) with
    | .error e => call notify (.warn (.thrown e))
    | .ok () => pure ()
    abandon callback
    releaseListeners owner events

/-- Lets a display go: its pending frame is cancelled and its listeners are
detached, each failure being warned of; after that nothing stands behind
its callbacks. -/
def releaseDisplay (display : Display) : WidgetM Unit := do
  match ← attempt notify (.cancel display.handle) (·.withdraw display.handle) with
  | .error e => call notify (.warn (.thrown e))
  | .ok () => pure ()
  releaseListeners notify display.owner display.events
  abandon ⟨display.owner, none⟩

/-- Takes the display off the widget and lets it go. -/
def unbind : WidgetM Unit := do
  match (← get).display with
  | none => pure ()
  | some display => do
    modify fun w => { w with display := none }
    releaseDisplay notify display

/-- Runs an exported call unless one is running already. -/
def guarded (body : WidgetM (Except Thrown α)) : WidgetM (Except Thrown α) := do
  if (← get).busy then return .error .reentrant
  modify fun w => { w with busy := true }
  let result ← body
  modify fun w => { w with busy := false }
  return result

end WidgetM

end HandheldHost
