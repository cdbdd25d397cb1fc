import HandheldHost.Inspection
import HandheldHost.Viewer

/-!
# The page around a widget

A widget lives on a page.  This module is what a widget can see of it: a
window and a document that may be missing, the elements of the document by
their ids, the drawing contexts of those that are canvases, key listeners,
and requests for animation frames.  Every call the widget makes is a line of
the page's transcript, in order, and any call that the page is told to fail
writes its line and then throws.

A callback belongs to one attempt to start a display.  The page keeps the
callbacks it was given; whether the widget still stands behind one is the
widget's business.
-/

namespace HandheldHost

/-- The two kinds of key events. -/
inductive KeyEvent where
  | down
  | up
  deriving DecidableEq, Repr

/-- The name of an event kind. -/
def KeyEvent.name : KeyEvent → String
  | .down => "keydown"
  | .up => "keyup"

/-- Whether the event presses the key. -/
def KeyEvent.pressed : KeyEvent → Bool
  | .down => true
  | .up => false

/-- Calls that a page can be told to fail. -/
inductive Fallible where
  | context
  | listen
  | unlisten
  | request
  | cancel
  | image
  | put
  deriving DecidableEq, Repr

namespace Fallible

/-- Every call that can fail. -/
def all : List Fallible := [context, listen, unlisten, request, cancel, image, put]

/-- The name of a call. -/
def name : Fallible → String
  | context => "context"
  | listen => "listen"
  | unlisten => "unlisten"
  | request => "request"
  | cancel => "cancel"
  | image => "image"
  | put => "put"

/-- What a failing call throws. -/
def message (call : Fallible) : String := call.name ++ " failed"

end Fallible

/-- What a canvas gives for its drawing context. -/
inductive ContextKind where
  | flat
  /-- Nothing. -/
  | missing
  /-- An object of another type. -/
  | foreign
  deriving DecidableEq, Repr

/-- An element of a document. -/
inductive Element where
  /-- A canvas, which gives this for its drawing context. -/
  | canvas (context : ContextKind)
  /-- An element of another kind. -/
  | other
  deriving DecidableEq, Repr

/-- Why an exported call throws. -/
inductive Thrown where
  /-- Another exported call is still running. -/
  | reentrant
  /-- No session was ever started. -/
  | notStarted
  | session (reason : SessionError)
  | noWindow
  | noDocument
  | noElement (id : String)
  | notCanvas (id : String)
  | noContext
  | foreignContext
  /-- A call on the page threw. -/
  | page (call : Fallible)
  deriving DecidableEq, Repr

/-- The thrown text. -/
def Thrown.message : Thrown → String
  | .reentrant => "reentrant export call"
  | .notStarted => "not inited"
  | .session reason => reason.message
  | .noWindow => "no window"
  | .noDocument => "no document"
  | .noElement id => "no element #" ++ id
  | .notCanvas id => "#" ++ id ++ " is not a canvas"
  | .noContext => "2d context unavailable"
  | .foreignContext => "unexpected 2d context type"
  | .page call => call.message

/-- A line that a widget writes to the console. -/
inductive ConsoleLine where
  /-- A fault that a tick has reported. -/
  | faulted (tick : Nat) (fault : Fault)
  /-- What a call has thrown, where nobody is there to catch it. -/
  | thrown (reason : Thrown)
  /-- A session was started from a cartridge image of so many octets. -/
  | sessionStarted (octets : Nat)
  /-- The canvas with the given id was bound, and has this size. -/
  | bound (id : String) (columns rows : UInt32)
  /-- There is nothing left to draw. -/
  | loopEnded
  deriving DecidableEq, Repr

/-- The text of a line. -/
def ConsoleLine.text : ConsoleLine → String
  | .faulted tick fault =>
    "gbx: tick " ++ toString tick ++ ": " ++ fault.text ++ "; playback paused"
  | .thrown reason => reason.message
  | .sessionStarted octets => "gbx_init: session started (" ++ toString octets ++ " byte rom)"
  | .bound id columns rows =>
    "gbx_start: bound #" ++ id ++ " (" ++ toString columns.toNat ++ "x" ++ toString rows.toNat ++
      ")"
  | .loopEnded => "gbx: session ended, frame loop stopped"

/-- A call that a widget makes on its page.  A canvas goes by its id. -/
inductive PageCall where
  /-- Asks a canvas for its drawing context. -/
  | context (canvas : String)
  /-- Sets the width of a canvas. -/
  | width (canvas : String) (columns : UInt32)
  /-- Sets the height of a canvas. -/
  | height (canvas : String) (rows : UInt32)
  | listen (event : KeyEvent)
  | unlisten (event : KeyEvent)
  /-- Asks for an animation frame, which would get this number. -/
  | request (id : Nat)
  | cancel (id : Nat)
  /-- Makes an image of the given size. -/
  | image (columns rows : UInt32)
  /-- Draws the octets of an image at the origin of a canvas. -/
  | put (canvas : String) (bytes : Bytes)
  | log (line : ConsoleLine)
  | warn (line : ConsoleLine)
  | error (line : ConsoleLine)
  deriving DecidableEq

namespace PageCall

/-- The name under which a page can be told to fail the call. -/
def fallible? : PageCall → Option Fallible
  | context _ => some .context
  | listen _ => some .listen
  | unlisten _ => some .unlisten
  | request _ => some .request
  | cancel _ => some .cancel
  | image .. => some .image
  | put .. => some .put
  | width .. | height .. | log _ | warn _ | error _ => none

end PageCall

/-- Who is called back: the key listeners or the frame callback made by one
attempt to start a display. -/
structure Callback where
  /-- The number of the attempt. -/
  owner : Nat
  /-- The kind of key event, or none for the frame callback. -/
  event : Option KeyEvent
  deriving DecidableEq, Repr

/-- What an exported call returns. -/
inductive Value where
  /-- Nothing worth naming. -/
  | unit
  | bool (b : Bool)
  | number (n : UInt32)
  | text (s : String)
  | report (r : TickReport)
  | inspection (view : Inspection)
  deriving DecidableEq

/-- What a step on a page comes to. -/
inductive Answer where
  | returned (value : Value)
  | thrown (reason : Thrown)
  /-- So many callbacks were called. -/
  | fired (count : Nat)
  | done
  deriving DecidableEq

/-- A line of a page's transcript. -/
inductive PageLine where
  | call (call : PageCall)
  /-- The page ran a step of its own in the middle of another and got this
  answer. -/
  | interrupted (answer : Answer)
  /-- A callback was called that nothing stands behind any more. -/
  | deadCallback
  deriving DecidableEq

/-- A page as its widget sees it. -/
structure Page where
  hasWindow : Bool := true
  hasDocument : Bool := true
  /-- The elements of the document, each behind its id, in document order. -/
  elements : List (String × Element) := []
  /-- The calls that throw. -/
  failing : List Fallible := []
  /-- Attached key listeners, in order of attachment. -/
  listeners : List Callback := []
  /-- Pending animation frames, in order of request, by number. -/
  pending : List (Nat × Callback) := []
  /-- The number of the next animation frame. -/
  nextRequest : Nat := 1
  /-- Everything that was called, in order. -/
  transcript : Array PageLine := #[]

instance : Inhabited Page := ⟨{}⟩

namespace Page

/-- Writes a line of the transcript. -/
def write (page : Page) (line : PageLine) : Page :=
  { page with transcript := page.transcript.push line }

/-- The listeners attached for a kind of event. -/
def listenersFor (page : Page) (event : KeyEvent) : List Callback :=
  page.listeners.filter fun c => c.event == some event

/-- Attaches a listener. -/
def attach (page : Page) (callback : Callback) : Page :=
  { page with listeners := page.listeners ++ [callback] }

/-- Detaches a listener, if it is attached. -/
def detach (page : Page) (callback : Callback) : Page :=
  { page with listeners := page.listeners.erase callback }

/-- Makes a frame request pending under the next number. -/
def enqueue (page : Page) (callback : Callback) : Page :=
  { page with
    pending := page.pending ++ [(page.nextRequest, callback)]
    nextRequest := page.nextRequest + 1 }

/-- Forgets the frame request with the given number. -/
def withdraw (page : Page) (id : Nat) : Page :=
  { page with pending := page.pending.filter fun request => request.1 ≠ id }

/-- The first element with the given id. -/
def element? (page : Page) (id : String) : Option Element := page.elements.lookup id

end Page

end HandheldHost
