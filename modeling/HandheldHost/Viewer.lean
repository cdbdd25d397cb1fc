import HandheldHost.Inspection.Line
import HandheldHost.Session

/-!
# What a page sees of a session

A viewer is a session behind the narrow interface of a page: ticks are
summed up in a few fields, buttons are named by text, and the debug view is
text.  Every operation but shutting down fails on a session that has been
shut down, except that a name that means no button is ignored in any case.
-/

namespace HandheldHost

/-- The summary of a tick for a page. -/
structure TickReport where
  /-- The number of the tick, or the largest 32-bit number when it is
  larger. -/
  tick : UInt32
  advanced : Bool
  faulted : Bool
  paused : Bool
  deriving DecidableEq, Repr

/-- The 32-bit number nearest to a tick number. -/
def TickReport.number (tick : Nat) : UInt32 := UInt32.ofNat (min tick 0xFFFFFFFF)

/-- A session as a page uses it. -/
structure Viewer (γ δ : Type) where
  session : Session γ δ

namespace Viewer

variable {γ δ : Type} [Core γ] [FaultSink δ]

/-- Starts a session from a cartridge image. -/
def create (rom : Bytes) (sink : δ) (config : PlayerConfig) :
    Logged (Except SessionError (Viewer γ δ)) := do
  let session ← Session.create rom sink config
  pure (session.map fun session => ⟨session⟩)

/-- Whether playback is paused. -/
def isPaused (viewer : Viewer γ δ) : Except SessionError Bool :=
  viewer.session.read fun player => player.deck.mode == .paused

/-- One display refresh. -/
def tick (viewer : Viewer γ δ) (now : Float) :
    Logged (Except SessionError TickReport × Viewer γ δ) := do
  let (report, session) ← viewer.session.withPlayer fun player => do
    let (outcome, player) ← player.tick now
    let report : TickReport :=
      { tick := TickReport.number outcome.tick
        advanced := outcome.advanced.isSome
        faulted := outcome.faulted
        paused := player.deck.mode == .paused }
    pure (report, player)
  pure (report, ⟨session⟩)

/-- One callback of a display.  The result says whether to call again: a
session that has been shut down ends the loop. -/
def onFrame (viewer : Viewer γ δ) (now : Float) :
    Logged (Except SessionError Bool × Viewer γ δ) :=
  if viewer.session.isLive then do
    let (report, viewer) ← viewer.tick now
    pure (report.map fun _ => true, viewer)
  else pure (.ok false, viewer)

/-- Carries out a request. -/
def request (viewer : Viewer γ δ) (r : Request) :
    Logged (Except SessionError Unit × Viewer γ δ) := do
  let (result, session) ← viewer.session.request r
  pure (result, ⟨session⟩)

/-- Presses or releases the button that a name means.  The result says
whether it meant one. -/
def setButton (viewer : Viewer γ δ) (name : String) (pressed : Bool) :
    Logged (Except SessionError Bool × Viewer γ δ) :=
  match Button.ofName? name with
  | none => pure (.ok false, viewer)
  | some button => do
    let (result, viewer) ← viewer.request (.button button pressed)
    pure (result.map fun _ => true, viewer)

/-- The screen with the composed canvas. -/
def canvas (viewer : Viewer γ δ) : Except SessionError Screen :=
  viewer.session.read fun player => player.screen

/-- The debug view as a text panel. -/
def debugPanel (viewer : Viewer γ δ) : Except SessionError String :=
  viewer.session.read Player.debugPanel

/-- The debug view. -/
def inspection (viewer : Viewer γ δ) : Except SessionError Inspection :=
  viewer.session.read fun player => player.deck.inspection

/-- Shuts the session down.  The result says whether it was live. -/
def shutdown (viewer : Viewer γ δ) : Logged (Bool × Viewer γ δ) := do
  let (parts, session) ← viewer.session.shutdown
  pure (parts.isSome, ⟨session⟩)

end Viewer

end HandheldHost
