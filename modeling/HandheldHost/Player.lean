import HandheldHost.Clock
import HandheldHost.Compositor
import HandheldHost.Core.Inspect
import HandheldHost.FaultSink
import HandheldHost.Inspection.Panel

/-!
# The player

A player drives one core.  Requests reach the deck, and button changes the
core, at once.  A tick plans at most one advance and makes it, fetches the
frame that the core shows after it, composes the canvas, and refreshes the
debug view if that is on.  Nothing is queued between ticks.

A frame that cannot be fetched counts as a fault.  It is reported once in a
row of such ticks and never on a tick that reported a fault already, but it
pauses playback every time.
-/

namespace HandheldHost

/-- How a player starts. -/
structure PlayerConfig where
  /-- Memory octets asked for on every debug refresh. -/
  windowSize : Nat := 48
  mode : Mode := .running
  debug : Bool := false
  border : Border := {}
  deriving DecidableEq, Repr

instance : Inhabited PlayerConfig := ⟨{}⟩

/-- A core being played, over a sink for its faults. -/
structure Player (γ δ : Type) where
  core : γ
  deck : Deck
  compositor : Compositor
  screen : Screen
  sink : δ
  windowSize : Nat
  /-- The last frame could not be fetched. -/
  frameMissing : Bool
  /-- The stamp of the last tick. -/
  lastStamp : Option Float

namespace Player

variable {γ δ : Type} [Core γ] [FaultSink δ]

/-- A player that has not ticked.  The geometry of its display is the one
the core has now. -/
def start (core : γ) (screen : Screen) (sink : δ) (config : PlayerConfig) : Player γ δ where
  core := core
  deck := { mode := config.mode, debug := config.debug }
  compositor := { geometry := Core.geometry core, border := config.border }
  screen := screen
  sink := sink
  windowSize := config.windowSize
  frameMissing := false
  lastStamp := none

/-- Carries out a request. -/
def request (player : Player γ δ) (r : Request) : Logged (Player γ δ) := do
  let (deck, write) ← player.deck.request r
  match write with
  | none => pure { player with deck }
  | some write => do
    Logged.log (.buttonForwarded write)
    pure { player with deck, core := Core.setButton write player.core }

/-- Reports a fault and records it on the deck. -/
def report (player : Player γ δ) (tick : Nat) (fault : Fault) : Logged (Player γ δ) := do
  let sink ← FaultSink.report tick fault player.sink
  let deck ← player.deck.recordFault fault
  pure { player with sink, deck }

/-- Notes the stamp of a tick; one earlier than the last is logged. -/
def note (player : Player γ δ) (now : Float) : Logged (Player γ δ) := do
  match player.lastStamp with
  | some last => if now < last then Logged.log (.stampWentBack last now)
  | none => pure ()
  pure { player with lastStamp := some now }

/-- Plans the advance of a tick and makes it.  The result says what was
completed and whether a fault was reported. -/
def advance (player : Player γ δ) : Logged ((Option Stride × Bool) × Player γ δ) := do
  let (planned, deck) := player.deck.plan
  let player := { player with deck }
  match planned with
  | none => pure ((none, false), player)
  | some stride => do
    let (fault, core) ← Core.advance stride player.core
    let player := { player with core }
    match fault with
    | none => pure ((some stride, false), { player with deck := player.deck.countAdvance stride })
    | some fault => do
      let player ← player.report player.deck.counters.ticks.val fault
      pure ((none, true), player)

/-- Fetches the frame of a tick and shows the canvas.  The result says
whether a fault has been reported on this tick by now. -/
def refreshScreen (player : Player γ δ) (faulted : Bool) : Logged (Bool × Player γ δ) := do
  match Core.frame player.core with
  | .ok frame => do
    let compositor ← player.compositor.accept frame
    pure (faulted,
      { player with
        compositor
        screen := compositor.present player.screen
        frameMissing := false })
  | .error defect => do
    let (faulted, player) ←
      if player.frameMissing || faulted then do
        let deck ← player.deck.forcePause
        pure (faulted, { player with deck })
      else do
        let player ← player.report player.deck.counters.ticks.val ⟨defect.message, none⟩
        pure (true, player)
    pure (faulted,
      { player with
        screen := player.compositor.present player.screen
        frameMissing := true })

/-- Refreshes the debug view of a tick if it is on.  The result says whether
it was. -/
def refreshDebug (player : Player γ δ) : Logged (Bool × Player γ δ) := do
  if player.deck.debug then do
    let (deck, core) ← Core.inspect player.core player.deck player.windowSize
    pure (true, { player with core, deck := deck.syncCounters })
  else pure (false, player)

/-- One display refresh. -/
def tick (player : Player γ δ) (now : Float) : Logged (Outcome × Player γ δ) := do
  let player ← player.note now
  let ((advanced, faulted), player) ← player.advance
  let (faulted, player) ← player.refreshScreen faulted
  let (debugRefreshed, player) ← player.refreshDebug
  let outcome : Outcome :=
    { tick := player.deck.counters.ticks.val, advanced, faulted, debugRefreshed }
  Logged.log (.ticked now outcome)
  pure (outcome, player)

/-- Ticks once for each of the next `n` stamps of a clock, `last` being the
outcome so far. -/
def runFrom (last : Option Outcome) (player : Player γ δ) (clock : Clock) :
    Nat → Logged (Option Outcome × Clock × Player γ δ)
  | 0 => pure (last, clock, player)
  | n + 1 => do
    let (outcome, player) ← player.tick clock.take.1
    runFrom (some outcome) player clock.take.2 n

/-- Ticks once for each of the next `n` stamps of a clock; the result is
the outcome of the last tick. -/
def run (player : Player γ δ) (clock : Clock) (n : Nat) :
    Logged (Option Outcome × Clock × Player γ δ) :=
  runFrom none player clock n

/-- The debug view as a text panel. -/
def debugPanel (player : Player γ δ) : String := player.deck.inspection.fullPanel

/-- What a player leaves behind. -/
def parts (player : Player γ δ) : γ × Screen × δ := (player.core, player.screen, player.sink)

end Player

end HandheldHost
