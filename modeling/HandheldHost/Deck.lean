import HandheldHost.Inspection
import HandheldHost.Journal
import HandheldHost.Joypad
import HandheldHost.KeyTable

/-!
# The playback deck

Everything a host decides by, apart from its core: the playback mode, the
debug switch, the buttons, the counters, the last fault and the debug view.
Requests change the deck at once and may ask for a button write to the
core.  `Deck.plan` decides what a tick does and takes back a single step in
the same move, so one request can never give two steps.
-/

namespace HandheldHost

/-- The state of playback. -/
structure Deck where
  mode : Mode := .running
  /-- Whether every tick refreshes the debug view. -/
  debug : Bool := false
  joypad : Joypad := {}
  keys : KeyTable := .standard
  counters : Counters := {}
  lastFault : Option Fault := none
  inspection : Inspection := {}
  /-- Debug refreshes made. -/
  refreshes : Counter := .zero
  deriving DecidableEq

namespace Deck

instance : Inhabited Deck := ⟨{}⟩

/-- Counts a tick and decides its advance.  A single step ends in a pause. -/
def plan (deck : Deck) : Option Stride × Deck :=
  let counted :=
    { deck with counters := { deck.counters with ticks := deck.counters.ticks.bump } }
  match deck.mode with
  | .running => (some .frame, counted)
  | .paused => (none, counted)
  | .stepFrame => (some .frame, { counted with mode := .paused })
  | .stepInstruction => (some .instruction, { counted with mode := .paused })

/-- Shows the counters in the debug view. -/
def syncCounters (deck : Deck) : Deck :=
  { deck with inspection := deck.inspection.showCounters deck.counters }

/-- Counts a completed advance. -/
def countAdvance (deck : Deck) (stride : Stride) : Deck :=
  let c := deck.counters
  syncCounters
    { deck with
      counters :=
        match stride with
        | .frame => { c with frames := c.frames.bump }
        | .instruction => { c with instructions := c.instructions.bump } }

/-- Pauses playback. -/
def forcePause (deck : Deck) : Logged Deck :=
  if deck.mode = .paused then pure deck
  else do
    Logged.log (.forcedPause deck.mode)
    pure { deck with mode := .paused }

/-- Pauses playback and records a fault. -/
def recordFault (deck : Deck) (fault : Fault) : Logged Deck := do
  let deck ← deck.forcePause
  let counted :=
    { deck with
      counters := { deck.counters with faults := deck.counters.faults.bump }
      inspection := deck.inspection.showFault fault }
  pure { counted.syncCounters with lastFault := some fault }

/-- Shows registers and memory in the debug view and counts the refresh. -/
def publish (deck : Deck) (registers : Registers) (base : UInt16) (bytes : Bytes) : Deck :=
  { deck with
    inspection := (deck.inspection.showRegisters registers).showWindow base bytes
    refreshes := deck.refreshes.bump }

/-- Whether a fault was ever recorded. -/
def faulted (deck : Deck) : Bool := deck.lastFault.isSome

/-- Presses or releases a button and asks for the core to be told, even when
nothing changes. -/
def press (deck : Deck) (button : Button) (pressed : Bool) : Deck × Option ButtonWrite :=
  ({ deck with joypad := deck.joypad.set button pressed }, some ⟨button, pressed⟩)

/-- Carries out a request.  A key without a button does nothing. -/
def request (deck : Deck) : Request → Logged (Deck × Option ButtonWrite)
  | .togglePause =>
    pure ({ deck with mode := if deck.mode = .running then .paused else .running }, none)
  | .setPaused paused =>
    pure ({ deck with mode := if paused then .paused else .running }, none)
  | .stepFrame => pure ({ deck with mode := .stepFrame }, none)
  | .stepInstruction => pure ({ deck with mode := .stepInstruction }, none)
  | .toggleDebug => pure ({ deck with debug := !deck.debug }, none)
  | .setDebug on => pure ({ deck with debug := on }, none)
  | .button button pressed => pure (deck.press button pressed)
  | .key code pressed =>
    match deck.keys.resolve code with
    | some button => pure (deck.press button pressed)
    | none => do
      Logged.log (.unmappedKey code)
      pure (deck, none)

end Deck

end HandheldHost
