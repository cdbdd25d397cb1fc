import HandheldHost.Player

/-!
# Sessions

A session owns a player from the making of its core to the release of it.
The core is released exactly once, by shutting the session down or by
dropping it; what was released cannot be used again.
-/

namespace HandheldHost

/-- Why a session cannot be started or used. -/
inductive SessionError where
  | cartridge (reason : CartridgeError)
  | shutDown
  deriving DecidableEq, Repr

/-- The wording of a session error. -/
def SessionError.message : SessionError → String
  | .cartridge reason => "cartridge load failed: " ++ reason.message
  | .shutDown => "session already shut down"

/-- A player that may have been released, and how often its core was. -/
structure Session (γ δ : Type) where
  player : Option (Player γ δ)
  releases : Nat := 0

namespace Session

variable {γ δ : Type} [Core γ] [FaultSink δ]

/-- A session over a core that is there already, with a blank screen. -/
def ofCore (core : γ) (sink : δ) (config : PlayerConfig) : Session γ δ where
  player := some (.start core {} sink config)

/-- Makes a core from a cartridge image and starts a session over it.  When
the core refuses the image there is no session. -/
def create (rom : Bytes) (sink : δ) (config : PlayerConfig) :
    Logged (Except SessionError (Session γ δ)) := do
  match ← (Core.load rom : Logged (Except CartridgeError γ)) with
  | .error reason => pure (.error (.cartridge reason))
  | .ok core => do
    Logged.log (.sessionStarted rom.size)
    pure (.ok (ofCore core sink config))

/-- Whether the session can still be used. -/
def isLive (session : Session γ δ) : Bool := session.player.isSome

/-- Uses the player of a live session. -/
def withPlayer (session : Session γ δ)
    (use : Player γ δ → Logged (α × Player γ δ)) :
    Logged (Except SessionError α × Session γ δ) :=
  match session.player with
  | none => pure (.error .shutDown, session)
  | some player => do
    let (a, player) ← use player
    pure (.ok a, { session with player := some player })

/-- Reads something off the player of a live session. -/
def read (session : Session γ δ) (f : Player γ δ → α) : Except SessionError α :=
  match session.player with
  | none => .error .shutDown
  | some player => .ok (f player)

/-- Carries out a request. -/
def request (session : Session γ δ) (r : Request) :
    Logged (Except SessionError Unit × Session γ δ) :=
  session.withPlayer fun player => do
    let player ← player.request r
    pure ((), player)

/-- One display refresh. -/
def tick (session : Session γ δ) (now : Float) :
    Logged (Except SessionError Outcome × Session γ δ) :=
  session.withPlayer fun player => player.tick now

/-- Releases the core and hands back the screen and the sink; there is
nothing to hand back a second time. -/
def shutdown (session : Session γ δ) : Logged (Option (Screen × δ) × Session γ δ) :=
  match session.player with
  | none => pure (none, session)
  | some player => do
    Logged.log (.sessionShutDown player.deck.counters.ticks.val)
    pure (some (player.screen, player.sink), ⟨none, session.releases + 1⟩)

/-- Ends a session that is no longer referred to, releasing its core unless
that has happened. -/
def drop (session : Session γ δ) : Logged (Session γ δ) :=
  match session.player with
  | none => pure session
  | some _ => do
    Logged.log .sessionDropped
    pure ⟨none, session.releases + 1⟩

end Session

end HandheldHost
