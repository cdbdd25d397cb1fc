import HandheldHost.Proofs.Core.Pattern
import HandheldHost.Session

/-!
# The life of a session

A session is a player until it is shut down, and nothing afterwards.  The
owner of a session makes calls (`Session.Call`): uses, which a player
understands as well, and shutdowns.

* `Session.use_live`, `Session.call_ended` -- one call, before and after the
  core is released.
* `Session.callAll_live` -- a whole list of calls: the uses before the first
  shutdown are uses of the player, and whatever follows is refused.
* `Session.core_is_released_once` -- what is left after any list of calls, and
  after the session itself is dropped.
-/

namespace HandheldHost

namespace Session

variable {γ δ : Type}

/-! ## Calls -/

/-- A use of the player of a session. -/
inductive Use where
  | request (r : Request)
  | tick (now : Float)
  /-- Ticks for the next stamps of a clock. -/
  | run (clock : Clock) (n : Nat)
  /-- The player is only looked at. -/
  | look
  /-- The player is looked at by someone who might have changed it. -/
  | lookMut
  | isLive

/-- A call of the owner of a session. -/
inductive Call where
  | use (u : Use)
  | shutdown

/-- What a call gives back. -/
inductive Reply (γ δ : Type) where
  | requested (result : Except SessionError Unit)
  | ticked (result : Except SessionError Outcome)
  | ran (result : Except SessionError (Option Outcome × Clock))
  | seen (result : Except SessionError (Player γ δ))
  | live (live : Bool)
  | released (parts : Option (Screen × δ))

/-- The reply of a session whose core is gone. -/
def Call.refusal : Call → Reply γ δ
  | use (.request _) => .requested (.error .shutDown)
  | use (.tick _) => .ticked (.error .shutDown)
  | use (.run _ _) => .ran (.error .shutDown)
  | use .look | use .lookMut => .seen (.error .shutDown)
  | use .isLive => .live false
  | shutdown => .released none

/-- The uses before the first shutdown. -/
def Call.before : List Call → List Use
  | [] | shutdown :: _ => []
  | use u :: calls => u :: before calls

/-- The calls after the first shutdown, if there is one. -/
def Call.after : List Call → Option (List Call)
  | [] => none
  | shutdown :: calls => some calls
  | use _ :: calls => after calls

/-- A session over a player. -/
def live (player : Player γ δ) : Session γ δ := ⟨some player, 0⟩

/-- A session whose core has been released once. -/
def ended : Session γ δ := ⟨none, 1⟩

end Session

open Session in
/-- A use of a player that no session owns. -/
def Player.use {γ δ : Type} [Core γ] [FaultSink δ] (player : Player γ δ) :
    Use → Logged (Reply γ δ × Player γ δ)
  | .request r => do
    let player ← player.request r
    pure (.requested (.ok ()), player)
  | .tick now => do
    let (outcome, player) ← player.tick now
    pure (.ticked (.ok outcome), player)
  | .run clock n => do
    let (outcome, clock, player) ← player.run clock n
    pure (.ran (.ok (outcome, clock)), player)
  | .look | .lookMut => pure (.seen (.ok player), player)
  | .isLive => pure (.live true, player)

open Session in
/-- Uses of a player, one after the other. -/
def Player.useAll {γ δ : Type} [Core γ] [FaultSink δ] (player : Player γ δ) :
    List Use → Logged (List (Reply γ δ) × Player γ δ)
  | [] => pure ([], player)
  | u :: uses => do
    let (reply, player) ← player.use u
    let (replies, player) ← useAll player uses
    pure (reply :: replies, player)

namespace Session

/-- Shutting a live session down hands back the screen and the sink as they
are, and releases the core. -/
theorem shutdown_live {γ δ : Type} (player : Player γ δ) :
    (live player).shutdown = (do
      Logged.log (.sessionShutDown player.deck.counters.ticks.val)
      pure (some (player.screen, player.sink), ended)) := rfl

variable {γ δ : Type} [Core γ] [FaultSink δ]

/-- A use of a session. -/
def use (session : Session γ δ) : Use → Logged (Reply γ δ × Session γ δ)
  | .request r => do
    let (result, session) ← session.request r
    pure (.requested result, session)
  | .tick now => do
    let (result, session) ← session.tick now
    pure (.ticked result, session)
  | .run clock n => do
    let (result, session) ← session.withPlayer fun player => do
      let (outcome, clock, player) ← player.run clock n
      pure ((outcome, clock), player)
    pure (.ran result, session)
  | .look => pure (.seen (session.read id), session)
  | .lookMut => do
    let (result, session) ← session.withPlayer fun player => pure (player, player)
    pure (.seen result, session)
  | .isLive => pure (.live session.isLive, session)

/-- A call of the owner of a session. -/
def call (session : Session γ δ) : Call → Logged (Reply γ δ × Session γ δ)
  | .use u => session.use u
  | .shutdown => do
    let (parts, session) ← session.shutdown
    pure (.released parts, session)

/-- Calls, one after the other. -/
def callAll (session : Session γ δ) : List Call → Logged (List (Reply γ δ) × Session γ δ)
  | [] => pure ([], session)
  | c :: calls => do
    let (reply, session) ← session.call c
    let (replies, session) ← callAll session calls
    pure (reply :: replies, session)

/-! ## One call -/

/-- A use of a live session is that use of its player. -/
theorem use_live (player : Player γ δ) (u : Use) :
    (live player).use u = (do
      let (reply, player) ← player.use u
      pure (reply, live player)) := by
  cases u with
  | request | tick | run => simp [use, live, request, tick, withPlayer, Player.use]
  | look | lookMut | isLive => rfl

/-- A session whose core is gone refuses every call, and nothing happens. -/
theorem call_ended (c : Call) : (ended : Session γ δ).call c = pure (c.refusal, ended) := by
  cases c with
  | shutdown => rfl
  | use u => cases u <;> rfl

/-! ## Lists of calls -/

theorem callAll_ended (calls : List Call) :
    (ended : Session γ δ).callAll calls = pure (calls.map Call.refusal, ended) := by
  induction calls with
  | nil => rfl
  | cons c calls ih =>
    simp only [callAll, call_ended, pure_bind, ih]
    rfl

/-- Every list of calls on a live session: the uses before the first shutdown
are uses of the player, the shutdown hands back what they have left, and the
calls after it are refused. -/
theorem callAll_live (player : Player γ δ) (calls : List Call) :
    (live player).callAll calls = (do
      let (replies, player) ← player.useAll (Call.before calls)
      match Call.after calls with
      | none => pure (replies, live player)
      | some late => do
        Logged.log (.sessionShutDown player.deck.counters.ticks.val)
        pure (replies ++ .released (some (player.screen, player.sink)) ::
          late.map Call.refusal, ended)) := by
  -- Every use leaves another player, up to the shutdown; from there `callAll_ended` takes over.
  induction calls generalizing player with
  | nil => rfl
  | cons c calls ih =>
    cases c with
    | shutdown =>
      simp only [callAll, call, shutdown_live, bind_assoc, pure_bind, callAll_ended]
      rfl
    | use u =>
      simp only [callAll, call, use_live, bind_assoc, pure_bind, ih, Call.before, Call.after,
        Player.useAll]
      cases Call.after calls with
      | none => simp
      | some late => simp

/-- After any list of calls a session is live, over the player that its uses
have left, or it has ended. -/
theorem left_callAll_live (player : Player γ δ) (calls : List Call) :
    ((live player).callAll calls).value.2 =
      match Call.after calls with
      | none => live (player.useAll (Call.before calls)).value.2
      | some _ => ended := by
  rw [callAll_live]
  cases Call.after calls <;> rfl

/-- **A core is released once.**  Take any list of calls on a session over a
core.  Up to the first shutdown the calls are uses of a player that nobody
owns: the same replies, the same log, the same player in the end, and no
release.  The shutdown hands back screen and sink as the last use has left
them and releases the core; every later call is refused, logs nothing and
changes nothing.  Whatever has happened, the core has been released once when
the session is dropped, and a session that has ended is dropped without a
trace.  A cartridge that the core refuses gives no session. -/
theorem core_is_released_once (sink : δ) (config : PlayerConfig) :
    (∀ (core : γ) (calls : List Call),
      let session : Session γ δ := ofCore core sink config
      let left := (session.callAll calls).value.2
      session.callAll calls = (do
          let (replies, player) ← (Player.start core {} sink config).useAll (Call.before calls)
          match Call.after calls with
          | none => pure (replies, live player)
          | some late => do
            Logged.log (.sessionShutDown player.deck.counters.ticks.val)
            pure (replies ++ .released (some (player.screen, player.sink)) ::
              late.map Call.refusal, ended)) ∧
        left.isLive = (Call.after calls).isNone ∧
        left.releases = (if (Call.after calls).isSome then 1 else 0) ∧
        ((Call.after calls).isSome →
          (∀ c, left.call c = pure (c.refusal, left)) ∧ left.drop = pure left) ∧
        left.drop.value.isLive = false ∧ left.drop.value.releases = 1) ∧
      ∀ rom : Bytes,
        (create rom sink config : Logged (Except SessionError (Session γ δ))).value =
          match (Core.load rom : Logged (Except CartridgeError γ)).value with
          | .error reason => .error (.cartridge reason)
          | .ok core => .ok (ofCore core sink config) := by
  constructor
  · intro core calls session left
    have left_eq : left = _ := left_callAll_live (Player.start core {} sink config) calls
    refine ⟨callAll_live _ calls, ?_⟩
    rw [left_eq]
    cases Call.after calls with
    | none => exact ⟨rfl, rfl, nofun, rfl, rfl⟩
    | some late => exact ⟨rfl, rfl, fun _ => ⟨call_ended, rfl⟩, rfl, rfl⟩
  · intro rom
    rw [create, Logged.value_bind]
    cases (Core.load rom : Logged (Except CartridgeError γ)).value <;> rfl

/-! ## Sessions over the pattern core -/

omit [FaultSink δ] in
/-- An image that is large enough gives a session over a fresh player. -/
theorem create_of_large {rom : Bytes} (large : PatternCore.minimumRom ≤ rom.size) (sink : δ)
    (config : PlayerConfig) :
    (create rom sink config : Logged (Except SessionError (Session PatternCore δ))) =
      ⟨.ok (live (.start (.boot rom) {} sink config)),
        [.patternLoaded rom.size, .sessionStarted rom.size]⟩ := by
  have load : (Core.load rom : Logged (Except CartridgeError PatternCore)) = _ :=
    PatternCore.load_of_large large
  rw [create, load]
  rfl

omit [FaultSink δ] in
theorem create_of_refused {rom : Bytes} {reason : CartridgeError}
    (refused : PatternCore.load rom = pure (.error reason)) (sink : δ) (config : PlayerConfig) :
    (create rom sink config : Logged (Except SessionError (Session PatternCore δ))) =
      pure (.error (.cartridge reason)) := by
  have load : (Core.load rom : Logged (Except CartridgeError PatternCore)) = _ := refused
  rw [create, load]
  rfl

end Session

end HandheldHost
