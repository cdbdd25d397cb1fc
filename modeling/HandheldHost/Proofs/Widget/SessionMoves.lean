import HandheldHost.Proofs.Player.Landmarks
import HandheldHost.Proofs.Widget.Settled

/-!
# What can happen to the session of a widget

Three things can: its player acts, another session is started in its place, and
it is shut down.  These are the moves.  What holds of all moves holds of
everything a widget does, as each of its computations is made of them.

* `SessionMove.run` -- a move and what it logs; `SessionMove.run_start_cases`,
  `SessionMove.run_shutdown`, `SessionMove.value_run_act` -- each of them.
* `SessionMove.runAll_of_ended` -- a session that has ended stays as it is until
  another is started.
* `SessionMove.runAll_acts` -- acts start and end nothing.
* `SessionMove.freshOr_runAll` -- the first tick of a fresh session has number 1.
-/

namespace HandheldHost

/-! ## Moves -/

/-- Something that happens to the session of a widget. -/
inductive SessionMove where
  /-- The player of the session acts. -/
  | act (a : Action)
  /-- A session is started from a cartridge image, in place of any other. -/
  | start (rom : Bytes) (debug : Bool)
  /-- The session is shut down. -/
  | shutdown

namespace SessionMove

/-- Makes a move; gives the session that is there afterwards.  Without a
session there is nothing to act or to shut down, and an image that is refused
changes nothing. -/
def run : SessionMove → Option WidgetSession → Logged (Option WidgetSession)
  | .act _, none => pure none
  | .act (.request r), some viewer => do
    let (_, viewer) ← viewer.request r
    pure (some viewer)
  | .act (.tick now), some viewer => do
    let (_, viewer) ← viewer.tick now
    pure (some viewer)
  | .start rom debug, session => do
    match ← (Viewer.create rom default { debug } :
        Logged (Except SessionError WidgetSession)) with
    | .error _ => pure session
    | .ok viewer => do
      match session with
      | none => pure ()
      | some previous => do
        let _ ← previous.shutdown
      pure (some viewer)
  | .shutdown, none => pure none
  | .shutdown, some viewer => do
    let (_, viewer) ← viewer.shutdown
    pure (some viewer)

/-- Makes moves, one after the other. -/
def runAll (moves : List SessionMove) (session : Option WidgetSession) :
    Logged (Option WidgetSession) :=
  moves.foldlM (fun session move => move.run session) session

@[simp] theorem runAll_nil (session : Option WidgetSession) : runAll [] session = pure session :=
  rfl

theorem runAll_cons (move : SessionMove) (moves : List SessionMove)
    (session : Option WidgetSession) :
    runAll (move :: moves) session = move.run session >>= runAll moves := rfl

@[simp] theorem runAll_singleton (move : SessionMove) (session : Option WidgetSession) :
    runAll [move] session = move.run session :=
  bind_pure _

theorem runAll_append (moves more : List SessionMove) (session : Option WidgetSession) :
    runAll (moves ++ more) session = runAll moves session >>= runAll more :=
  List.foldlM_append

/-! ## Each move -/

/-- The player of a session, if there is one and it is live. -/
def player? (session : Option WidgetSession) : Option (Player PatternCore Ledger) :=
  session.bind fun viewer => viewer.session.player

/-- What the end of a session logs, if there is one and it is live. -/
def ending (session : Option WidgetSession) : List Event :=
  ((player? session).map fun player => .sessionShutDown player.deck.counters.ticks.val).toList

/-- The landmark that an action leaves in the log, if there is a live
session. -/
def mark (session : Option WidgetSession) : Action → List Event
  | .request _ => []
  | .tick now => ((player? session).map fun player => .ticked now player.outcome).toList

theorem events_shutdown (viewer : WidgetSession) :
    viewer.shutdown.events = ending (some viewer) := by
  obtain ⟨_ | player, releases⟩ := viewer <;> rfl

theorem run_start_of_large {rom : Bytes} (large : PatternCore.minimumRom ≤ rom.size) (debug : Bool)
    (session : Option WidgetSession) :
    run (.start rom debug) session =
      ⟨some ⟨.live (.start (.boot rom) {} default { debug })⟩,
        [.patternLoaded rom.size, .sessionStarted rom.size] ++ ending session⟩ := by
  rw [run, Viewer.create_of_large large]
  cases session with
  | none => rfl
  | some previous => exact Logged.ext rfl (by simp [events_shutdown])

theorem run_start_of_refused {rom : Bytes} {reason : CartridgeError}
    (refused : PatternCore.load rom = pure (.error reason)) (debug : Bool)
    (session : Option WidgetSession) : run (.start rom debug) session = pure session := by
  rw [run, Viewer.create_of_refused refused]
  rfl

/-- Starting a session does nothing, or it puts a new session in place of any
other. -/
theorem run_start_cases (rom : Bytes) (debug : Bool) (session : Option WidgetSession) :
    run (.start rom debug) session = pure session ∨
      run (.start rom debug) session =
        ⟨some ⟨.live (.start (.boot rom) {} default { debug })⟩,
          [.patternLoaded rom.size, .sessionStarted rom.size] ++ ending session⟩ := by
  rcases Nat.lt_or_ge rom.size PatternCore.minimumRom with small | large
  · obtain ⟨reason, refused⟩ := PatternCore.load_of_small small
    exact .inl (run_start_of_refused refused debug session)
  · exact .inr (run_start_of_large large debug session)

theorem run_shutdown (session : Option WidgetSession) :
    run .shutdown session =
      ⟨session.map fun viewer => viewer.shutdown.value.2, ending session⟩ := by
  cases session with
  | none => rfl
  | some viewer => exact Logged.ext rfl (by simp [run, events_shutdown])

theorem player?_run_shutdown (session : Option WidgetSession) :
    player? (run .shutdown session).value = none := by
  rcases session with _ | ⟨_ | player, releases⟩ <;> rfl

theorem value_run_act (a : Action) (session : Option WidgetSession) :
    (run (.act a) session).value = session.map fun viewer => viewer.played [a] := by
  cases session with
  | none => rfl
  | some viewer =>
    cases a with
    | request r => exact congrArg some (viewer.left_request r)
    | tick now => exact congrArg some (viewer.left_tick now)

theorem player?_run_act (a : Action) (session : Option WidgetSession) :
    player? (run (.act a) session).value = (player? session).map fun player => player.act a := by
  rw [value_run_act]
  rcases session with _ | ⟨_ | player, releases⟩ <;> rfl

theorem landmarks_run_act (a : Action) (session : Option WidgetSession) :
    (run (.act a) session).landmarks = mark session a := by
  rcases session with _ | ⟨_ | player, releases⟩
  · cases a <;> rfl
  · cases a <;> rfl
  · cases a with
    | request r =>
      simp [run, Viewer.request, Session.request, Session.withPlayer, Player.landmarks_request, mark]
    | tick now =>
      simp [run, Viewer.tick, Session.withPlayer, Player.landmarks_tick, mark, player?]

/-! ## Lists of moves -/

/-- A session that has ended is left alone for as long as no other is
started. -/
theorem runAll_of_ended {viewer : WidgetSession} (ended : viewer.session.isLive = false)
    (moves : List SessionMove)
    (silent : ∀ size, .sessionStarted size ∉ (runAll moves (some viewer)).events) :
    runAll moves (some viewer) = pure (some viewer) := by
  obtain ⟨_ | player, releases⟩ := viewer
  · induction moves with
    | nil => rfl
    | cons move moves ih =>
      have still : move.run (some ⟨⟨none, releases⟩⟩) = pure (some ⟨⟨none, releases⟩⟩) := by
        cases move with
        | act a => cases a <;> rfl
        | shutdown => rfl
        | start rom debug =>
          rcases run_start_cases rom debug (some ⟨⟨none, releases⟩⟩) with refused | started
          · exact refused
          · rw [runAll_cons, started] at silent
            exact absurd (by simp) (silent rom.size)
      rw [runAll_cons, still, pure_bind] at silent ⊢
      exact ih silent
  · cases ended

/-- Acts are actions of the player of the session, and the landmarks they
leave in the log are ticks. -/
theorem runAll_acts {moves : List SessionMove} (acts : ∀ m ∈ moves, ∃ a, m = .act a)
    (session : Option WidgetSession) :
    (∃ actions, (runAll moves session).value = session.map fun viewer => viewer.played actions) ∧
      ∀ e ∈ (runAll moves session).landmarks, e.isTick = true := by
  induction moves generalizing session with
  | nil => exact ⟨⟨[], by simp⟩, nofun⟩
  | cons move moves ih =>
    obtain ⟨⟨a, rfl⟩, others⟩ := List.forall_mem_cons.mp acts
    obtain ⟨⟨actions, left⟩, ticks⟩ := ih others (run (.act a) session).value
    constructor
    · refine ⟨a :: actions, ?_⟩
      rw [runAll_cons, Logged.value_bind, left, value_run_act, Option.map_map]
      congr 1
      funext viewer
      exact viewer.played_played [a] actions
    · rw [runAll_cons, Logged.landmarks_bind, landmarks_run_act, List.forall_mem_append]
      refine ⟨?_, ticks⟩
      cases a with
      | request r => exact nofun
      | tick now => simp [mark, Event.isTick]

/-- There is a live session as long as none is shut down. -/
theorem isSome_player?_runAll {moves : List SessionMove} (lasting : ∀ m ∈ moves, m ≠ .shutdown)
    {session : Option WidgetSession} (live : (player? session).isSome) :
    (player? (runAll moves session).value).isSome := by
  induction moves generalizing session with
  | nil => exact live
  | cons move moves ih =>
    obtain ⟨first, rest⟩ := List.forall_mem_cons.mp lasting
    have next : (player? (move.run session).value).isSome := by
      cases move with
      | act a =>
        rw [player?_run_act, Option.isSome_map]
        exact live
      | shutdown => exact absurd rfl first
      | start rom debug =>
        rcases run_start_cases rom debug session with refused | started
        · rw [refused]
          exact live
        · rw [started]
          rfl
    exact ih rest next

/-! ## The first tick -/

/-- The player that is there, if there is one, has not ticked. -/
def Fresh (session : Option WidgetSession) : Prop :=
  ∀ player ∈ player? session, player.deck.counters.ticks = .zero

theorem outcome_of_fresh {player : Player PatternCore Ledger}
    (fresh : player.deck.counters.ticks = .zero) : player.outcome.tick = 1 := by
  show player.deck.counters.ticks.bump.val = 1
  rw [fresh]
  rfl

/-- From a session that has not ticked, a computation has logged no tick and
left such a session, or the first tick it has logged has number 1. -/
def FreshOr (x : Logged (Option WidgetSession)) : Prop :=
  match x.events.find? Event.isTick with
  | none => Fresh x.value
  | some e => ∃ now outcome, e = .ticked now outcome ∧ outcome.tick = 1

theorem find?_isTick_ending (session : Option WidgetSession) :
    (ending session).find? Event.isTick = none := by
  unfold ending
  cases player? session <;> rfl

theorem freshOr_run (move : SessionMove) {session : Option WidgetSession} (fresh : Fresh session) :
    FreshOr (move.run session) := by
  unfold FreshOr
  cases move with
  | act a =>
    rw [← Logged.find?_isTick_landmarks, landmarks_run_act]
    cases a with
    | request r =>
      intro player there
      rw [player?_run_act] at there
      obtain ⟨before, present, rfl⟩ := Option.map_eq_some_iff.mp there
      rw [Player.act, Player.value_request]
      exact fresh before present
    | tick now =>
      cases there : player? session with
      | none =>
        simp only [mark, there, Option.map_none, Option.toList_none, List.find?_nil]
        intro player
        rw [player?_run_act, there]
        intro absent
        cases absent
      | some player =>
        simp only [mark, there, Option.map_some, Option.toList_some]
        exact ⟨now, player.outcome, rfl, outcome_of_fresh (fresh player there)⟩
  | start rom debug =>
    rcases run_start_cases rom debug session with refused | started
    · rw [refused]
      exact fresh
    · have silent : ([Event.patternLoaded rom.size, .sessionStarted rom.size] ++
          ending session).find? Event.isTick = none := find?_isTick_ending session
      simp only [started, silent]
      rintro player ⟨⟩
      rfl
  | shutdown =>
    have ended := player?_run_shutdown session
    rw [run_shutdown] at ended ⊢
    simp only [find?_isTick_ending]
    intro player there
    rw [ended] at there
    cases there

/-- **The first tick of a session has number 1**, whatever is done to the
session before it, and whichever session it is in the end. -/
theorem freshOr_runAll (moves : List SessionMove) {session : Option WidgetSession}
    (fresh : Fresh session) : FreshOr (runAll moves session) := by
  induction moves generalizing session with
  | nil => exact fresh
  | cons move moves ih =>
    have first := freshOr_run move fresh
    unfold FreshOr at first ⊢
    rw [runAll_cons, Logged.events_bind, List.find?_append]
    cases logged : (move.run session).events.find? Event.isTick with
    | none =>
      rw [logged] at first
      exact ih first
    | some e =>
      rw [logged] at first
      exact first

end SessionMove

end HandheldHost
