import HandheldHost.Player

/-!
# What a tick does

A tick runs through four phases, two of which may report a fault and pause
playback.  Here each field of the player that a tick leaves is given by
itself, as a function of the player before and of what the tick finds: its
`Sight`.

* `Player.value_tick` -- a tick gives `Player.outcome` and leaves
  `Player.next`.

The theorems about runs rest on this equation alone and never open the
phases again.
-/

namespace HandheldHost

/-! ## The deck -/

namespace Mode

/-- The advance that a tick makes in a mode. -/
def stride : Mode → Option Stride
  | running | stepFrame => some .frame
  | stepInstruction => some .instruction
  | paused => none

/-- The mode once a tick is planned: a single step is over. -/
def planned : Mode → Mode
  | running => running
  | paused | stepFrame | stepInstruction => paused

theorem stride_eq_none_iff (mode : Mode) : mode.stride = none ↔ mode = .paused := by
  cases mode <;> simp [stride]

end Mode

namespace Deck

theorem plan_eq (deck : Deck) :
    deck.plan = (deck.mode.stride,
      { deck with
        mode := deck.mode.planned
        counters := { deck.counters with ticks := deck.counters.ticks.bump } }) := by
  obtain ⟨mode⟩ := deck
  cases mode <;> rfl

theorem value_forcePause (deck : Deck) :
    deck.forcePause.value = { deck with mode := .paused } := by
  obtain ⟨mode⟩ := deck
  cases mode <;> rfl

/-- Recording a fault pauses, counts, and shows the fault. -/
theorem value_recordFault (deck : Deck) (fault : Fault) :
    (deck.recordFault fault).value =
      { deck with
        mode := .paused
        counters := { deck.counters with faults := deck.counters.faults.bump }
        lastFault := some fault
        inspection :=
          { deck.inspection with
            counters := { deck.counters with faults := deck.counters.faults.bump }
            fault := some fault.text } } := by
  simp only [recordFault, Logged.value_bind, Logged.value_pure, value_forcePause]
  rfl

/-- A completed advance is counted, and the debug view shows the count. -/
theorem countAdvance_eq (deck : Deck) (stride : Stride) :
    deck.countAdvance stride =
      let counters :=
        match stride with
        | .frame => { deck.counters with frames := deck.counters.frames.bump }
        | .instruction => { deck.counters with instructions := deck.counters.instructions.bump }
      { deck with counters, inspection := { deck.inspection with counters } } := rfl

end Deck

/-! ## What a tick finds -/

/-- What a tick finds: the fault that ended its advance, if one did, and the
core once the advance is over. -/
structure Sight (γ : Type) where
  fault : Option Fault
  core : γ

namespace Sight

variable {γ : Type} [Core γ]

/-- The frame that the core shows. -/
def frame (s : Sight γ) : Except FrameDefect Frame := Core.frame s.core

/-- Whether the frame can be fetched. -/
def hasFrame (s : Sight γ) : Bool :=
  match s.frame with
  | .ok _ => true
  | .error _ => false

/-- Whether the advance faulted or there is no frame. -/
def failed (s : Sight γ) : Bool := s.fault.isSome || !s.hasFrame

/-- The fault to report: that of the advance, or else the lack of a frame
unless the last tick had none either. -/
def reported (s : Sight γ) (missing : Bool) : Option Fault :=
  match s.fault, s.frame with
  | some fault, _ => some fault
  | none, .ok _ => none
  | none, .error defect => if missing then none else some ⟨defect.message, none⟩

theorem hasFrame_iff (s : Sight γ) : s.hasFrame = true ↔ ∃ frame, s.frame = .ok frame := by
  unfold hasFrame
  cases s.frame <;> simp

theorem failed_eq_false_iff (s : Sight γ) :
    s.failed = false ↔ s.fault = none ∧ ∃ frame, s.frame = .ok frame := by
  rw [failed, Bool.or_eq_false_iff, Option.isSome_eq_false_iff, Option.isNone_iff_eq_none,
    Bool.not_eq_false', hasFrame_iff]

end Sight

namespace Core

variable {γ : Type} [Core γ]

/-- The core once registers and `size` octets of memory have been read. -/
def afterReading (size : Nat) (core : γ) : γ := (window size (registers core).2).2

/-- The memory window that a debug refresh of `size` octets shows. -/
def windowShown (size : Nat) (core : γ) : MemoryWindow :=
  ⟨windowBase (afterReading size core), MemoryWindow.fit (window size (registers core).2).1 size⟩

theorem value_inspect (core : γ) (deck : Deck) (size : Nat) :
    (inspect core deck size).value =
      (deck.publish (registers core).1 (windowShown size core).base (windowShown size core).bytes,
        afterReading size core) := by
  simp only [inspect, readWindow, Logged.value_bind]
  split <;> rfl

end Core

namespace Player

section

variable {γ δ : Type} [Core γ] [FaultSink δ]

/-- What the next tick finds. -/
def sight (player : Player γ δ) : Sight γ :=
  match player.deck.mode.stride with
  | none => ⟨none, player.core⟩
  | some stride =>
    ⟨(Core.advance stride player.core).value.1, (Core.advance stride player.core).value.2⟩

/-- The advance that the next tick completes. -/
def completed (player : Player γ δ) : Option Stride :=
  if player.sight.fault.isSome then none else player.deck.mode.stride

/-- The fault that the next tick reports. -/
def reported (player : Player γ δ) : Option Fault := player.sight.reported player.frameMissing

/-! ## What a tick leaves -/

/-- The counters that the next tick leaves. -/
def nextCounters (player : Player γ δ) : Counters where
  ticks := player.deck.counters.ticks.bump
  frames :=
    if player.completed = some .frame then player.deck.counters.frames.bump
    else player.deck.counters.frames
  instructions :=
    if player.completed = some .instruction then player.deck.counters.instructions.bump
    else player.deck.counters.instructions
  faults :=
    if player.reported.isSome then player.deck.counters.faults.bump
    else player.deck.counters.faults

/-- The compositor that the next tick leaves. -/
def nextCompositor (player : Player γ δ) : Compositor :=
  match player.sight.frame with
  | .ok frame => (player.compositor.accept frame).value
  | .error _ => player.compositor

/-- The player that the next tick leaves when it does not refresh the debug
view. -/
def played (player : Player γ δ) (now : Float) : Player γ δ where
  core := player.sight.core
  deck :=
    { player.deck with
      mode := if player.sight.failed then .paused else player.deck.mode.planned
      counters := player.nextCounters
      lastFault := player.reported.or player.deck.lastFault
      inspection :=
        { player.deck.inspection with
          counters :=
            if player.completed.isSome || player.reported.isSome then player.nextCounters
            else player.deck.inspection.counters
          fault := (player.reported.map Fault.text).or player.deck.inspection.fault } }
  compositor := player.nextCompositor
  screen := player.nextCompositor.present player.screen
  sink :=
    match player.reported with
    | none => player.sink
    | some fault => (FaultSink.report player.nextCounters.ticks.val fault player.sink).value
  windowSize := player.windowSize
  frameMissing := !player.sight.hasFrame
  lastStamp := some now

/-- The player that the next tick leaves. -/
def next (player : Player γ δ) (now : Float) : Player γ δ :=
  let played := player.played now
  let debug := player.deck.debug
  let inspection := played.deck.inspection
  { played with
    core := if debug then Core.afterReading player.windowSize played.core else played.core
    deck :=
      { played.deck with
        inspection :=
          { inspection with
            registers := if debug then (Core.registers played.core).1 else inspection.registers
            window :=
              if debug then Core.windowShown player.windowSize played.core else inspection.window
            counters := if debug then player.nextCounters else inspection.counters }
        refreshes := if debug then player.deck.refreshes.bump else player.deck.refreshes } }

/-- The outcome of the next tick. -/
def outcome (player : Player γ δ) : Outcome where
  tick := player.nextCounters.ticks.val
  advanced := player.completed
  faulted := player.reported.isSome
  debugRefreshed := player.deck.debug

/-- The next tick adds the report that it makes, if it makes one. -/
theorem reports_next (player : Player γ Ledger) (now : Float) :
    (player.next now).sink.reports =
      player.sink.reports ++
        player.reported.toList.map fun fault => (player.nextCounters.ticks.val, fault) := by
  simp only [next, played]
  cases player.reported with
  | none => exact (List.append_nil _).symm
  | some fault => rfl

end

/-! ## The phases of a tick -/

variable {γ δ : Type}

theorem value_note (player : Player γ δ) (now : Float) :
    (player.note now).value = { player with lastStamp := some now } := by
  unfold note
  split
  · split <;> rfl
  · rfl

theorem value_report [FaultSink δ] (player : Player γ δ) (tick : Nat) (fault : Fault) :
    (player.report tick fault).value =
      { player with
        sink := (FaultSink.report tick fault player.sink).value
        deck := (player.deck.recordFault fault).value } := rfl

variable [Core γ]

theorem value_refreshDebug (player : Player γ δ) :
    player.refreshDebug.value =
      (player.deck.debug,
        if player.deck.debug then
          { player with
            core := Core.afterReading player.windowSize player.core
            deck :=
              (player.deck.publish (Core.registers player.core).1
                (Core.windowShown player.windowSize player.core).base
                (Core.windowShown player.windowSize player.core).bytes).syncCounters }
        else player) := by
  unfold refreshDebug
  cases hd : player.deck.debug
  · rfl
  · simp only [if_pos, Logged.value_bind, Logged.value_pure, Core.value_inspect]

variable [FaultSink δ]

theorem value_advance (player : Player γ δ) :
    player.advance.value =
      ((player.completed, player.sight.fault.isSome),
        match player.sight.fault, player.deck.mode.stride with
        | some fault, _ =>
          { player with
            core := player.sight.core
            sink :=
              (FaultSink.report player.deck.counters.ticks.bump.val fault player.sink).value
            deck := (player.deck.plan.2.recordFault fault).value }
        | none, some stride =>
          { player with
            core := player.sight.core
            deck := player.deck.plan.2.countAdvance stride }
        | none, none =>
          { player with
            core := player.sight.core
            deck := player.deck.plan.2 }) := by
  unfold advance completed sight
  simp only [Deck.plan_eq]
  cases hs : player.deck.mode.stride with
  | none => simp
  | some stride =>
    simp only [Logged.value_bind]
    rcases Option.eq_none_or_eq_some (Core.advance stride player.core).value.1 with hf | ⟨fault, hf⟩
    · simp [hf]
    · simp [hf, value_report]

theorem value_refreshScreen (player : Player γ δ) (faulted : Bool) :
    (player.refreshScreen faulted).value =
      match Core.frame player.core with
      | .ok frame =>
        (faulted,
          { player with
            compositor := (player.compositor.accept frame).value
            screen := (player.compositor.accept frame).value.present player.screen
            frameMissing := false })
      | .error defect =>
        if player.frameMissing || faulted then
          (faulted,
            { player with
              deck := { player.deck with mode := .paused }
              screen := player.compositor.present player.screen
              frameMissing := true })
        else
          (true,
            { player with
              sink :=
                (FaultSink.report player.deck.counters.ticks.val ⟨defect.message, none⟩
                  player.sink).value
              deck := (player.deck.recordFault ⟨defect.message, none⟩).value
              screen := player.compositor.present player.screen
              frameMissing := true }) := by
  unfold refreshScreen
  cases Core.frame player.core with
  | ok frame => rfl
  | error defect =>
    by_cases silent : (player.frameMissing || faulted) = true
    · simp only [if_pos silent, Logged.value_bind, Logged.value_pure, Deck.value_forcePause]
    · simp only [if_neg silent, Logged.value_bind, Logged.value_pure, value_report]

/-- Before the debug view is refreshed, a tick has left the player as it is
when there is no refresh. -/
theorem value_play (player : Player γ δ) (now : Float) :
    (({ player with lastStamp := some now } : Player γ δ).advance.value.2.refreshScreen
      player.sight.fault.isSome).value = (player.reported.isSome, player.played now) := by
  have sight_eq : ({ player with lastStamp := some now } : Player γ δ).sight = player.sight := rfl
  rw [value_advance, value_refreshScreen, sight_eq]
  unfold played nextCounters nextCompositor reported completed
  unfold Sight.failed Sight.reported Sight.hasFrame Sight.frame
  simp only [Deck.plan_eq]
  rcases player.sight with ⟨_ | fault, core⟩
  · -- No fault ended the advance: what is left to report is a missing frame.
    cases player.deck.mode.stride with
    | none =>
      cases Core.frame core <;> cases player.frameMissing <;> simp [Deck.value_recordFault]
    | some stride =>
      cases stride <;> cases Core.frame core <;> cases player.frameMissing <;>
        simp [Deck.value_recordFault, Deck.countAdvance_eq]
  · -- The fault of the advance is reported, and a missing frame is not.
    cases Core.frame core <;> simp [Deck.value_recordFault]

/-- The refresh of the debug view completes a tick. -/
theorem value_refreshDebug_played (player : Player γ δ) (now : Float) :
    (player.played now).refreshDebug.value = (player.deck.debug, player.next now) := by
  rw [value_refreshDebug]
  obtain ⟨core, ⟨mode, debug⟩⟩ := player
  cases debug <;> rfl

/-- **What a tick does**, field by field. -/
theorem value_tick (player : Player γ δ) (now : Float) :
    (player.tick now).value = (player.outcome, player.next now) := by
  have advanced : ({ player with lastStamp := some now } : Player γ δ).advance.value.1 =
      (player.completed, player.sight.fault.isSome) := by
    rw [value_advance]
    rfl
  simp only [tick, Logged.value_bind, Logged.value_pure, value_note, advanced, value_play,
    value_refreshDebug_played]
  rfl

end Player

end HandheldHost
