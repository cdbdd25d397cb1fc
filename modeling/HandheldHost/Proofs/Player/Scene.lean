import HandheldHost.Proofs.Core.Attempts
import HandheldHost.Proofs.Player.Run

/-!
# Scenes

What the debug view of a player over the pattern core shows, and how that goes
on, hangs on four things: the core, the mode, the counters and the last fault.
They are a scene, and a tick makes another scene of it.  Of the core no more
counts than instructions depend on, so buttons have no part in it.

* `Scene.next`, `Scene.view` -- the scene after a tick, and what it looks like.
* `Scene.attempted` -- the scene after so many attempts to advance the core;
  `Scene.next_attempted`, `Scene.next_attempted_of_paused` -- how they go on.
* `Player.Plays` -- a player shows a scene, its debug view being on;
  `Player.Plays.next` -- and goes on showing what becomes of it.
-/

namespace HandheldHost

namespace Counter

theorem ofNat_ne_zero {n : Nat} (positive : 0 < n) : ofNat n ≠ zero := by
  intro none
  have val : min n limit = 0 := congrArg Counter.val none
  have : 0 < limit := by decide
  omega

@[simp] theorem bump_ofNat (n : Nat) : (ofNat n).bump = ofNat (n + 1) := by
  apply ext
  show min (min n limit + 1) limit = min (n + 1) limit
  omega

end Counter

/-- What decides about the debug view of a player over the pattern core. -/
structure Scene where
  core : PatternCore
  mode : Mode
  counters : Counters := {}
  /-- The last fault. -/
  fault : Option Fault := none

namespace Scene

/-- What the next tick finds. -/
def sight (s : Scene) : Sight PatternCore :=
  match s.mode.stride with
  | none => ⟨none, s.core⟩
  | some stride =>
    ⟨(Core.advance stride s.core).value.1, (Core.advance stride s.core).value.2⟩

/-- The advance that the next tick completes. -/
def completed (s : Scene) : Option Stride :=
  if s.sight.fault.isSome then none else s.mode.stride

/-- The scene after a tick. -/
def next (s : Scene) : Scene where
  core := s.sight.core
  mode := if s.sight.fault.isSome then .paused else s.mode.planned
  counters :=
    { ticks := s.counters.ticks.bump
      frames :=
        if s.completed = some .frame then s.counters.frames.bump else s.counters.frames
      instructions :=
        if s.completed = some .instruction then s.counters.instructions.bump
        else s.counters.instructions
      faults := if s.sight.fault.isSome then s.counters.faults.bump else s.counters.faults }
  fault := s.sight.fault.or s.fault

/-- What the debug view of 48 octets shows of a scene: nothing before the first
tick. -/
def view (s : Scene) : Inspection :=
  if s.counters.ticks = .zero then {}
  else
    { registers := s.core.registers
      window := ⟨s.core.registers.pc, s.core.window 48⟩
      counters := s.counters
      fault := s.fault.map Fault.text }

theorem view_next (s : Scene) :
    s.next.view =
      { registers := s.sight.core.registers
        window := ⟨s.sight.core.registers.pc, s.sight.core.window 48⟩
        counters := s.next.counters
        fault := (s.sight.fault.or s.fault).map Fault.text } := by
  have ticked : s.next.counters.ticks ≠ .zero :=
    Counter.ofNat_ne_zero s.counters.ticks.val.succ_pos
  rw [view, if_neg ticked]
  rfl

/-! ## Attempts -/

/-- The scene after `n` attempts to advance a core by strides of one kind. -/
noncomputable def attempted (stride : Stride) (core : PatternCore) (n : Nat) (mode : Mode)
    (ticks : Nat) : Scene where
  core := core.attempted stride n
  mode := mode
  counters :=
    { ticks := .ofNat ticks
      frames := if stride = .frame then .ofNat (core.completed stride n) else .zero
      instructions := if stride = .instruction then .ofNat (core.completed stride n) else .zero
      faults := .ofNat (if (core.met stride n).isSome then 1 else 0) }
  fault := core.met stride n

variable {stride : Stride} {core : PatternCore}

theorem attempted_zero (mode : Mode) :
    attempted stride core 0 mode 0 = ⟨core, mode, {}, none⟩ := by
  have none_yet : core.completed stride 0 = 0 := PatternCore.completed_of_le (by simp)
  rw [attempted, none_yet]
  cases stride <;> rfl

/-- From the first tick on the debug view shows the core. -/
theorem view_attempted {n ticks : Nat} (ticked : 0 < ticks) (mode : Mode) :
    (attempted stride core n mode ticks).view =
      { registers := (core.attempted stride n).registers
        window := ⟨(core.attempted stride n).registers.pc, (core.attempted stride n).window 48⟩
        counters := (attempted stride core n mode ticks).counters
        fault := (core.met stride n).map Fault.text } :=
  if_neg (Counter.ofNat_ne_zero ticked)

/-- A tick that advances the core makes the next attempt. -/
theorem next_attempted {n : Nat} {mode : Mode} (planned : mode.stride = some stride)
    (unmet : core.met stride n = none) (ticks : Nat) :
    (attempted stride core n mode ticks).next =
      attempted stride core (n + 1)
        (if (core.met stride (n + 1)).isSome then .paused else mode.planned) (ticks + 1) := by
  have sight_eq : (attempted stride core n mode ticks).sight =
      ⟨core.faultAt stride n, core.attempted stride (n + 1)⟩ := by
    rw [sight, show (attempted stride core n mode ticks).mode.stride = some stride from planned]
    rfl
  cases found : core.faultAt stride n with
  | none =>
    have last : core.met stride (n + 1) = none := found
    rw [next, completed, sight_eq]
    cases stride <;>
      simp [attempted, found, unmet, last, planned, PatternCore.completed_succ_of_none found]
  | some fault =>
    have last : core.met stride (n + 1) = some fault := found
    rw [next, completed, sight_eq]
    cases stride <;>
      simp [attempted, found, unmet, last, PatternCore.completed_succ_of_some found]

/-- A tick in the mode paused attempts nothing. -/
theorem next_attempted_of_paused (n ticks : Nat) :
    (attempted stride core n .paused ticks).next = attempted stride core n .paused (ticks + 1) := by
  simp [next, completed, sight, attempted, Mode.stride, Mode.planned]

/-- Once attempts have met a fault, more of them would make no difference. -/
theorem attempted_add_of_met {n : Nat} {fault : Fault} (h : core.met stride n = some fault)
    (more : Nat) (mode : Mode) (ticks : Nat) :
    attempted stride core (n + more) mode ticks = attempted stride core n mode ticks := by
  obtain ⟨again, still, same⟩ := PatternCore.stuck_of_met h more
  rw [attempted, attempted, again, still, same, h]

end Scene

namespace PatternCore

theorem windowShown_eq (core : PatternCore) (size : Nat) :
    Core.windowShown size core = ⟨core.registers.pc, core.window size⟩ := by
  have exact_size : (core.window size).size = size := Array.size_ofFn
  have fits : MemoryWindow.fit (core.window size) size = core.window size := by
    simp [MemoryWindow.fit, exact_size]
  exact congrArg (MemoryWindow.mk core.registers.pc) fits

end PatternCore

namespace Player

variable {δ : Type}

/-- A player shows a scene, and its debug view is on. -/
structure Plays (player : Player PatternCore δ) (s : Scene) : Prop where
  debug : player.deck.debug = true
  windowSize : player.windowSize = 48
  whole : player.core.Whole
  twin : s.core.Twin player.core
  mode_eq : player.deck.mode = s.mode
  counters_eq : player.deck.counters = s.counters
  fault_eq : player.deck.lastFault = s.fault
  told : player.deck.inspection.fault = s.fault.map Fault.text
  view_eq : player.deck.inspection = s.view

/-- A player that has not ticked shows the core at its entry point. -/
theorem plays_start (rom : Bytes) (screen : Screen) (sink : δ) {config : PlayerConfig}
    (debug : config.debug = true) (windowSize : config.windowSize = 48) :
    (start (.boot rom) screen sink config).Plays ⟨.boot rom, config.mode, {}, none⟩ where
  debug := debug
  windowSize := windowSize
  whole := PatternCore.whole_boot rom
  twin := .refl _
  mode_eq := rfl
  counters_eq := rfl
  fault_eq := rfl
  told := rfl
  view_eq := by
    rw [Scene.view, if_pos rfl]
    rfl

namespace Plays

variable {player : Player PatternCore δ} {s : Scene} (plays : player.Plays s)
include plays

/-- A button does not show. -/
theorem button (button : Button) (pressed : Bool) :
    (player.request (.button button pressed)).value.Plays s := by
  rw [value_request]
  exact { plays with twin := plays.twin.setButton ⟨button, pressed⟩ }

/-- Asking for a step changes the mode. -/
theorem stepInstruction :
    (player.request .stepInstruction).value.Plays { s with mode := .stepInstruction } := by
  rw [value_request]
  exact { plays with mode_eq := rfl }

/-- What a player finds at a tick is what its scene does, up to what does not
show. -/
theorem sight_eq :
    player.sight.fault = s.sight.fault ∧ s.sight.core.Twin player.sight.core ∧
      player.sight.core.Whole := by
  rw [sight, Scene.sight, plays.mode_eq]
  cases s.mode.stride with
  | none => exact ⟨rfl, plays.twin, plays.whole⟩
  | some stride =>
    obtain ⟨same, twin⟩ := plays.twin.advance stride
    exact ⟨same, twin, plays.whole.advance stride⟩

theorem completed_eq : player.completed = s.completed := by
  rw [completed, Scene.completed, plays.sight_eq.1, plays.mode_eq]

/-- The picture is always there, so a fault is reported just when an advance
faults. -/
theorem reported_eq : player.reported = s.sight.fault := by
  obtain ⟨fault_eq, -, whole⟩ := plays.sight_eq
  obtain ⟨frame, there⟩ := whole.frame
  rw [reported, Sight.reported, Sight.frame, there, fault_eq]
  cases s.sight.fault <;> rfl

theorem failed_eq : player.sight.failed = s.sight.fault.isSome := by
  obtain ⟨fault_eq, -, whole⟩ := plays.sight_eq
  obtain ⟨frame, there⟩ := whole.frame
  simp [Sight.failed, Sight.hasFrame, Sight.frame, there, fault_eq]

theorem nextCounters_eq : player.nextCounters = s.next.counters := by
  simp only [nextCounters, Scene.next, plays.completed_eq, plays.reported_eq, plays.counters_eq]

/-- **A tick goes on to the next scene.** -/
theorem next [FaultSink δ] (now : Float) : (player.next now).Plays s.next := by
  obtain ⟨fault_eq, twin, whole⟩ := plays.sight_eq
  have core_eq : (player.next now).core = player.sight.core := by
    show (if player.deck.debug then _ else _) = _
    rw [plays.debug]
    rfl
  have last_eq : (player.next now).deck.lastFault = s.next.fault := by
    show player.reported.or player.deck.lastFault = _
    rw [plays.reported_eq, plays.fault_eq]
    rfl
  have told : (player.next now).deck.inspection.fault = s.next.fault.map Fault.text := by
    show (player.reported.map Fault.text).or player.deck.inspection.fault = _
    rw [plays.reported_eq, plays.told, Scene.next, Option.map_or]
  refine ⟨plays.debug, plays.windowSize, ?_, ?_, ?_, plays.nextCounters_eq, last_eq, told, ?_⟩
  · rw [core_eq]
    exact whole
  · rw [core_eq]
    exact twin
  · show (if player.sight.failed then Mode.paused else player.deck.mode.planned) = _
    rw [plays.failed_eq, plays.mode_eq]
    rfl
  · have shown : (player.next now).deck.inspection =
        { registers := player.sight.core.registers
          window := Core.windowShown player.windowSize player.sight.core
          counters := player.nextCounters
          fault := (player.next now).deck.inspection.fault } := by
      simp only [Player.next, plays.debug]
      rfl
    rw [shown, told, plays.windowSize, plays.nextCounters_eq, PatternCore.windowShown_eq,
      twin.registers_eq, twin.window_eq, Scene.view_next]
    rfl

end Plays

end Player

end HandheldHost
