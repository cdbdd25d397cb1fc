import HandheldHost.Proofs.Core.Quiet
import HandheldHost.Proofs.Player.Run

/-!
# The debug switch

Debugging must not change what is debugged.  Two players agree if they
differ at most in what the debug switch owns: the switch itself, the size of
the memory window, the registers, memory and counters on view, the number of
refreshes, and whatever a debug read leaves behind in the core.

* `Player.Agree` -- the relation.  Requests and ticks preserve it
  (`Player.Agree.request`, `Player.Agree.next`), and a request to switch
  debugging keeps it when one player alone carries it out
  (`Player.Agree.request_debug`).
* `Player.debug_is_invisible` -- players that start alike and are asked for
  the same things, debugging apart, agree for ever.
-/

namespace HandheldHost

/-- Whether a request is about the debug switch. -/
def Request.isDebug : Request → Bool
  | .toggleDebug | .setDebug _ => true
  | _ => false

/-- Whether an action is a request about the debug switch. -/
def Action.isDebug : Action → Bool
  | .request r => r.isDebug
  | .tick _ => false

/-- An outcome but for whether the debug view was refreshed. -/
def Outcome.played (o : Outcome) : Nat × Option Stride × Bool := (o.tick, o.advanced, o.faulted)

namespace Core.Quiet

variable {γ : Type} [Core γ] (quiet : Quiet γ)

/-- A debug refresh leaves a core in agreement with itself. -/
theorem afterReading_same (size : Nat) (core : γ) : quiet.same core (afterReading size core) :=
  quiet.equivalence.trans (quiet.registers_same core) (quiet.window_same size _)

/-- Cores in agreement stay so if each of them is read or is not. -/
theorem read_same {a b : γ} (h : quiet.same a b) (readA readB : Bool) (sizeA sizeB : Nat) :
    quiet.same (if readA then afterReading sizeA a else a)
      (if readB then afterReading sizeB b else b) := by
  have left : quiet.same (if readA then afterReading sizeA a else a) a := by
    cases readA with
    | false => exact quiet.equivalence.refl a
    | true => exact quiet.equivalence.symm (quiet.afterReading_same sizeA a)
  have right : quiet.same b (if readB then afterReading sizeB b else b) := by
    cases readB with
    | false => exact quiet.equivalence.refl b
    | true => exact quiet.afterReading_same sizeB b
  exact quiet.equivalence.trans left (quiet.equivalence.trans h right)

theorem written_same {a b : γ} (h : quiet.same a b) (write : Option ButtonWrite) :
    quiet.same (written a write) (written b write) := by
  cases write with
  | none => exact h
  | some write => exact quiet.setButton_same write h

end Core.Quiet

namespace Player

variable {γ δ : Type} [Core γ]

/-- The players agree in everything that the debug switch does not own. -/
structure Agree (quiet : Core.Quiet γ) (a b : Player γ δ) : Prop where
  core : quiet.same a.core b.core
  mode : a.deck.mode = b.deck.mode
  joypad : a.deck.joypad = b.deck.joypad
  keys : a.deck.keys = b.deck.keys
  counters : a.deck.counters = b.deck.counters
  lastFault : a.deck.lastFault = b.deck.lastFault
  shownFault : a.deck.inspection.fault = b.deck.inspection.fault
  compositor : a.compositor = b.compositor
  screen : a.screen = b.screen
  sink : a.sink = b.sink
  frameMissing : a.frameMissing = b.frameMissing

namespace Agree

variable {quiet : Core.Quiet γ} {a b c : Player γ δ}

theorem symm (h : Agree quiet a b) : Agree quiet b a :=
  ⟨quiet.equivalence.symm h.core, h.mode.symm, h.joypad.symm, h.keys.symm, h.counters.symm,
    h.lastFault.symm, h.shownFault.symm, h.compositor.symm, h.screen.symm, h.sink.symm,
    h.frameMissing.symm⟩

theorem trans (h : Agree quiet a b) (h' : Agree quiet b c) : Agree quiet a c :=
  ⟨quiet.equivalence.trans h.core h'.core, h.mode.trans h'.mode, h.joypad.trans h'.joypad,
    h.keys.trans h'.keys, h.counters.trans h'.counters, h.lastFault.trans h'.lastFault,
    h.shownFault.trans h'.shownFault, h.compositor.trans h'.compositor,
    h.screen.trans h'.screen, h.sink.trans h'.sink, h.frameMissing.trans h'.frameMissing⟩

/-! ## Requests -/

theorem request (h : Agree quiet a b) (r : Request) :
    Agree quiet (a.request r).value (b.request r).value := by
  rw [value_request, value_request, h.keys]
  refine ⟨quiet.written_same h.core _, congrArg r.mode h.mode, ?_, h.keys, h.counters,
    h.lastFault, h.shownFault, h.compositor, h.screen, h.sink, h.frameMissing⟩
  exact congrArg (fun pad : Joypad => pad.written (r.write? b.deck.keys)) h.joypad

/-- A request about the debug switch changes nothing else. -/
theorem request_debug (h : Agree quiet a b) {r : Request} (debug : r.isDebug = true) :
    Agree quiet (a.request r).value b := by
  cases r with
  | toggleDebug | setDebug =>
    rw [value_request]
    exact ⟨h.core, h.mode, h.joypad, h.keys, h.counters, h.lastFault, h.shownFault, h.compositor,
      h.screen, h.sink, h.frameMissing⟩
  | togglePause | setPaused | stepFrame | stepInstruction | button | key =>
    exact Bool.noConfusion debug

/-! ## Ticks -/

/-- Players that agree find the same fault and cores in agreement. -/
theorem sight (h : Agree quiet a b) :
    a.sight.fault = b.sight.fault ∧ quiet.same a.sight.core b.sight.core := by
  unfold Player.sight
  rw [h.mode]
  cases b.deck.mode.stride with
  | none => exact ⟨rfl, h.core⟩
  | some stride => exact ⟨quiet.fault_eq stride h.core, quiet.advance_same stride h.core⟩

theorem frame_sight (h : Agree quiet a b) : a.sight.frame = b.sight.frame :=
  quiet.frame_eq h.sight.2

theorem hasFrame_sight (h : Agree quiet a b) : a.sight.hasFrame = b.sight.hasFrame := by
  rw [Sight.hasFrame, Sight.hasFrame, h.frame_sight]

theorem failed_sight (h : Agree quiet a b) : a.sight.failed = b.sight.failed := by
  rw [Sight.failed, Sight.failed, h.sight.1, h.hasFrame_sight]

theorem completed (h : Agree quiet a b) : a.completed = b.completed := by
  rw [Player.completed, Player.completed, h.sight.1, h.mode]

theorem reported (h : Agree quiet a b) : a.reported = b.reported := by
  simp only [Player.reported, Sight.reported, h.sight.1, h.frame_sight, h.frameMissing]

theorem nextCounters (h : Agree quiet a b) : a.nextCounters = b.nextCounters := by
  rw [Player.nextCounters, Player.nextCounters, h.counters, h.completed, h.reported]

theorem nextCompositor (h : Agree quiet a b) : a.nextCompositor = b.nextCompositor := by
  rw [Player.nextCompositor, Player.nextCompositor, h.frame_sight, h.compositor]

theorem outcome (h : Agree quiet a b) : a.outcome.played = b.outcome.played := by
  simp only [Player.outcome, Outcome.played, h.nextCounters, h.completed, h.reported]

theorem next [FaultSink δ] (h : Agree quiet a b) (now : Float) :
    Agree quiet (a.next now) (b.next now) where
  core := quiet.read_same h.sight.2 _ _ _ _
  mode := by
    simp only [Player.next, Player.played, h.failed_sight, h.mode]
  joypad := h.joypad
  keys := h.keys
  counters := h.nextCounters
  lastFault := by
    simp only [Player.next, Player.played, h.reported, h.lastFault]
  shownFault := by
    simp only [Player.next, Player.played, h.reported, h.shownFault]
  compositor := h.nextCompositor
  screen := by
    simp only [Player.next, Player.played, h.nextCompositor, h.screen]
  sink := by
    simp only [Player.next, Player.played, h.reported, h.sink, h.nextCounters]
  frameMissing := by
    simp only [Player.next, Player.played, h.hasFrame_sight]

/-! ## Runs -/

variable [FaultSink δ]

/-- One player carries out every action and the other leaves out those about
the debug switch.  They agree at the end, and so do the outcomes of their
ticks. -/
theorem run_filter (h : Agree quiet a b) (actions : List Action) :
    let erased := actions.filter fun act => !act.isDebug
    Agree quiet (a.after actions) (b.after erased) ∧
      (a.outcomes actions).map Outcome.played = (b.outcomes erased).map Outcome.played := by
  induction actions generalizing a b with
  | nil => exact ⟨h, rfl⟩
  | cons act actions ih =>
    cases act with
    | request r =>
      cases debug : r.isDebug with
      | true =>
        rw [List.filter_cons_of_neg (by simp [Action.isDebug, debug])]
        exact ih (h.request_debug debug)
      | false =>
        rw [List.filter_cons_of_pos (by simp [Action.isDebug, debug])]
        exact ih (h.request r)
    | tick now =>
      rw [List.filter_cons_of_pos (by simp [Action.isDebug])]
      have first : (a.tick now).value.1.played = (b.tick now).value.1.played := by
        rw [value_tick, value_tick]
        exact h.outcome
      have agree : Agree quiet (a.act (.tick now)) (b.act (.tick now)) := by
        rw [act_tick, act_tick]
        exact h.next now
      obtain ⟨rest, outcomes⟩ := ih agree
      exact ⟨rest, List.cons_eq_cons.mpr ⟨first, outcomes⟩⟩

end Agree

/-- Players that start with different debug settings agree. -/
theorem agree_start (quiet : Core.Quiet γ) (core : γ) (screen : Screen) (sink : δ)
    (config : PlayerConfig) (debug : Bool) (windowSize : Nat) :
    Agree quiet (start core screen sink config)
      (start core screen sink { config with debug, windowSize }) :=
  ⟨quiet.equivalence.refl core, rfl, rfl, rfl, rfl, rfl, rfl, rfl, rfl, rfl, rfl⟩

/-- **Debugging is invisible.**  Take any core whose debug reads are quiet
and any sink, and two runs from settings that differ in the debug switch and
the window size at most.  If their actions are the same once requests about
the debug switch are left out, then the players agree at the end: their
cores but for what the reads leave behind, mode, buttons, counters, last
fault and its text, canvas, screen and sink.  Tick by tick their outcomes
are the same but for whether the debug view was refreshed. -/
theorem debug_is_invisible [FaultSink δ] (quiet : Core.Quiet γ) (core : γ) (screen : Screen)
    (sink : δ) (config : PlayerConfig) (debug : Bool) (windowSize : Nat)
    (actions actions' : List Action)
    (same : (actions.filter fun act => !act.isDebug) =
      actions'.filter fun act => !act.isDebug) :
    let first := start core screen sink config
    let second := start core screen sink { config with debug, windowSize }
    Agree quiet (first.after actions) (second.after actions') ∧
      (first.outcomes actions).map Outcome.played =
        (second.outcomes actions').map Outcome.played := by
  intro first second
  have start_agree : Agree quiet first second :=
    agree_start quiet core screen sink config debug windowSize
  have self_agree : Agree quiet second second := start_agree.symm.trans start_agree
  obtain ⟨agree, outcomes⟩ := start_agree.run_filter actions
  obtain ⟨agree', outcomes'⟩ := self_agree.run_filter actions'
  rw [← same] at agree' outcomes'
  exact ⟨agree.trans agree'.symm, outcomes.trans outcomes'.symm⟩

/-- A recorder core that faults on its second frame, debugged from the first
tick on and not at all. -/
theorem debug_is_invisible_to_recorder :
    let core : RecorderCore := { RecorderCore.ofGeometry ⟨2, 1⟩ with faultOnFrame := some 2 }
    let debugged : List Action :=
      [.request .toggleDebug, .tick 0, .request (.setPaused false), .tick 16, .tick 33]
    let plain : List Action := [.tick 0, .request (.setPaused false), .tick 16, .tick 33]
    let first := (start core {} ({} : Ledger) {})
    let second := (start core {} ({} : Ledger) { windowSize := 0 })
    Agree RecorderCore.quiet (first.after debugged) (second.after plain) ∧
      (first.outcomes debugged).map Outcome.played =
        (second.outcomes plain).map Outcome.played := by
  intro core debugged plain first second
  have same : (debugged.filter fun act => !act.isDebug) =
      plain.filter fun act => !act.isDebug := rfl
  exact debug_is_invisible RecorderCore.quiet core {} ({} : Ledger) {} false 0 debugged plain same

end Player

end HandheldHost
