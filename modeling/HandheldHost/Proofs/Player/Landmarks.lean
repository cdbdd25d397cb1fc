import HandheldHost.Proofs.Core.Pattern
import HandheldHost.Proofs.Player.Tick

/-!
# What playing logs

The landmarks of a log are the starts and the ends of sessions and the ticks.
Whatever else a player logs stands between them.

* `Player.landmarks_request` -- a request logs no landmark.
* `Player.landmarks_tick` -- a tick logs one, its own, when it is over.
-/

namespace HandheldHost

/-- Whether an event is the start or the end of a session, or a tick. -/
def Event.isLandmark : Event → Bool
  | .sessionStarted _ | .sessionShutDown _ | .sessionDropped | .ticked .. => true
  | _ => false

/-- Whether an event is a tick. -/
def Event.isTick : Event → Bool
  | .ticked .. => true
  | _ => false

theorem Event.isLandmark_of_isTick {e : Event} (h : e.isTick = true) : e.isLandmark = true := by
  cases e with
  | ticked now outcome => rfl
  | _ => cases h

namespace Logged

variable {α β : Type}

@[simp] theorem events_map (f : α → β) (x : Logged α) : (f <$> x).events = x.events :=
  List.append_nil _

/-- The landmarks among the events, in order. -/
def landmarks (x : Logged α) : List Event := x.events.filter Event.isLandmark

@[simp] theorem landmarks_pure (a : α) : (pure a : Logged α).landmarks = [] := rfl

@[simp] theorem landmarks_bind (x : Logged α) (f : α → Logged β) :
    (x >>= f).landmarks = x.landmarks ++ (f x.value).landmarks :=
  List.filter_append _ _

@[simp] theorem landmarks_map (f : α → β) (x : Logged α) : (f <$> x).landmarks = x.landmarks :=
  congrArg (List.filter Event.isLandmark) (events_map f x)

/-- Ticks are looked for among the landmarks. -/
theorem find?_isTick_landmarks (x : Logged α) :
    x.landmarks.find? Event.isTick = x.events.find? Event.isTick := by
  rw [landmarks, List.find?_filter]
  congr 1
  funext e
  cases tick : e.isTick with
  | false => simp
  | true => simp [Event.isLandmark_of_isTick tick]

theorem landmarks_log_of_isLandmark {e : Event} (h : e.isLandmark = true) :
    (log e).landmarks = [e] :=
  List.filter_cons_of_pos h

end Logged

open Logged

/-! ## Cores -/

namespace PatternCore

theorem landmarks_step (core : PatternCore) : core.step.landmarks = [] := by
  unfold step
  cases core.faultHere <;> rfl

theorem landmarks_steps (n : Nat) (core : PatternCore) : (core.steps n).landmarks = [] := by
  induction n generalizing core with
  | zero => rfl
  | succ n ih =>
    rw [steps, landmarks_bind, landmarks_step, value_step, List.nil_append]
    cases core.faultHere with
    | some fault => rfl
    | none => exact ih _

theorem landmarks_advance (stride : Stride) (core : PatternCore) :
    (Core.advance stride core).landmarks = [] := by
  cases stride with
  | instruction => exact core.landmarks_step
  | frame =>
    show core.stepFrame.landmarks = []
    rw [stepFrame, landmarks_bind, landmarks_steps, List.nil_append]
    rcases (core.steps instructionsPerFrame).value with ⟨_ | fault, left⟩ <;> rfl

end PatternCore

theorem Core.landmarks_inspect {γ : Type} [Core γ] (core : γ) (deck : Deck) (size : Nat) :
    (inspect core deck size).landmarks = [] := by
  simp only [inspect, readWindow, landmarks_bind, landmarks_pure, List.append_nil]
  split <;> rfl

/-! ## Decks -/

namespace Deck

theorem landmarks_forcePause (deck : Deck) : deck.forcePause.landmarks = [] := by
  unfold forcePause
  split <;> rfl

theorem landmarks_recordFault (deck : Deck) (fault : Fault) :
    (deck.recordFault fault).landmarks = [] := by
  rw [recordFault, landmarks_bind, landmarks_forcePause]
  rfl

theorem landmarks_request (deck : Deck) (r : Request) : (deck.request r).landmarks = [] := by
  cases r with
  | key code pressed =>
    rw [request]
    cases deck.keys.resolve code <;> rfl
  | _ => rfl

end Deck

theorem Compositor.landmarks_accept (c : Compositor) (frame : Frame) :
    (c.accept frame).landmarks = [] := by
  unfold accept
  split <;> rfl

/-! ## Players -/

namespace Player

theorem landmarks_request {γ δ : Type} [Core γ] (player : Player γ δ) (r : Request) :
    (player.request r).landmarks = [] := by
  rw [request, landmarks_bind, Deck.landmarks_request, List.nil_append]
  rcases (player.deck.request r).value with ⟨deck, _ | write⟩ <;> rfl

theorem landmarks_note {γ δ : Type} (player : Player γ δ) (now : Float) :
    (player.note now).landmarks = [] := by
  unfold note
  split
  · split <;> rfl
  · rfl

theorem landmarks_refreshDebug {γ δ : Type} [Core γ] (player : Player γ δ) :
    player.refreshDebug.landmarks = [] := by
  unfold refreshDebug
  split
  · simp only [landmarks_bind, Core.landmarks_inspect, landmarks_pure, List.append_nil]
  · rfl

theorem landmarks_report {γ : Type} (player : Player γ Ledger) (tick : Nat) (fault : Fault) :
    (player.report tick fault).landmarks = [] := by
  simp only [report, landmarks_bind, Deck.landmarks_recordFault, landmarks_pure, List.append_nil]
  rfl

theorem landmarks_advance (player : Player PatternCore Ledger) :
    player.advance.landmarks = [] := by
  unfold advance
  rcases player.deck.plan with ⟨_ | stride, deck⟩
  · rfl
  · simp only [landmarks_bind, PatternCore.landmarks_advance, List.nil_append]
    cases (Core.advance stride player.core).value.1 with
    | none => rfl
    | some fault => simp only [landmarks_bind, landmarks_report, landmarks_pure, List.append_nil]

theorem landmarks_refreshScreen (player : Player PatternCore Ledger) (faulted : Bool) :
    (player.refreshScreen faulted).landmarks = [] := by
  unfold refreshScreen
  cases Core.frame player.core with
  | ok frame =>
    simp only [landmarks_bind, Compositor.landmarks_accept, landmarks_pure, List.append_nil]
  | error defect =>
    dsimp only
    split <;> simp only [landmarks_bind, Deck.landmarks_forcePause, landmarks_report,
      landmarks_pure, List.append_nil]

/-- **A tick is one landmark**: whatever it logs before it is none. -/
theorem landmarks_tick (player : Player PatternCore Ledger) (now : Float) :
    (player.tick now).landmarks = [.ticked now player.outcome] := by
  -- Only the last event is one, and its outcome is the value of the tick.
  have last : (player.tick now).landmarks = [.ticked now (player.tick now).value.1] := by
    simp only [tick, landmarks_bind, landmarks_note, landmarks_advance, landmarks_refreshScreen,
      landmarks_refreshDebug, landmarks_pure, List.nil_append, List.append_nil]
    exact landmarks_log_of_isLandmark rfl
  rw [last, player.value_tick]

end Player

end HandheldHost
