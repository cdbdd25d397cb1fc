import HandheldHost.Proofs.Player.Tick
import Mathlib.Data.List.Induction

/-!
# Runs of a player

A run is a list of actions: what people ask for and the ticks of the
display, in any order.  `Player.after` is the player at the end of a run,
and `Player.gather` collects something from every tick of it.

* `Player.value_request` -- what a request changes, field by field.
* `Player.after_append_singleton`, `Player.gather_append_tick` -- a run
  grows at its end, one action at a time.
* `Player.run_induction` -- invariants of runs are proved from that side.
* `Player.core_after` -- what all operations of a core keep, a run keeps.
-/

namespace HandheldHost

/-! ## Requests -/

namespace Request

/-- The mode after a request. -/
def mode (r : Request) (before : Mode) : Mode :=
  match r with
  | .togglePause => if before = .running then .paused else .running
  | .setPaused paused => if paused then .paused else .running
  | .stepFrame => .stepFrame
  | .stepInstruction => .stepInstruction
  | _ => before

/-- The debug switch after a request. -/
def debug (r : Request) (before : Bool) : Bool :=
  match r with
  | .toggleDebug => !before
  | .setDebug on => on
  | _ => before

/-- The button write that a request asks for, under a key table. -/
def write? (r : Request) (keys : KeyTable) : Option ButtonWrite :=
  match r with
  | .button which pressed => some ⟨which, pressed⟩
  | .key code pressed => (keys.resolve code).map fun which => ⟨which, pressed⟩
  | _ => none

end Request

/-- The flags after a button write that may not have happened. -/
def Joypad.written (pad : Joypad) : Option ButtonWrite → Joypad
  | none => pad
  | some write => pad.set write.button write.pressed

/-- The core after a button write that may not have happened. -/
def Core.written {γ : Type} [Core γ] (core : γ) : Option ButtonWrite → γ
  | none => core
  | some write => setButton write core

theorem Deck.value_request (deck : Deck) (r : Request) :
    (deck.request r).value =
      ({ deck with
          mode := r.mode deck.mode
          debug := r.debug deck.debug
          joypad := deck.joypad.written (r.write? deck.keys) },
        r.write? deck.keys) := by
  cases r with
  | key code pressed =>
    simp only [request, Request.write?]
    cases deck.keys.resolve code <;> rfl
  | _ => rfl

/-- **What a request does**, field by field. -/
theorem Player.value_request {γ δ : Type} [Core γ] (player : Player γ δ) (r : Request) :
    (player.request r).value =
      { player with
        core := Core.written player.core (r.write? player.deck.keys)
        deck :=
          { player.deck with
            mode := r.mode player.deck.mode
            debug := r.debug player.deck.debug
            joypad := player.deck.joypad.written (r.write? player.deck.keys) } } := by
  simp only [request, Logged.value_bind, Deck.value_request]
  cases r.write? player.deck.keys <;> rfl

/-! ## Runs -/

/-- Something that happens to a player. -/
inductive Action where
  /-- A request is carried out. -/
  | request (r : Request)
  /-- The display refreshes at the given stamp. -/
  | tick (now : Float)

/-- Whether an action is a tick. -/
def Action.isTick : Action → Bool
  | request _ => false
  | tick _ => true

namespace Player

variable {γ δ : Type} [Core γ] [FaultSink δ]

/-- The player after an action. -/
def act (player : Player γ δ) : Action → Player γ δ
  | .request r => (player.request r).value
  | .tick now => (player.tick now).value.2

/-- The player after a run. -/
def after (player : Player γ δ) (actions : List Action) : Player γ δ := actions.foldl act player

/-- What `f` gives for every tick of a run, from the player that the tick
starts with and its stamp. -/
def gather {α : Type} (f : Player γ δ → Float → α) (player : Player γ δ) :
    List Action → List α
  | [] => []
  | .request r :: actions => gather f (player.act (.request r)) actions
  | .tick now :: actions => f player now :: gather f (player.act (.tick now)) actions

/-- The outcomes of the ticks of a run, in order. -/
def outcomes : Player γ δ → List Action → List Outcome :=
  gather fun player now => (player.tick now).value.1

/-- What the ticks of a run find, in order. -/
def sights : Player γ δ → List Action → List (Sight γ) := gather fun player _ => player.sight

@[simp] theorem after_nil (player : Player γ δ) : player.after [] = player := rfl

theorem after_append (player : Player γ δ) (actions more : List Action) :
    player.after (actions ++ more) = (player.after actions).after more :=
  List.foldl_append

@[simp] theorem after_append_singleton (player : Player γ δ) (actions : List Action)
    (a : Action) : player.after (actions ++ [a]) = (player.after actions).act a :=
  player.after_append actions [a]

theorem act_tick (player : Player γ δ) (now : Float) :
    player.act (.tick now) = player.next now := by
  rw [act, value_tick]

theorem gather_append {α : Type} (f : Player γ δ → Float → α) (player : Player γ δ)
    (actions more : List Action) :
    player.gather f (actions ++ more) =
      player.gather f actions ++ (player.after actions).gather f more := by
  induction actions generalizing player with
  | nil => rfl
  | cons a actions ih =>
    cases a with
    | request r => exact ih _
    | tick now => exact congrArg (f player now :: ·) (ih _)

@[simp] theorem gather_append_request {α : Type} (f : Player γ δ → Float → α)
    (player : Player γ δ) (actions : List Action) (r : Request) :
    player.gather f (actions ++ [.request r]) = player.gather f actions := by
  rw [gather_append]
  exact List.append_nil _

@[simp] theorem gather_append_tick {α : Type} (f : Player γ δ → Float → α)
    (player : Player γ δ) (actions : List Action) (now : Float) :
    player.gather f (actions ++ [.tick now]) =
      player.gather f actions ++ [f (player.after actions) now] :=
  gather_append f player actions [.tick now]

/-- **Invariants of runs.**  What holds at the start and is carried over
every request and every tick holds after every run.  It may speak of the
actions so far, of the player, and of what the ticks have found. -/
theorem run_induction {motive : List Action → Player γ δ → List (Sight γ) → Prop}
    (player : Player γ δ) (start : motive [] player [])
    (request : ∀ actions q sights r, motive actions q sights →
      motive (actions ++ [.request r]) (q.request r).value sights)
    (tick : ∀ actions q sights now, motive actions q sights →
      motive (actions ++ [.tick now]) (q.next now) (sights ++ [q.sight]))
    (actions : List Action) : motive actions (player.after actions) (player.sights actions) := by
  induction actions using List.reverseRecOn with
  | nil => exact start
  | append_singleton actions a ih =>
    rw [after_append_singleton, sights]
    cases a with
    | request r =>
      rw [gather_append_request]
      exact request _ _ _ r ih
    | tick now =>
      rw [gather_append_tick, act_tick]
      exact tick _ _ _ now ih

end Player

/-! ## Invariants of the core -/

/-- The property is kept by what a tick does with a core: by advances, and by
the reads of the debug view. -/
structure Core.Steady {γ : Type} [Core γ] (P : γ → Prop) : Prop where
  advance : ∀ (stride : Stride) {core : γ}, P core → P (advance stride core).value.2
  registers : ∀ {core : γ}, P core → P (registers core).2
  window : ∀ (size : Nat) {core : γ}, P core → P (window size core).2

/-- The property is kept by every operation that returns a core. -/
structure Core.Keeps {γ : Type} [Core γ] (P : γ → Prop) : Prop extends Core.Steady P where
  setButton : ∀ (write : ButtonWrite) {core : γ}, P core → P (setButton write core)

namespace Player

variable {γ δ : Type} [Core γ] {P : γ → Prop}

theorem core_sight (steady : Core.Steady P) {player : Player γ δ} (h : P player.core) :
    P player.sight.core := by
  unfold sight
  cases player.deck.mode.stride with
  | none => exact h
  | some stride => exact steady.advance stride h

theorem core_request (keeps : Core.Keeps P) {player : Player γ δ} (h : P player.core)
    (r : Request) : P (player.request r).value.core := by
  rw [value_request]
  cases r.write? player.deck.keys with
  | none => exact h
  | some write => exact keeps.setButton write h

variable [FaultSink δ]

/-- A tick that finds the property leaves it, debug reads included. -/
theorem core_next (steady : Core.Steady P) {player : Player γ δ} (h : P player.sight.core)
    (now : Float) : P (player.next now).core := by
  show P (if player.deck.debug then _ else _)
  split
  · exact steady.window _ (steady.registers h)
  · exact h

theorem core_after (keeps : Core.Keeps P) {player : Player γ δ} (h : P player.core)
    (actions : List Action) : P (player.after actions).core := by
  refine run_induction (motive := fun _ q _ => P q.core) player h ?_ ?_ actions
  · intro _ q _ r ih
    exact core_request keeps ih r
  · intro _ q _ now ih
    exact core_next keeps.toSteady (core_sight keeps.toSteady ih) now

end Player

end HandheldHost
