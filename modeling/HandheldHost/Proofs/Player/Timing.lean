import HandheldHost.Core.Recorder
import HandheldHost.Proofs.Player.Run
import Mathlib.Logic.Function.Iterate

/-!
# Clocks and stamps

A run for the next stamps of a clock takes just as many stamps as it makes ticks, so a
long run is two shorter ones.  And the stamps do not matter: a tick writes its stamp
down, and the next one compares its own with it for the log, but nothing else of a
player depends on either.

* `Clock.stamps_eq`, `Clock.skip_eq` -- the stamps of a clock, and the clock after them.
* `Player.run_add` -- a run in two parts, the log included.
* `Player.value_run` -- which stamps a run takes, and what it leaves.
* `Player.after_restamped` -- what other stamps change.
* `Player.runs_compose_and_stamps_are_idle` -- all of it, for any player.
-/

namespace HandheldHost

namespace Clock

/-- The stamp that a clock gives after `i` others: the first one and an interval for
each of these, added one by one. -/
def stampAt (clock : Clock) (i : Nat) : Float := (· + 1000.0 / 60.0)^[i] clock.next

theorem stampAt_take (clock : Clock) (i : Nat) :
    clock.take.2.stampAt i = clock.stampAt (i + 1) := rfl

/-- **Which stamps a clock gives.** -/
theorem stamps_eq (n : Nat) (clock : Clock) : stamps n clock = (List.range n).map clock.stampAt := by
  induction n generalizing clock with
  | zero => rfl
  | succ n ih =>
    rw [stamps, ih, List.range_succ_eq_map, List.map_cons, List.map_map]
    rfl

/-- **Where they leave it**: as many intervals later. -/
theorem skip_eq (n : Nat) (clock : Clock) : skip n clock = ⟨clock.stampAt n⟩ := by
  induction n generalizing clock with
  | zero => rfl
  | succ n ih => rw [skip, ih, stampAt_take]

end Clock

namespace Player

variable {γ δ : Type} [Core γ] [FaultSink δ]

/-! ## Runs in parts -/

/-- The outcome so far is given back only if there are no stamps left. -/
theorem runFrom_eq (last : Option Outcome) (player : Player γ δ) (clock : Clock) (n : Nat) :
    player.runFrom last clock n = (do
      let (outcome, rest) ← player.run clock n
      pure (outcome.or last, rest)) := by
  induction n generalizing last player clock with
  | zero => rfl
  | succ n ih =>
    simp only [run, runFrom, bind_assoc]
    refine bind_congr fun (outcome, next) => ?_
    rw [ih (some outcome), bind_assoc]
    refine bind_congr fun (later, rest) => ?_
    cases later <;> rfl

theorem runFrom_add (last : Option Outcome) (player : Player γ δ) (clock : Clock) (m n : Nat) :
    player.runFrom last clock (m + n) = (do
      let (last, clock, player) ← player.runFrom last clock m
      player.runFrom last clock n) := by
  induction m generalizing last player clock with
  | zero => rw [Nat.zero_add, runFrom, pure_bind]
  | succ m ih =>
    rw [Nat.succ_add, runFrom, runFrom, bind_assoc]
    exact bind_congr fun (outcome, next) => ih (some outcome) next clock.take.2

/-- **A run is two shorter ones**, with the player and the clock that the first one
leaves. -/
theorem run_add (player : Player γ δ) (clock : Clock) (m n : Nat) :
    player.run clock (m + n) = (do
      let (first, clock, player) ← player.run clock m
      let (second, clock, player) ← player.run clock n
      pure (second.or first, clock, player)) := by
  rw [run, runFrom_add]
  exact bind_congr fun (first, clock, player) => runFrom_eq first player clock n

/-! ## Stamps taken -/

theorem value_runFrom (last : Option Outcome) (player : Player γ δ) (clock : Clock) (n : Nat) :
    (player.runFrom last clock n).value =
      ((player.outcomes ((Clock.stamps n clock).map .tick)).getLast?.or last, Clock.skip n clock,
        player.after ((Clock.stamps n clock).map .tick)) := by
  induction n generalizing last player clock with
  | zero => rfl
  | succ n ih =>
    rw [runFrom, Logged.value_bind, ih]
    have first_then_others : player.outcomes ((Clock.stamps (n + 1) clock).map .tick) =
        (player.tick clock.take.1).value.1 ::
          (player.act (.tick clock.take.1)).outcomes
            ((Clock.stamps n clock.take.2).map .tick) := rfl
    have last_of_others (others : Option Outcome) (first : Outcome) :
        others.or (some first) = (some (others.getD first)).or last := by
      cases others <;> rfl
    rw [first_then_others, List.getLast?_cons, ← last_of_others]
    rfl

/-- **What a run takes and leaves**: the next `n` stamps of the clock, a tick for each,
and the outcome of the last one. -/
theorem value_run (player : Player γ δ) (clock : Clock) (n : Nat) :
    (player.run clock n).value =
      ((player.outcomes ((Clock.stamps n clock).map .tick)).getLast?, Clock.skip n clock,
        player.after ((Clock.stamps n clock).map .tick)) := by
  rw [run, value_runFrom, Option.or_none]

/-- Each tick has an outcome. -/
theorem length_outcomes_ticks (player : Player γ δ) (stamps : List Float) :
    (player.outcomes (stamps.map .tick)).length = stamps.length := by
  induction stamps generalizing player with
  | nil => rfl
  | cons now stamps ih => exact congrArg Nat.succ (ih _)

end Player

/-! ## Other stamps -/

/-- What there is to an action apart from a stamp: the request, or that it is a tick. -/
def Action.unstamped : Action → Option Request
  | request r => some r
  | tick _ => none

namespace Player

variable {γ δ : Type}

/-- The same player, but for the stamp of its last tick. -/
def restamped (player : Player γ δ) (stamp : Option Float) : Player γ δ :=
  { player with lastStamp := stamp }

variable [Core γ]

theorem request_restamped (player : Player γ δ) (stamp : Option Float) (r : Request) :
    ((player.restamped stamp).request r).value = (player.request r).value.restamped stamp := by
  rw [value_request, value_request]
  rfl

theorem outcome_restamped (player : Player γ δ) (stamp : Option Float) :
    (player.restamped stamp).outcome = player.outcome := rfl

variable [FaultSink δ]

/-- A tick notes its own stamp, and goes by no other. -/
theorem next_restamped (player : Player γ δ) (stamp : Option Float) (now other : Float) :
    (player.restamped stamp).next other = (player.next now).restamped (some other) := rfl

theorem act_restamped (player : Player γ δ) (stamp : Option Float) {a b : Action}
    (same : b.unstamped = a.unstamped) :
    ∃ last, (player.restamped stamp).act b = (player.act a).restamped last := by
  cases a with
  | request r =>
    cases b with
    | request q =>
      obtain rfl := Option.some.inj same
      exact ⟨stamp, request_restamped player stamp q⟩
    | tick other => cases same
  | tick now =>
    cases b with
    | request q => cases same
    | tick other =>
      refine ⟨some other, ?_⟩
      rw [act_tick, act_tick, next_restamped]

/-- **Stamps are idle.**  Actions that differ in their stamps alone have the same outcomes
and leave the same player but for the stamp of its last tick. -/
theorem after_restamped (player : Player γ δ) (stamp : Option Float) {actions others : List Action}
    (same : others.map Action.unstamped = actions.map Action.unstamped) :
    (player.restamped stamp).outcomes others = player.outcomes actions ∧
      ∃ last, (player.restamped stamp).after others = (player.after actions).restamped last := by
  induction actions generalizing player stamp others with
  | nil =>
    obtain rfl := List.map_eq_nil_iff.mp same
    exact ⟨rfl, stamp, rfl⟩
  | cons a actions ih =>
    obtain ⟨b, others, rfl, same_action, same_rest⟩ := List.map_eq_cons_iff.mp same
    obtain ⟨last, here⟩ := player.act_restamped stamp same_action
    obtain ⟨outcomes, left⟩ := ih (player.act a) last same_rest
    rw [← here] at outcomes left
    refine ⟨?_, left⟩
    cases a with
    | request r =>
      cases b with
      | request q => exact outcomes
      | tick other => cases same_action
    | tick now =>
      cases b with
      | request q => cases same_action
      | tick other =>
        have first : ((player.restamped stamp).tick other).value.1 = (player.tick now).value.1 := by
          rw [value_tick, value_tick, outcome_restamped]
        exact congrArg₂ List.cons first outcomes

/-! ## Runs and stamps -/

/-- **Runs for a clock are made of ticks, and their stamps are idle.**  Any player may run
for `m + n` stamps of a clock at once or for `m` of them and then for `n`: the player, the
clock, the log and the outcome are the same.  A run for `n` stamps takes the next `n` of
the clock and no other: the first is the one that the clock was to give next, every other
is a sixtieth of a second after the one before, and what the clock is to give next is such
an interval after the last.  It ticks once for each, and gives the outcome of the last
tick, or none if `n` is zero.  Requests and ticks that differ in the stamps alone, however these
are ordered and whether they are numbers or not, have at every point had the same
outcomes and left the same core, deck, canvas, screen and sink, and in fact the same
player but for the stamp of its last tick. -/
theorem runs_compose_and_stamps_are_idle (player : Player γ δ) :
    (∀ clock m n, player.run clock (m + n) = (do
      let (first, clock, player) ← player.run clock m
      let (second, clock, player) ← player.run clock n
      pure (second.or first, clock, player))) ∧
    (∀ (clock : Clock) n,
      let stamp (i : Nat) : Float := (· + 1000.0 / 60.0)^[i] clock.next
      let ticks := (List.range n).map fun i => Action.tick (stamp i)
      ticks.length = n ∧ (player.outcomes ticks).length = n ∧
        (player.run clock n).value =
          ((player.outcomes ticks).getLast?, ⟨stamp n⟩, player.after ticks)) ∧
    ∀ actions others : List Action,
      others.map Action.unstamped = actions.map Action.unstamped → ∀ k,
        player.outcomes (others.take k) = player.outcomes (actions.take k) ∧
          ∃ last, player.after (others.take k) =
            { player.after (actions.take k) with lastStamp := last } := by
  refine ⟨player.run_add, ?_, ?_⟩
  · intro clock n stamp ticks
    have ticks_eq : ticks = (Clock.stamps n clock).map Action.tick := by
      rw [Clock.stamps_eq, List.map_map]
      rfl
    have length_stamps : (Clock.stamps n clock).length = n := by
      rw [Clock.stamps_eq, List.length_map, List.length_range]
    have left : (⟨stamp n⟩ : Clock) = Clock.skip n clock := (Clock.skip_eq n clock).symm
    rw [ticks_eq, List.length_map, length_outcomes_ticks, left]
    exact ⟨length_stamps, length_stamps, player.value_run clock n⟩
  · intro actions others same k
    have same_so_far : (others.take k).map Action.unstamped =
        (actions.take k).map Action.unstamped := by
      rw [List.map_take, List.map_take, same]
    exact player.after_restamped player.lastStamp same_so_far

/-- Refreshes that come late, at no time at all and before their time, of a recorder core
that faults on its second frame. -/
theorem runs_compose_and_stamps_are_idle_out_of_time :
    let core : RecorderCore := { RecorderCore.ofGeometry ⟨2, 1⟩ with faultOnFrame := some 2 }
    let player := start core {} ({} : Ledger) {}
    let actions : List Action := [.tick 0, .tick 16, .request (.setPaused false), .tick 33]
    let others : List Action :=
      [.tick 50, .tick (0 / 0), .request (.setPaused false), .tick (-1)]
    others.map Action.unstamped = actions.map Action.unstamped ∧
      ∀ k, player.outcomes (others.take k) = player.outcomes (actions.take k) ∧
        ∃ last, player.after (others.take k) =
          { player.after (actions.take k) with lastStamp := last } := by
  intro core player actions others
  have same : others.map Action.unstamped = actions.map Action.unstamped := rfl
  exact ⟨same, player.runs_compose_and_stamps_are_idle.2.2 actions others same⟩

end Player

end HandheldHost
