import HandheldHost.Proofs.Player.Run

/-!
# What the debug view shows

The debug view is written from four places: a completed advance, a recorded
fault, and a refresh each copy the counters, and a refresh also copies what
the core reports.  A tick that does none of these is counted and leaves the
view behind.  Here the view is described by the ticks of the run alone
(`Turn`): which of them copied the counters last, and which refreshed last.

* `MemoryWindow.getElem?_fit` -- a reply of any length, cut or filled up.
* `Player.Coherent` -- the invariant, carried over requests and ticks.
* `Player.debug_view_is_coherent` -- the view after any run.
-/

namespace HandheldHost

/-! ## Memory windows -/

namespace MemoryWindow

theorem size_fit (bytes : Bytes) (size : Nat) : (fit bytes size).size = size := by
  rw [fit, Array.size_append, Array.size_extract, Array.size_replicate]
  omega

/-- What was asked for is there, with zeros for what the reply lacks. -/
theorem getElem?_fit (bytes : Bytes) {size i : Nat} (hi : i < size) :
    (fit bytes size)[i]? = some (bytes[i]?.getD 0) := by
  rw [fit, Array.getElem?_append, Array.size_extract, Array.getElem?_extract]
  by_cases short : i < bytes.size
  · rw [if_pos (by omega), if_pos (by omega), Nat.zero_add, Array.getElem?_eq_getElem short]
    rfl
  · rw [if_neg (by omega), Array.getElem?_replicate, if_pos (by omega),
      Array.getElem?_eq_none (Nat.le_of_not_lt short)]
    rfl

end MemoryWindow

/-! ## Reports of a core -/

/-- What a core reports for the debug view: its registers, the address of its
memory window, and its reply to the request for one. -/
structure Report where
  registers : Registers
  base : UInt16
  reply : Bytes

/-- What a core reports when `size` octets are asked for. -/
def Core.report {γ : Type} [Core γ] (size : Nat) (core : γ) : Report where
  registers := (registers core).1
  base := windowBase (window size (registers core).2).2
  reply := (window size (registers core).2).1

/-- The view shows a report: its registers and address, and exactly `size`
octets, those of the reply and then zeros. -/
structure Inspection.Shows (view : Inspection) (size : Nat) (report : Report) : Prop where
  registers_eq : view.registers = report.registers
  base_eq : view.window.base = report.base
  size_eq : view.window.bytes.size = size
  octet_eq : ∀ i, i < size → view.window.bytes[i]? = some (report.reply[i]?.getD 0)

theorem Core.shows_windowShown {γ : Type} [Core γ] (size : Nat) (core : γ) (counters : Counters)
    (fault : Option String) :
    (⟨(registers core).1, windowShown size core, counters, fault⟩ : Inspection).Shows size
      (report size core) :=
  ⟨rfl, rfl, MemoryWindow.size_fit _ _, fun _ hi => MemoryWindow.getElem?_fit _ hi⟩

/-! ## Turns -/

/-- One tick of a run: its outcome, the core once its advance was over, and
whether the debug switch was on at its end. -/
structure Turn (γ : Type) where
  outcome : Outcome
  core : γ
  debug : Bool

namespace Turn

variable {γ : Type}

/-- Whether the tick copied the counters to the debug view: it completed an
advance, reported a fault, or refreshed the view. -/
def copies (turn : Turn γ) : Bool :=
  turn.outcome.advanced.isSome || turn.outcome.faulted || turn.outcome.debugRefreshed

/-- The last tick of a run with a property. -/
def last (p : Turn γ → Bool) (turns : List (Turn γ)) : Option (Turn γ) := turns.reverse.find? p

theorem last_append_singleton (p : Turn γ → Bool) (turns : List (Turn γ)) (turn : Turn γ) :
    last p (turns ++ [turn]) = if p turn then some turn else last p turns := by
  rw [last, List.reverse_append, List.reverse_singleton, List.singleton_append, List.find?_cons]
  cases p turn <;> rfl

end Turn

/-- The view shows the report of a tick, or is as blank as it started. -/
def Inspection.Reports {γ : Type} [Core γ] (view : Inspection) (size : Nat) :
    Option (Turn γ) → Prop
  | none => view.registers = {} ∧ view.window = {}
  | some turn => view.Shows size (Core.report size turn.core)

/-- Only registers and memory matter. -/
theorem Inspection.Reports.congr {γ : Type} [Core γ] {view other : Inspection} {size : Nat}
    {turn? : Option (Turn γ)} (h : view.Reports size turn?)
    (registers : other.registers = view.registers) (window : other.window = view.window) :
    other.Reports size turn? := by
  cases turn? with
  | none => exact ⟨registers.trans h.1, window.trans h.2⟩
  | some turn =>
    obtain ⟨registers_eq, base_eq, size_eq, octet_eq⟩ := h
    rw [← window] at base_eq size_eq octet_eq
    exact ⟨registers.trans registers_eq, base_eq, size_eq, octet_eq⟩

namespace Player

section

variable {γ δ : Type} [Core γ]

/-- The next tick. -/
def turn (player : Player γ δ) : Turn γ :=
  ⟨player.outcome, player.sight.core, player.deck.debug⟩

/-- The debug view agrees with the counters, that of the ticks apart, and with
the ticks of the run. -/
structure Coherent (size : Nat) (player : Player γ δ) (turns : List (Turn γ)) : Prop where
  windowSize : player.windowSize = size
  ticks : player.deck.counters.ticks.val = min turns.length Counter.limit
  mirrored : player.deck.inspection.counters =
    { player.deck.counters with ticks := player.deck.inspection.counters.ticks }
  copied : player.deck.inspection.counters.ticks.val =
    (Turn.last Turn.copies turns).elim 0 fun turn => turn.outcome.tick
  refreshes : player.deck.refreshes.val = min (turns.countP Turn.debug) Counter.limit
  reports : player.deck.inspection.Reports size (Turn.last Turn.debug turns)

theorem coherent_start (core : γ) (screen : Screen) (sink : δ) (config : PlayerConfig) :
    Coherent config.windowSize (start core screen sink config) [] :=
  ⟨rfl, rfl, rfl, rfl, rfl, rfl, rfl⟩

/-- A tick that copies no counters has changed none but that of the ticks. -/
theorem nextCounters_of_not_copies {player : Player γ δ} (silent : player.turn.copies = false) :
    player.nextCounters =
      { player.deck.counters with ticks := player.deck.counters.ticks.bump } := by
  simp only [turn, Turn.copies, outcome, Bool.or_eq_false_iff] at silent
  obtain ⟨⟨rested, sound⟩, -⟩ := silent
  rw [Option.isSome_eq_false_iff, Option.isNone_iff_eq_none] at rested
  rw [nextCounters, rested, sound]
  rfl

/-- A request leaves the debug view alone. -/
theorem inspection_request (player : Player γ δ) (r : Request) :
    (player.request r).value.deck.inspection = player.deck.inspection ∧
      (player.request r).value.deck.refreshes = player.deck.refreshes := by
  rw [value_request]
  exact ⟨rfl, rfl⟩

theorem Coherent.request {size : Nat} {player : Player γ δ} {turns : List (Turn γ)}
    (h : Coherent size player turns) (r : Request) :
    Coherent size (player.request r).value turns := by
  rw [value_request]
  exact ⟨h.windowSize, h.ticks, h.mirrored, h.copied, h.refreshes, h.reports⟩

end

variable {γ δ : Type} [Core γ] [FaultSink δ]

/-- The view after a tick has the counters after the tick, if the tick copies
them, and else those it had. -/
theorem shownCounters_next (player : Player γ δ) (now : Float) :
    (player.next now).deck.inspection.counters =
      if player.turn.copies then player.nextCounters else player.deck.inspection.counters := by
  show (if player.deck.debug then player.nextCounters else
      if player.completed.isSome || player.reported.isSome then player.nextCounters
      else player.deck.inspection.counters) =
    if player.completed.isSome || player.reported.isSome || player.deck.debug then
      player.nextCounters
    else player.deck.inspection.counters
  by_cases debug : player.deck.debug = true
  · simp only [debug, Bool.or_true, ↓reduceIte]
  · simp only [debug, Bool.or_false, Bool.false_eq_true, ↓reduceIte]

/-- A tick without a refresh leaves registers and memory on view. -/
theorem inspection_next_of_not_debug {player : Player γ δ} (off : player.deck.debug = false)
    (now : Float) :
    (player.next now).deck.inspection.registers = player.deck.inspection.registers ∧
      (player.next now).deck.inspection.window = player.deck.inspection.window ∧
        (player.next now).deck.refreshes = player.deck.refreshes := by
  simp only [next, off]
  exact ⟨rfl, rfl, rfl⟩

/-- A refresh shows what the core reports after the advance of its tick. -/
theorem shows_next_of_debug {player : Player γ δ} (on : player.deck.debug = true) (now : Float) :
    (player.next now).deck.inspection.Shows player.windowSize
      (Core.report player.windowSize player.sight.core) := by
  simp only [next, on, ↓reduceIte]
  exact Core.shows_windowShown player.windowSize player.sight.core _ _

theorem Coherent.next {size : Nat} {player : Player γ δ} {turns : List (Turn γ)}
    (h : Coherent size player turns) (now : Float) :
    Coherent size (player.next now) (turns ++ [player.turn]) where
  windowSize := h.windowSize
  ticks := by
    show player.deck.counters.ticks.bump.val = _
    rw [Counter.val_bump, h.ticks, List.length_append, List.length_singleton]
    omega
  mirrored := by
    rw [shownCounters_next]
    cases silent : player.turn.copies with
    | true => rfl
    | false =>
      -- Only the count of ticks has moved, and that is not mirrored.
      show player.deck.inspection.counters =
        { player.nextCounters with ticks := player.deck.inspection.counters.ticks }
      rw [nextCounters_of_not_copies silent]
      exact h.mirrored
  copied := by
    rw [shownCounters_next, Turn.last_append_singleton]
    cases player.turn.copies with
    | true => rfl
    | false => exact h.copied
  refreshes := by
    rw [List.countP_append, List.countP_singleton]
    show (if player.deck.debug then player.deck.refreshes.bump else player.deck.refreshes).val =
      min (turns.countP Turn.debug + if player.deck.debug then 1 else 0) Counter.limit
    cases player.deck.debug with
    | true =>
      rw [if_pos rfl, if_pos rfl, Counter.val_bump, h.refreshes]
      omega
    | false => exact h.refreshes
  reports := by
    rw [Turn.last_append_singleton]
    cases debug : player.deck.debug with
    | true =>
      rw [if_pos (show player.turn.debug = true from debug), ← h.windowSize]
      exact shows_next_of_debug debug now
    | false =>
      rw [if_neg (show ¬player.turn.debug = true from Bool.eq_false_iff.mp debug)]
      obtain ⟨registers_kept, window_kept, -⟩ := inspection_next_of_not_debug debug now
      exact h.reports.congr registers_kept window_kept

/-! ## Runs -/

/-- The ticks of a run, in order. -/
def turns : Player γ δ → List Action → List (Turn γ) :=
  gather fun player now =>
    ⟨(player.tick now).value.1, player.sight.core, (player.tick now).value.2.deck.debug⟩

theorem turns_append_tick (player : Player γ δ) (actions : List Action) (now : Float) :
    player.turns (actions ++ [.tick now]) =
      player.turns actions ++ [(player.after actions).turn] := by
  rw [turns, gather_append_tick, value_tick]
  rfl

theorem coherent_after (core : γ) (screen : Screen) (sink : δ) (config : PlayerConfig)
    (actions : List Action) :
    Coherent config.windowSize ((start core screen sink config).after actions)
      ((start core screen sink config).turns actions) := by
  induction actions using List.reverseRecOn with
  | nil => exact coherent_start core screen sink config
  | append_singleton actions a ih =>
    rw [after_append_singleton]
    cases a with
    | request r =>
      rw [turns, gather_append_request]
      exact ih.request r
    | tick now =>
      rw [turns_append_tick, act_tick]
      exact ih.next now

/-- **The debug view is coherent.**  On every run of a player over any core:
the view shows the counts of frames, instructions and faults as they are, and
as the count of ticks the number of the last tick that completed an advance,
reported a fault or refreshed the view.  As many refreshes are counted as
ticks ended with the debug switch on.  Registers and memory are those that the
core reported at the end of the last such tick, the memory window having
exactly the size asked for; nothing else changes them. -/
theorem debug_view_is_coherent (core : γ) (screen : Screen) (sink : δ) (config : PlayerConfig)
    (actions : List Action) :
    let first := start core screen sink config
    let player := first.after actions
    let turns := first.turns actions
    let view := player.deck.inspection
    (view.counters.frames = player.deck.counters.frames ∧
        view.counters.instructions = player.deck.counters.instructions ∧
          view.counters.faults = player.deck.counters.faults) ∧
      view.counters.ticks.val =
        (Turn.last Turn.copies turns).elim 0 (fun turn => turn.outcome.tick) ∧
      player.deck.refreshes.val = min (turns.countP Turn.debug) Counter.limit ∧
      view.Reports config.windowSize (Turn.last Turn.debug turns) ∧
      (∀ r, (player.request r).value.deck.inspection = view ∧
        (player.request r).value.deck.refreshes = player.deck.refreshes) ∧
      ∀ now, let outcome := (player.tick now).value.1
        let after := (player.tick now).value.2.deck
        outcome.tick = min (turns.length + 1) Counter.limit ∧
          outcome.debugRefreshed = after.debug ∧
          (after.debug = false → after.inspection.registers = view.registers ∧
            after.inspection.window = view.window ∧ after.refreshes = player.deck.refreshes) := by
  intro first player turns view
  have coherent : Coherent config.windowSize player turns :=
    coherent_after core screen sink config actions
  refine ⟨?_, coherent.copied, coherent.refreshes, coherent.reports, inspection_request player,
    ?_⟩
  · show player.deck.inspection.counters.frames = _ ∧
      player.deck.inspection.counters.instructions = _ ∧
        player.deck.inspection.counters.faults = _
    rw [coherent.mirrored]
    exact ⟨rfl, rfl, rfl⟩
  intro now
  rw [value_tick]
  refine ⟨?_, rfl, fun off : player.deck.debug = false => inspection_next_of_not_debug off now⟩
  show player.deck.counters.ticks.bump.val = _
  rw [Counter.val_bump, coherent.ticks]
  omega

end Player

end HandheldHost
