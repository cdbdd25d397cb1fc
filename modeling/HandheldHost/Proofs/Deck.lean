import HandheldHost.Proofs.Player.Run
import Mathlib.Algebra.Group.Nat.Defs

/-!
# What a deck counts

A deck has five counters and seven operations.  Each counter belongs to one kind of
operation, counts it, and stops at its limit.  The debug view has a copy of four of the
counters; three kinds of operation renew it, and planning a tick is none of them, so the
copy may be behind.

* `Deck.perform_spec` -- what one operation does to counters, copy and last fault.
* `Deck.val_performAll` -- a counter after any operations, from what one does to it.
* `Deck.shown_performAll` -- the copy is the one that was made last.
* `Deck.counters_saturate` -- all of it, for any deck and any operations.
-/

namespace HandheldHost.Deck

/-! ## Operations -/

/-- Something that is done to a deck. -/
inductive Operation where
  | request (r : Request)
  | plan
  | countAdvance (stride : Stride)
  | recordFault (fault : Fault)
  | forcePause
  | syncCounters
  | publish (registers : Registers) (base : UInt16) (bytes : Bytes)

namespace Operation

/-- The fault that an operation records. -/
def fault? : Operation → Option Fault
  | recordFault fault => some fault
  | _ => none

/-- Whether an operation shows the counters in the debug view. -/
def shows : Operation → Bool
  | countAdvance _ | recordFault _ | syncCounters => true
  | _ => false

/-- The counters after an operation, each of which counts one kind of them. -/
def count (op : Operation) (counters : Counters) : Counters where
  ticks := if op matches plan then counters.ticks.bump else counters.ticks
  frames := if op matches countAdvance .frame then counters.frames.bump else counters.frames
  instructions :=
    if op matches countAdvance .instruction then counters.instructions.bump
    else counters.instructions
  faults := if op matches recordFault _ then counters.faults.bump else counters.faults

end Operation

/-- The deck after an operation. -/
def perform (deck : Deck) : Operation → Deck
  | .request r => (deck.request r).value.1
  | .plan => deck.plan.2
  | .countAdvance stride => deck.countAdvance stride
  | .recordFault fault => (deck.recordFault fault).value
  | .forcePause => deck.forcePause.value
  | .syncCounters => deck.syncCounters
  | .publish registers base bytes => deck.publish registers base bytes

/-- The deck after operations. -/
def performAll (deck : Deck) (ops : List Operation) : Deck := ops.foldl perform deck

theorem performAll_append (deck : Deck) (ops more : List Operation) :
    deck.performAll (ops ++ more) = (deck.performAll ops).performAll more :=
  List.foldl_append

theorem performAll_append_singleton (deck : Deck) (ops : List Operation) (op : Operation) :
    deck.performAll (ops ++ [op]) = (deck.performAll ops).perform op :=
  deck.performAll_append ops [op]

/-- What an operation does to what is counted, to the copy in the debug view and to the
last fault. -/
theorem perform_spec (deck : Deck) (op : Operation) :
    (deck.perform op).counters = op.count deck.counters ∧
      (deck.perform op).refreshes =
        (if op matches .publish .. then deck.refreshes.bump else deck.refreshes) ∧
      (deck.perform op).lastFault = op.fault?.or deck.lastFault ∧
      (deck.perform op).inspection.counters =
        if op.shows then (deck.perform op).counters else deck.inspection.counters := by
  cases op with
  | request r =>
    rw [perform, value_request]
    exact ⟨rfl, rfl, rfl, rfl⟩
  | plan =>
    rw [perform, plan_eq]
    exact ⟨rfl, rfl, rfl, rfl⟩
  | countAdvance stride => cases stride <;> exact ⟨rfl, rfl, rfl, rfl⟩
  | recordFault fault =>
    rw [perform, value_recordFault]
    exact ⟨rfl, rfl, rfl, rfl⟩
  | forcePause =>
    rw [perform, value_forcePause]
    exact ⟨rfl, rfl, rfl, rfl⟩
  | syncCounters => exact ⟨rfl, rfl, rfl, rfl⟩
  | publish registers base bytes => exact ⟨rfl, rfl, rfl, rfl⟩

/-! ## Counters -/

section

variable (reading : Deck → Counter) {counts : Operation → Bool}
  (step : ∀ (deck : Deck) (op : Operation),
    reading (deck.perform op) = if counts op then (reading deck).bump else reading deck)

include step

/-- A counter that goes up with every operation of a kind has gone up by their number, as
far as it can. -/
theorem val_performAll (deck : Deck) (ops : List Operation) :
    (reading (deck.performAll ops)).val =
      min ((reading deck).val + ops.countP counts) Counter.limit := by
  induction ops using List.reverseRecOn with
  | nil => exact (Nat.min_eq_left (reading deck).le_limit).symm
  | append_singleton ops op ih =>
    rw [performAll_append_singleton, step, List.countP_append, List.countP_singleton]
    by_cases counted : counts op = true
    · rw [if_pos counted, if_pos counted, Counter.val_bump, ih]
      omega
    · rw [if_neg counted, if_neg counted, ih, Nat.add_zero]

theorem val_le_val_performAll (deck : Deck) (ops : List Operation) :
    (reading deck).val ≤ (reading (deck.performAll ops)).val := by
  rw [val_performAll reading step]
  exact Nat.le_min.mpr ⟨Nat.le_add_right _ _, (reading deck).le_limit⟩

end

/-- The last fault is that of the last operation that records one. -/
theorem lastFault_performAll (deck : Deck) (ops : List Operation) :
    (deck.performAll ops).lastFault =
      (ops.filterMap Operation.fault?).getLast?.or deck.lastFault := by
  induction ops using List.reverseRecOn with
  | nil => rfl
  | append_singleton ops op ih =>
    rw [performAll_append_singleton, (perform_spec _ op).2.2.1, ih, List.filterMap_append]
    cases recorded : op.fault? <;> simp [recorded]

/-! ## The copy in the debug view -/

theorem shown_performAll_of_not_shows (deck : Deck) {ops : List Operation}
    (silent : ∀ op ∈ ops, op.shows = false) :
    (deck.performAll ops).inspection.counters = deck.inspection.counters := by
  induction ops generalizing deck with
  | nil => rfl
  | cons op ops ih =>
    have here : op.shows = false := silent op (List.mem_cons_self ..)
    have kept := (perform_spec deck op).2.2.2
    rw [here, if_neg Bool.false_ne_true] at kept
    exact (ih (deck.perform op) fun o later => silent o (List.mem_cons_of_mem _ later)).trans kept

/-- The copy has the counters as the last operation that shows them has left them. -/
theorem shown_performAll (deck : Deck) (before : List Operation) {op : Operation}
    {later : List Operation} (shown : op.shows = true) (silent : ∀ o ∈ later, o.shows = false) :
    (deck.performAll (before ++ op :: later)).inspection.counters =
      (deck.performAll (before ++ [op])).counters := by
  rw [List.append_cons, performAll_append, shown_performAll_of_not_shows _ silent,
    performAll_append_singleton, (perform_spec _ op).2.2.2, if_pos shown]

/-! ## All of it -/

/-- **Counters stop at their largest value and never go back.**  Take any deck, with any
counts, and any operations in any order.  Each counter has gone up by the number of the
operations that it counts: ticks by those planned, frames and instructions by the advances
of their kind, faults by those recorded, and refreshes by the views published; only it
stays at the largest 64-bit number once it is there.  No counter is ever less than before.
The last fault is the one recorded last, and the old one if none was.  The counters in the
debug view are those that the deck had right after the last advance, fault or
synchronisation, and the old ones if there was none. -/
theorem counters_saturate (deck : Deck) (ops : List Operation) :
    let left := deck.performAll ops
    (left.counters.ticks.val =
        min (deck.counters.ticks.val + ops.countP (· matches .plan)) (2 ^ 64 - 1) ∧
      left.counters.frames.val =
        min (deck.counters.frames.val + ops.countP (· matches .countAdvance .frame))
          (2 ^ 64 - 1) ∧
      left.counters.instructions.val =
        min (deck.counters.instructions.val + ops.countP (· matches .countAdvance .instruction))
          (2 ^ 64 - 1) ∧
      left.counters.faults.val =
        min (deck.counters.faults.val + ops.countP (· matches .recordFault _)) (2 ^ 64 - 1) ∧
      left.refreshes.val =
        min (deck.refreshes.val + ops.countP (· matches .publish ..)) (2 ^ 64 - 1)) ∧
    (∀ more, let later := deck.performAll (ops ++ more)
      left.counters.ticks.val ≤ later.counters.ticks.val ∧
        left.counters.frames.val ≤ later.counters.frames.val ∧
        left.counters.instructions.val ≤ later.counters.instructions.val ∧
        left.counters.faults.val ≤ later.counters.faults.val ∧
        left.refreshes.val ≤ later.refreshes.val) ∧
    left.lastFault = (ops.filterMap Operation.fault?).getLast?.or deck.lastFault ∧
    (∀ before op later, ops = before ++ op :: later → op.shows = true →
      (∀ o ∈ later, o.shows = false) →
        left.inspection.counters = (deck.performAll (before ++ [op])).counters) ∧
    ((∀ op ∈ ops, op.shows = false) → left.inspection.counters = deck.inspection.counters) := by
  intro left
  have ticks (deck : Deck) (op : Operation) : (deck.perform op).counters.ticks = _ :=
    congrArg Counters.ticks (perform_spec deck op).1
  have frames (deck : Deck) (op : Operation) : (deck.perform op).counters.frames = _ :=
    congrArg Counters.frames (perform_spec deck op).1
  have instructions (deck : Deck) (op : Operation) :
      (deck.perform op).counters.instructions = _ :=
    congrArg Counters.instructions (perform_spec deck op).1
  have faults (deck : Deck) (op : Operation) : (deck.perform op).counters.faults = _ :=
    congrArg Counters.faults (perform_spec deck op).1
  have refreshed (deck : Deck) (op : Operation) := (perform_spec deck op).2.1
  refine ⟨⟨val_performAll (·.counters.ticks) ticks deck ops,
    val_performAll (·.counters.frames) frames deck ops,
    val_performAll (·.counters.instructions) instructions deck ops,
    val_performAll (·.counters.faults) faults deck ops,
    val_performAll refreshes refreshed deck ops⟩, fun more => ?_, lastFault_performAll deck ops,
    ?_, shown_performAll_of_not_shows deck⟩
  · rw [performAll_append]
    exact ⟨val_le_val_performAll (·.counters.ticks) ticks left more,
      val_le_val_performAll (·.counters.frames) frames left more,
      val_le_val_performAll (·.counters.instructions) instructions left more,
      val_le_val_performAll (·.counters.faults) faults left more,
      val_le_val_performAll refreshes refreshed left more⟩
  · rintro before op later rfl shown silent
    exact deck.shown_performAll before shown silent

/-- A deck that has room for one tick more plans three; the last of them comes after the
fault, and the debug view does not show it. -/
theorem counters_saturate_after_a_fault :
    let deck : Deck :=
      { counters := { ticks := ⟨2 ^ 64 - 2, by decide⟩, frames := ⟨7, by decide⟩ } }
    let ops : List Operation := [.plan, .countAdvance .frame, .publish {} 0 #[], .plan,
      .recordFault ⟨"stuck", none⟩, .request (.key 38 true), .forcePause, .plan]
    let left := deck.performAll ops
    left.counters.ticks.val = 2 ^ 64 - 1 ∧ left.counters.frames.val = 8 ∧
      left.lastFault = some ⟨"stuck", none⟩ ∧
      left.inspection.counters = (deck.performAll (ops.take 5)).counters := by
  intro deck ops left
  obtain ⟨⟨ticks, frames, -⟩, -, fault, shown, -⟩ := counters_saturate deck ops
  exact ⟨ticks, frames, fault, shown (ops.take 4) (.recordFault ⟨"stuck", none⟩) (ops.drop 5) rfl
    rfl (by decide)⟩

end HandheldHost.Deck
