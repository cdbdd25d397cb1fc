import HandheldHost.Proofs.Player.Run
import Mathlib.Data.List.Basic

/-!
# What a ledger records

The player decides with a flag, carried from tick to tick, whether a missing
frame is worth a report.  Here the ledger is described without the flag: the
entry of a tick depends on what that tick finds and on whether the tick
before it had a frame (`Sight.entry`).

* `Player.Recorded` -- the invariant: flag, counters, ledger and debug view
  agree with what the ticks so far have found.
* `Player.reports_exact` -- the ledger after any run, and everything that is
  derived from it.
-/

namespace HandheldHost

namespace Sight

variable {γ : Type} [Core γ]

/-- The number of tick `i` of a run in reports, `i` counted from zero. -/
def number (i : Nat) : Nat := min (i + 1) Counter.limit

/-- The entry that tick `i` makes in the ledger.  A fault of the advance is
always recorded.  A missing frame is recorded unless the tick before had
none either. -/
def entry (sights : List (Sight γ)) (i : Nat) : Option (Nat × Fault) :=
  match sights[i]? with
  | none => none
  | some s =>
    match s.fault, s.frame with
    | some fault, _ => some (number i, fault)
    | none, .ok _ => none
    | none, .error defect =>
      if i = 0 ∨ sights[i - 1]?.any hasFrame then some (number i, ⟨defect.message, none⟩)
      else none

/-- The entries of the ticks of a run, in order. -/
def entries (sights : List (Sight γ)) : List (Nat × Fault) :=
  (List.range sights.length).filterMap (entry sights)

/-- Whether the last tick of a run had no frame. -/
def lastMissing (sights : List (Sight γ)) : Bool := sights.getLast?.any fun s => !s.hasFrame

theorem lastMissing_append (sights : List (Sight γ)) (s : Sight γ) :
    lastMissing (sights ++ [s]) = !s.hasFrame := by
  simp [lastMissing]

/-- What comes later changes no entry. -/
theorem entry_append_of_lt (sights : List (Sight γ)) (s : Sight γ) {i : Nat}
    (hi : i < sights.length) : entry (sights ++ [s]) i = entry sights i := by
  unfold entry
  rw [List.getElem?_append_left hi, List.getElem?_append_left (by omega)]

/-- The entry of the last tick is the fault that the player reports. -/
theorem entry_append_self (sights : List (Sight γ)) (s : Sight γ) :
    entry (sights ++ [s]) sights.length =
      (s.reported (lastMissing sights)).map fun fault => (number sights.length, fault) := by
  have before : (sights.length = 0 ∨ (sights ++ [s])[sights.length - 1]?.any hasFrame) ↔
      lastMissing sights = false := by
    rcases List.eq_nil_or_concat sights with rfl | ⟨early, last, rfl⟩
    · simp [lastMissing]
    · simp [lastMissing]
  simp only [entry, reported, before, List.getElem?_concat_length]
  cases s.fault with
  | some fault => rfl
  | none =>
    cases s.frame with
    | ok frame => rfl
    | error defect => cases lastMissing sights <;> rfl

theorem entries_append (sights : List (Sight γ)) (s : Sight γ) :
    entries (sights ++ [s]) =
      entries sights ++
        ((s.reported (lastMissing sights)).map fun fault => (number sights.length, fault)).toList := by
  have early : (List.range sights.length).filterMap (entry (sights ++ [s])) = entries sights :=
    List.filterMap_congr fun i hi => entry_append_of_lt sights s (List.mem_range.mp hi)
  rw [entries, List.length_append, List.length_singleton, List.range_succ,
    List.filterMap_append, early, ← entry_append_self]
  cases h : entry (sights ++ [s]) sights.length <;> simp [h]

end Sight

namespace Player

variable {γ : Type} [Core γ]

/-- Flag, counters, ledger and debug view agree with what the ticks of a run
have found. -/
structure Recorded (player : Player γ Ledger) (sights : List (Sight γ)) : Prop where
  ticks : player.deck.counters.ticks.val = min sights.length Counter.limit
  missing : player.frameMissing = Sight.lastMissing sights
  reports : player.sink.reports = Sight.entries sights
  faults : player.deck.counters.faults.val = min player.sink.reports.length Counter.limit
  lastFault : player.deck.lastFault = player.sink.reports.getLast?.map Prod.snd
  shown : player.deck.inspection.fault = player.deck.lastFault.map Fault.text

theorem recorded_start (core : γ) (screen : Screen) (config : PlayerConfig) :
    Recorded (start core screen {} config) [] :=
  ⟨rfl, rfl, rfl, rfl, rfl, rfl⟩

theorem Recorded.request {player : Player γ Ledger} {sights : List (Sight γ)}
    (h : Recorded player sights) (r : Request) : Recorded (player.request r).value sights := by
  rw [value_request]
  exact ⟨h.ticks, h.missing, h.reports, h.faults, h.lastFault, h.shown⟩

/-- A tick adds the report that it makes, if it makes one. -/
theorem Recorded.reports_next {player : Player γ Ledger} {sights : List (Sight γ)}
    (h : Recorded player sights) (now : Float) :
    (player.next now).sink.reports =
      player.sink.reports ++
        (player.reported.map fun fault => (Sight.number sights.length, fault)).toList := by
  have number : player.nextCounters.ticks.val = Sight.number sights.length := by
    rw [nextCounters, Counter.val_bump, h.ticks, Sight.number]
    omega
  rw [Player.reports_next, number, Option.toList_map]

theorem Recorded.next {player : Player γ Ledger} {sights : List (Sight γ)}
    (h : Recorded player sights) (now : Float) :
    Recorded (player.next now) (sights ++ [player.sight]) where
  ticks := by
    rw [Player.next, played, nextCounters, Counter.val_bump, h.ticks, List.length_append,
      List.length_singleton]
    omega
  missing := (Sight.lastMissing_append sights player.sight).symm
  reports := by
    rw [h.reports_next, Sight.entries_append, h.reports, Player.reported, h.missing]
  faults := by
    rw [h.reports_next]
    simp only [Player.next, played, nextCounters]
    cases player.reported with
    | none => simpa using h.faults
    | some fault =>
      simp [h.faults]
      omega
  lastFault := by
    rw [h.reports_next]
    simp only [Player.next, played]
    cases player.reported with
    | none => simpa using h.lastFault
    | some fault => simp
  shown := by
    simp only [Player.next, played]
    cases player.reported with
    | none => exact h.shown
    | some fault => rfl

theorem recorded_after (core : γ) (screen : Screen) (config : PlayerConfig)
    (actions : List Action) :
    Recorded ((start core screen {} config).after actions)
      ((start core screen ({} : Ledger) config).sights actions) := by
  refine run_induction (motive := fun _ q sights => Recorded q sights) _ ?_ ?_ ?_ actions
  · exact recorded_start core screen config
  · intro _ q sights r ih
    exact ih.request r
  · intro _ q sights now ih
    exact ih.next now

/-- **Reports are exact.**  On every run of a player over any core, the
ledger holds the entries of the ticks so far, in order, and nothing else.  A
tick adds at most one entry, and its outcome says whether it did.  The count
of faults is the length of the ledger up to the limit of a counter, the last
fault is that of the last entry, the debug view shows its text, and every
tick that faults or has no frame leaves the player paused, reported or not. -/
theorem reports_exact (core : γ) (screen : Screen) (config : PlayerConfig)
    (actions : List Action) :
    let player := (start core screen ({} : Ledger) config).after actions
    let sights := (start core screen ({} : Ledger) config).sights actions
    player.sink.reports = Sight.entries sights ∧
      (∀ now, let entry := Sight.entry (sights ++ [player.sight]) sights.length
        (player.tick now).value.2.sink.reports = player.sink.reports ++ entry.toList ∧
          (player.tick now).value.1.faulted = entry.isSome) ∧
      player.deck.counters.faults.val = min player.sink.reports.length Counter.limit ∧
      player.deck.lastFault = player.sink.reports.getLast?.map Prod.snd ∧
      player.deck.inspection.fault = player.deck.lastFault.map Fault.text ∧
      ∀ now, (player.sight.fault ≠ none ∨
          ∃ defect, Core.frame player.sight.core = .error defect) →
        (player.tick now).value.2.deck.mode = .paused := by
  intro player sights
  have recorded : Recorded player sights := recorded_after core screen config actions
  refine ⟨recorded.reports, ?_, recorded.faults, recorded.lastFault, recorded.shown, ?_⟩
  · intro now
    have added : Sight.entry (sights ++ [player.sight]) sights.length =
        player.reported.map fun fault => (Sight.number sights.length, fault) := by
      rw [Sight.entry_append_self, reported, recorded.missing]
    rw [value_tick, added]
    exact ⟨recorded.reports_next now, Option.isSome_map.symm⟩
  · intro now wrong
    have failed : player.sight.failed = true := by
      rw [← Bool.not_eq_false, Sight.failed_eq_false_iff]
      rintro ⟨sound, frame, fetched⟩
      rcases wrong with fault | ⟨defect, missing⟩
      · exact fault sound
      · rw [Sight.frame, missing] at fetched
        cases fetched
    rw [value_tick, next, played, failed]
    rfl

end Player

end HandheldHost
