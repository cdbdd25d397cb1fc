import HandheldHost.Proofs.Compositor
import HandheldHost.Proofs.Core.Pattern
import HandheldHost.Proofs.Player.Advances

/-!
# Faults for good

A core may fault on one advance and go on with the next.  A halted core does
not: it answers every advance with the same fault, stays where it is, and
shows the same frame, whatever is done with its buttons.  A player over such a
core can be asked to resume as often as one likes.

* `Core.Halt` -- what a halted core is; `PatternCore.halt` -- the undefined
  opcodes of the pattern core are one.
* `Player.Halted` -- a player over a halted core, compared with what it was
  when the core halted.
* `Player.faults_are_final` -- a fault of the pattern core is never left.
-/

namespace HandheldHost

/-! ## Halted cores -/

/-- The cores with a property are halted at a fault, showing a frame. -/
structure Core.Halt {γ : Type} [Core γ] (P : γ → Prop) (fault : Fault) (frame : Frame) : Prop
    extends Core.Keeps P where
  advance_eq : ∀ (stride : Stride) {core : γ}, P core →
    (Core.advance stride core).value = (some fault, core)
  frame_eq : ∀ {core : γ}, P core → Core.frame core = .ok frame

namespace PatternCore

/-- The pattern cores that have come to an undefined opcode and show a given
frame. -/
structure HaltedAt (fault : Fault) (frame : Frame) (core : PatternCore) : Prop where
  fault_eq : core.faultHere = some fault
  frame_eq : Core.frame core = .ok frame

theorem halt (fault : Fault) (frame : Frame) : Core.Halt (HaltedAt fault frame) fault frame where
  setButton _ _ h := ⟨h.fault_eq, h.frame_eq⟩
  advance stride _ h := by
    rw [value_advance_of_halted h.fault_eq]
    exact h
  registers h := h
  window _ _ h := h
  advance_eq stride _ h := value_advance_of_halted h.fault_eq stride
  frame_eq h := h.frame_eq

theorem keeps_whole : Core.Keeps Whole where
  setButton _ _ h := h
  advance stride _ h := h.advance stride
  registers h := h
  window _ _ h := h

end PatternCore

namespace Player

section

variable {γ δ : Type} [Core γ] {P : γ → Prop} {fault : Fault} {frame : Frame}
  {player : Player γ δ}

/-! ## What a tick finds -/

theorem sight_of_halt (halt : Core.Halt P fault frame) (h : P player.core) :
    player.sight = ⟨player.deck.mode.stride.map fun _ => fault, player.core⟩ := by
  unfold sight
  cases player.deck.mode.stride with
  | none => rfl
  | some stride => simp only [halt.advance_eq stride h, Option.map_some]

theorem frame_sight_of_halt (halt : Core.Halt P fault frame) (h : P player.core) :
    player.sight.frame = .ok frame := by
  rw [sight_of_halt halt h]
  exact halt.frame_eq h

/-- Whenever an advance is made the fault is reported, and nothing else ever
is. -/
theorem reported_of_halt (halt : Core.Halt P fault frame) (h : P player.core) :
    player.reported = player.deck.mode.stride.map fun _ => fault := by
  have frame_eq := frame_sight_of_halt halt h
  rw [sight_of_halt halt h] at frame_eq
  rw [reported, sight_of_halt halt h, Sight.reported, frame_eq]
  cases player.deck.mode.stride <;> rfl

theorem completed_of_halt (halt : Core.Halt P fault frame) (h : P player.core) :
    player.completed = none := by
  rw [completed, sight_of_halt halt h]
  cases player.deck.mode.stride <;> rfl

theorem nextCompositor_of_frame (fetched : player.sight.frame = .ok frame) :
    player.nextCompositor = (player.compositor.accept frame).value := by
  rw [nextCompositor, fetched]

end

section

variable {γ δ : Type} [Core γ] {P : γ → Prop} {fault : Fault} {frame : Frame}

/-! ## Halted players -/

/-- A player over a halted core, compared with an earlier one that has shown
the frame of that core: the canvas is the same, and so are the counts of
completed advances. -/
structure Halted (P : γ → Prop) (frame : Frame) (first player : Player γ δ) : Prop where
  core : P player.core
  settled : (first.compositor.accept frame).value = first.compositor
  compositor : player.compositor = first.compositor
  pixels : player.screen.pixels = first.compositor.canvas
  frames : player.deck.counters.frames = first.deck.counters.frames
  instructions : player.deck.counters.instructions = first.deck.counters.instructions

theorem Halted.request {first player : Player γ δ} (halt : Core.Halt P fault frame)
    (h : Halted P frame first player) (r : Request) :
    Halted P frame first (player.request r).value := by
  have core := core_request halt.toKeeps h.core r
  rw [value_request] at core ⊢
  exact ⟨core, h.settled, h.compositor, h.pixels, h.frames, h.instructions⟩

variable [FaultSink δ]

/-- The tick that finds the core halted is the first of a halted player. -/
theorem halted_next (halt : Core.Halt P fault frame) {player : Player γ δ}
    (h : P player.sight.core) (now : Float) :
    Halted P frame (player.next now) (player.next now) where
  core := core_next halt.toSteady h now
  settled := by
    -- The tick has accepted the frame itself, and accepting it again changes nothing.
    have fetched : player.sight.frame = .ok frame := halt.frame_eq h
    show (player.nextCompositor.accept frame).value = player.nextCompositor
    rw [nextCompositor_of_frame fetched, Compositor.accept_accept]
  compositor := rfl
  pixels := rfl
  frames := rfl
  instructions := rfl

theorem Halted.next {first player : Player γ δ} (halt : Core.Halt P fault frame)
    (h : Halted P frame first player) (now : Float) :
    Halted P frame first (player.next now) := by
  have found : P player.sight.core := by
    rw [sight_of_halt halt h.core]
    exact h.core
  have compositor : player.nextCompositor = first.compositor := by
    rw [nextCompositor_of_frame (halt.frame_eq found), h.compositor, h.settled]
  have completed := completed_of_halt halt h.core
  refine ⟨core_next halt.toSteady found now, h.settled, compositor, ?_, ?_, ?_⟩
  · exact congrArg Compositor.canvas compositor
  · show player.nextCounters.frames = _
    rw [nextCounters, completed]
    exact h.frames
  · show player.nextCounters.instructions = _
    rw [nextCounters, completed]
    exact h.instructions

theorem Halted.after {first player : Player γ δ} (halt : Core.Halt P fault frame)
    (h : Halted P frame first player) (actions : List Action) :
    Halted P frame first (player.after actions) := by
  refine run_induction (motive := fun _ q _ => Halted P frame first q) player h ?_ ?_ actions
  · intro _ q _ r ih
    exact ih.request halt r
  · intro _ q _ now ih
    exact ih.next halt now

end

/-! ## What a tick records -/

section

variable {γ : Type} [Core γ] {P : γ → Prop} {fault : Fault} {frame : Frame}

/-- A tick that tries to advance a halted core records its fault once more and
pauses; a tick that does not try records nothing. -/
theorem tick_of_halt (halt : Core.Halt P fault frame) {player : Player γ Ledger}
    (h : P player.core) (now : Float) :
    (player.deck.mode ≠ .paused →
      (player.next now).sink.reports = player.sink.reports ++ [(player.outcome.tick, fault)] ∧
        player.outcome.faulted = true ∧ (player.next now).deck.mode = .paused) ∧
      (player.deck.mode = .paused →
        (player.next now).sink = player.sink ∧ player.outcome.faulted = false) := by
  have reported := reported_of_halt halt h
  rw [mode_next, outcome]
  simp only [next, played]
  constructor
  · intro tries
    obtain ⟨stride, planned⟩ :=
      Option.ne_none_iff_exists'.mp (mt (Mode.stride_eq_none_iff _).mp tries)
    have failed : player.sight.failed = true := by
      rw [Sight.failed, sight_of_halt halt h, planned]
      rfl
    rw [planned] at reported
    simp only [reported, failed]
    refine ⟨rfl, rfl, ?_⟩
    simp
  · intro rests
    rw [(Mode.stride_eq_none_iff _).mpr rests] at reported
    simp only [reported]
    exact ⟨rfl, rfl⟩

end

/-! ## The pattern core -/

/-- A fault of a pattern core with a whole picture halts it. -/
theorem exists_haltedAt_sight {δ : Type} {player : Player PatternCore δ} {fault : Fault}
    (whole : player.core.Whole) (found : player.sight.fault = some fault) :
    ∃ frame, PatternCore.HaltedAt fault frame player.sight.core := by
  obtain ⟨frame, fetched⟩ := (core_sight PatternCore.keeps_whole.toSteady whole).frame
  refine ⟨frame, ?_, fetched⟩
  unfold sight at found ⊢
  cases planned : player.deck.mode.stride with
  | none =>
    rw [planned] at found
    cases found
  | some stride =>
    rw [planned] at found
    obtain ⟨registers, left, here⟩ := PatternCore.advance_of_fault found
    simp only [left]
    exact here

/-- **Faults of the pattern core are final.**  A faulting advance leaves the
core at an undefined opcode, which is the program counter of the fault, with
picture, frame count and buttons as they were; and then, whatever is done to
the core, every advance gives the same fault and registers, frame count and
picture stay.  So once a tick of a player over such a core has met a fault,
on every later run the screen and the counts of frames and instructions stay
as they are; a tick that is not paused records that fault once more and
pauses, and a paused tick records nothing. -/
theorem faults_are_final :
    (∀ (core : PatternCore) (stride : Stride) (fault : Fault),
      (Core.advance stride core).value.1 = some fault →
        let left := (Core.advance stride core).value.2
        (fault.pc = some left.registers.pc ∧
            left.fetch left.registers.pc ∈ PatternCore.undefinedOpcodes) ∧
          (left.picture = core.picture ∧ left.frames = core.frames ∧ left.held = core.held) ∧
          ∀ moves : List Core.Move, let later := Core.movedBy left moves
            (∀ stride, (Core.advance stride later).value.1 = some fault) ∧
              later.registers = left.registers ∧ later.frames = left.frames ∧
                later.picture = left.picture) ∧
      ∀ rom : Bytes, PatternCore.minimumRom ≤ rom.size →
        ∃ core, (PatternCore.load rom).value = .ok core ∧
          ∀ (screen : Screen) (config : PlayerConfig) (actions : List Action) (now : Float)
            (fault : Fault), let player := (start core screen ({} : Ledger) config).after actions
            player.sight.fault = some fault →
              let first := (player.tick now).value.2
              ∀ more : List Action, let later := first.after more
                (later.screen.pixels = first.screen.pixels ∧
                    later.deck.counters.frames = first.deck.counters.frames ∧
                      later.deck.counters.instructions = first.deck.counters.instructions) ∧
                  ∀ now, let outcome := (later.tick now).value.1
                    let after := (later.tick now).value.2
                    (later.deck.mode ≠ .paused →
                      after.sink.reports = later.sink.reports ++ [(outcome.tick, fault)] ∧
                        outcome.faulted = true ∧ after.deck.mode = .paused) ∧
                      (later.deck.mode = .paused →
                        after.sink = later.sink ∧ outcome.faulted = false) := by
  constructor
  · intro core stride fault faulted left
    obtain ⟨registers, left_eq, here⟩ := PatternCore.advance_of_fault faulted
    have halted : left.faultHere = some fault := by
      rw [show left = _ from left_eq]
      exact here
    obtain ⟨undefined, fault_eq⟩ := (PatternCore.faultHere_eq_some_iff left fault).mp halted
    refine ⟨⟨by rw [fault_eq], undefined⟩, ?_, ?_⟩
    · rw [show left = _ from left_eq]
      exact ⟨rfl, rfl, rfl⟩
    · intro moves later
      obtain ⟨held, later_eq⟩ := PatternCore.movedBy_of_halted halted moves
      rw [show later = _ from later_eq]
      refine ⟨fun stride => ?_, rfl, rfl, rfl⟩
      have still : PatternCore.faultHere { left with held } = some fault := halted
      rw [PatternCore.value_advance_of_halted still]
  · intro rom large
    refine ⟨PatternCore.boot rom, (PatternCore.load_eq_ok_iff _ _).mpr ⟨large, rfl⟩, ?_⟩
    intro screen config actions now fault player found
    have start_whole : (start (PatternCore.boot rom) screen ({} : Ledger) config).core.Whole :=
      PatternCore.whole_boot rom
    have whole : player.core.Whole := core_after PatternCore.keeps_whole start_whole actions
    obtain ⟨frame, halted⟩ := exists_haltedAt_sight whole found
    have halt := PatternCore.halt fault frame
    rw [value_tick]
    intro first more later
    have still := (halted_next halt halted now).after halt more
    refine ⟨⟨still.pixels, still.frames, still.instructions⟩, fun now => ?_⟩
    rw [value_tick]
    exact tick_of_halt halt still.core now

/-- A cartridge whose entry point is undefined: the first tick halts the core,
and resuming records the fault a second time. -/
theorem faults_are_final_at_entry :
    let rom : Bytes := Array.replicate 0x150 0xD3
    let fault : Fault := ⟨"illegal opcode D3", some 0x100⟩
    let player := start (PatternCore.boot rom) {} ({} : Ledger) {}
    PatternCore.minimumRom ≤ rom.size ∧ player.sight.fault = some fault ∧
      let resumed := ((player.tick 0).value.2.after [.request .togglePause])
      (resumed.tick 16).value.2.sink.reports =
        resumed.sink.reports ++ [((resumed.tick 16).value.1.tick, fault)] := by
  intro rom fault player
  have large : PatternCore.minimumRom ≤ rom.size := Nat.le_of_eq Array.size_replicate.symm
  have here : (PatternCore.boot rom).faultHere = some fault :=
    PatternCore.faultHere_boot_undefined
  obtain ⟨frame, shown⟩ := (PatternCore.whole_boot rom).frame
  obtain ⟨core, loaded, runs⟩ := faults_are_final.2 rom large
  -- from here on the core is a variable, so that nothing evaluates its picture
  have booted : PatternCore.boot rom = core := ((PatternCore.load_eq_ok_iff _ _).mp loaded).2.symm
  rw [booted] at here shown
  have player_eq : player = start core {} {} {} :=
    congrArg (fun core => start core {} ({} : Ledger) {}) booted
  clear_value player
  subst player_eq
  have found : (start core {} ({} : Ledger) {}).sight.fault = some fault := by
    rw [sight_of_halt (PatternCore.halt fault frame) ⟨here, shown⟩]
    rfl
  have paused : ((start core {} ({} : Ledger) {}).tick 0).value.2.deck.mode = .paused := by
    rw [value_tick, mode_next, Sight.failed, found]
    rfl
  have resumes (player : Player PatternCore Ledger) (h : player.deck.mode = .paused) :
      (player.after [.request .togglePause]).deck.mode ≠ .paused := by
    show (player.request .togglePause).value.deck.mode ≠ .paused
    rw [value_request, Request.mode, h]
    simp
  have ticks := (runs {} {} [] 0 fault found [.request .togglePause]).2 16
  rw [after_nil] at ticks
  obtain ⟨recorded, -, -⟩ := ticks.1 (resumes _ paused)
  exact ⟨large, found, recorded⟩

end Player

end HandheldHost
