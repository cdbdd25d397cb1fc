import HandheldHost.Proofs.Core.Attempts
import HandheldHost.Proofs.Player.Halt
import HandheldHost.Proofs.Player.Reports

/-!
# A frame is so many instructions

A frame of the pattern core executes its instructions one by one and ends at the first
that faults.  It makes no difference to the registers or to the fault whether they are
asked for at once or one at a time; and a player that is stepped goes on asking after a
fault, which makes no difference either, for the core is stuck by then.

* `Core.advanceUpTo` -- advancing so often, unless a fault comes first.
* `PatternCore.advanceUpTo_eq` -- where that leads is where as many attempts lead,
  whatever comes of them; `PatternCore.frame_of_instructions` -- what it makes of a frame.
* `Player.after_steppings` -- as many single steps of a player are such attempts.
* `Player.frame_is_instructions` -- what follows for a core and for its player.
-/

namespace HandheldHost

namespace Core

variable {γ : Type} [Core γ]

/-- Advances a core `n` times, or up to the first fault. -/
def advanceUpTo (stride : Stride) : Nat → γ → Option Fault × γ
  | 0, core => (none, core)
  | n + 1, core =>
    match (advance stride core).value with
    | (some fault, left) => (some fault, left)
    | (none, left) => advanceUpTo stride n left

/-- The last advance is made if none before it has faulted. -/
theorem advanceUpTo_succ (stride : Stride) (n : Nat) (core : γ) :
    advanceUpTo stride (n + 1) core =
      match advanceUpTo stride n core with
      | (some fault, left) => (some fault, left)
      | (none, left) => (advance stride left).value := by
  induction n generalizing core with
  | zero =>
    simp only [advanceUpTo]
    cases found : (advance stride core).value with
    | mk fault left => cases fault <;> rfl
  | succ n ih =>
    rw [advanceUpTo, advanceUpTo]
    rcases (advance stride core).value with ⟨_ | fault, left⟩
    · exact ih left
    · rfl

end Core

namespace PatternCore

/-- Attempts after the first fault make no difference. -/
theorem advanceUpTo_eq (stride : Stride) (n : Nat) (core : PatternCore) :
    Core.advanceUpTo stride n core = (core.met stride n, core.attempted stride n) := by
  induction n with
  | zero => rfl
  | succ n ih =>
    rw [Core.advanceUpTo_succ, ih]
    cases met : core.met stride n with
    | none => rfl
    | some fault =>
      obtain ⟨again, still, -⟩ := stuck_of_met met 1
      rw [again, still]

/-- Executing up to `n` instructions is advancing by one so often. -/
theorem value_steps_eq (n : Nat) (core : PatternCore) :
    (core.steps n).value = Core.advanceUpTo .instruction n core := by
  induction n generalizing core with
  | zero => rfl
  | succ n ih =>
    have one : (Core.advance .instruction core).value = core.step.value := rfl
    rw [value_steps_succ, Core.advanceUpTo, one, value_step]
    cases core.faultHere with
    | some fault => rfl
    | none => exact ih _

/-! The number of instructions in a frame is a variable below, so that nothing counts it
down. -/

theorem value_steps_frame {n : Nat} (whole : instructionsPerFrame = n) (core : PatternCore) :
    (core.steps (instructions .frame)).value =
      (core.met .instruction n, core.attempted .instruction n) := by
  rw [instructions, whole, value_steps_eq, advanceUpTo_eq]

/-- A frame without a fault is its instructions, finished. -/
theorem advance_frame_of_none {n : Nat} (whole : instructionsPerFrame = n) {core : PatternCore}
    (unmet : core.met .instruction n = none) :
    (Core.advance .frame core).value = (none, finish .frame (core.attempted .instruction n)) := by
  simp only [value_advance, value_steps_frame whole, unmet]

/-- A frame with a fault is its instructions up to there. -/
theorem advance_frame_of_some {n : Nat} (whole : instructionsPerFrame = n) {core : PatternCore}
    {fault : Fault} (met : core.met .instruction n = some fault) :
    (Core.advance .frame core).value = (some fault, core.attempted .instruction n) := by
  simp only [value_advance, value_steps_frame whole, met]

/-- Finishing a frame leaves the registers alone. -/
theorem registers_advance_frame {n : Nat} (whole : instructionsPerFrame = n) (core : PatternCore) :
    (Core.advance .frame core).value.2.registers = (core.attempted .instruction n).registers := by
  cases first : core.met .instruction n with
  | none =>
    rw [advance_frame_of_none whole first]
    rfl
  | some fault => rw [advance_frame_of_some whole first]

theorem attempted_one (stride : Stride) (core : PatternCore) :
    core.attempted stride 1 = (Core.advance stride core).value.2 := rfl

theorem faultAt_frame {n : Nat} (whole : instructionsPerFrame = n) (core : PatternCore) :
    core.faultAt .frame 0 = core.met .instruction n := by
  rw [faultAt, attempted]
  cases first : core.met .instruction n with
  | none => rw [advance_frame_of_none whole first]
  | some fault => rw [advance_frame_of_some whole first]

/-- The faults of attempts, one by one, are none or the same over and over. -/
theorem faults_of_attempts (stride : Stride) (core : PatternCore) (n : Nat) :
    (core.met stride n = none → (List.range n).filterMap (core.faultAt stride) = []) ∧
      ∀ fault, core.met stride n = some fault →
        fault ∈ (List.range n).filterMap (core.faultAt stride) ∧
          ∀ other ∈ (List.range n).filterMap (core.faultAt stride), other = fault := by
  constructor
  · intro unmet
    rw [List.filterMap_eq_nil_iff]
    intro i early
    have all := (met_eq_none_iff n).mp unmet
    exact (faultAt_eq_none_iff i).mpr ((Nat.cast_lt.mpr (List.mem_range.mp early)).trans_le all)
  · intro fault met
    constructor
    · cases n with
      | zero => cases met
      | succ n => exact List.mem_filterMap.mpr ⟨n, List.mem_range.mpr n.lt_succ_self, met⟩
    · intro other member
      obtain ⟨i, -, found⟩ := List.mem_filterMap.mp member
      have first : core.met stride (i + 1) = some other := found
      exact Option.some.inj ((firstFault_of_met first).symm.trans (firstFault_of_met met))

/-- Instructions move the registers only. -/
theorem exists_registers_attempted (core : PatternCore) (n : Nat) :
    ∃ registers, core.attempted .instruction n = { core with registers } := by
  obtain ⟨registers, left⟩ := core.exists_registers_steps n
  rw [value_steps_eq, advanceUpTo_eq] at left
  exact ⟨registers, left⟩

/-- A frame, against its instructions by themselves. -/
theorem frame_of_instructions {n : Nat} (whole : instructionsPerFrame = n) {core : PatternCore}
    (picture : core.Whole) :
    let left := (Core.advanceUpTo .instruction n core).2
    match (Core.advanceUpTo .instruction n core).1 with
    | none =>
      ∃ done, (Core.advance .frame core).value = (none, done) ∧
        done.registers = left.registers ∧ done.rom = left.rom ∧ done.held = left.held ∧
          done.frames = core.frames + 1 ∧
            done.picture = Checkerboard.picture 160 144 done.phase.toNat
    | some fault => (Core.advance .frame core).value = (some fault, left) := by
  obtain ⟨registers, moved⟩ := core.exists_registers_attempted n
  rw [advanceUpTo_eq]
  cases first : core.met .instruction n with
  | some fault => exact advance_frame_of_some whole first
  | none =>
    have redrawn : Whole { core.attempted .instruction n with
        frames := (core.attempted .instruction n).frames + 1 } := by
      rw [moved]
      exact picture
    refine ⟨_, advance_frame_of_none whole first, rfl, rfl, rfl, ?_, redrawn.picture_redraw⟩
    show (core.attempted .instruction n).frames + 1 = core.frames + 1
    rw [moved]

end PatternCore

/-! ## Players that are stepped -/

/-- The request for a single step. -/
def Stride.request : Stride → Request
  | .frame => .stepFrame
  | .instruction => .stepInstruction

/-- A request for a single step before each of some ticks. -/
def Action.steppings (stride : Stride) (stamps : List Float) : List Action :=
  stamps.flatMap fun now => [.request stride.request, .tick now]

namespace Player

variable {player : Player PatternCore Ledger}

/-- What a tick makes of its advance: the core that it leaves, debug view or not, and a
report if the advance faults. -/
theorem next_of_sight {s : Sight PatternCore} (found : player.sight = s) (whole : s.core.Whole)
    (now : Float) :
    (player.next now).core = s.core ∧ ∃ number, (player.next now).sink.reports =
      player.sink.reports ++ (s.fault.map fun fault => (number, fault)).toList := by
  obtain ⟨frame, there⟩ := whole.frame
  have reported : player.reported = s.fault := by
    rw [Player.reported, found, Sight.reported, Sight.frame, there]
    cases s.fault <;> rfl
  constructor
  · rw [← found, next, played]
    cases player.deck.debug <;> rfl
  · refine ⟨player.nextCounters.ticks.val, ?_⟩
    simp only [next, played, reported]
    cases s.fault with
    | none => exact (List.append_nil _).symm
    | some fault => rfl

/-- A single step of a player is an attempt to advance its core. -/
theorem after_stepping (whole : player.core.Whole) (stride : Stride) (now : Float) :
    let stepped := player.after [.request stride.request, .tick now]
    stepped.core = (Core.advance stride player.core).value.2 ∧
      ∃ number, stepped.sink.reports = player.sink.reports ++
        ((Core.advance stride player.core).value.1.map fun fault => (number, fault)).toList := by
  intro stepped
  let ready : Player PatternCore Ledger :=
    { player with deck := { player.deck with mode := stride.request.mode player.deck.mode } }
  have asked : (player.request stride.request).value = ready := by
    rw [value_request]
    cases stride <;> rfl
  have left : stepped = ready.next now := by
    have last : stepped = (player.after [.request stride.request]).act (.tick now) :=
      player.after_append_singleton [.request stride.request] (.tick now)
    rw [last, act_tick, show player.after [.request stride.request] = ready from asked]
  have found : ready.sight =
      ⟨(Core.advance stride player.core).value.1, (Core.advance stride player.core).value.2⟩ := by
    cases stride <;> rfl
  rw [left]
  exact next_of_sight found (whole.advance stride) now

/-- **Single steps are attempts**: they leave the core where the attempts leave it, and
report the faults of the attempts, in order. -/
theorem after_steppings (whole : player.core.Whole) (stride : Stride) (stamps : List Float) :
    let stepped := player.after (Action.steppings stride stamps)
    stepped.core = player.core.attempted stride stamps.length ∧
      ∃ added, stepped.sink.reports = player.sink.reports ++ added ∧
        added.map Prod.snd =
          (List.range stamps.length).filterMap (player.core.faultAt stride) := by
  induction stamps using List.reverseRecOn with
  | nil => exact ⟨rfl, [], (List.append_nil _).symm, rfl⟩
  | append_singleton stamps now ih =>
    intro stepped
    obtain ⟨core, added, reports, faults⟩ := ih
    have still : (player.after (Action.steppings stride stamps)).core.Whole :=
      core_after PatternCore.keeps_whole whole _
    obtain ⟨last, number, report⟩ := after_stepping still stride now
    have split : stepped = (player.after (Action.steppings stride stamps)).after
        [.request stride.request, .tick now] := by
      rw [← after_append]
      exact congrArg player.after (List.flatMap_append.trans (congrArg _ (List.append_nil _)))
    rw [core] at last report
    rw [split, last, report, reports, List.length_append, List.length_singleton,
      List.range_succ, List.filterMap_append, ← faults]
    refine ⟨rfl, _, List.append_assoc _ _ _, ?_⟩
    rw [List.map_append]
    congr 1
    show (((player.core.faultAt stride stamps.length).map fun fault => (number, fault)).toList).map
      Prod.snd = [stamps.length].filterMap (player.core.faultAt stride)
    cases tried : player.core.faultAt stride stamps.length <;> simp [tried]

/-- A frame of a player, against its instructions by themselves. -/
theorem frame_and_instructions {n : Nat} (per_frame : PatternCore.instructionsPerFrame = n)
    (whole : player.core.Whole) (now : Float) (stamps : List Float) (all : stamps.length = n) :
    let coarse := player.after (Action.steppings .frame [now])
    let fine := player.after (Action.steppings .instruction stamps)
    coarse.core.registers = fine.core.registers ∧
      ∃ one many, coarse.sink.reports = player.sink.reports ++ one ∧
        fine.sink.reports = player.sink.reports ++ many ∧
          ((one = [] ∧ many = []) ∨
            ∃ fault, one.map Prod.snd = [fault] ∧ many ≠ [] ∧
              ∀ report ∈ many, report.2 = fault) := by
  intro coarse fine
  obtain ⟨coarse_core, one, coarse_reports, one_faults⟩ := after_steppings whole .frame [now]
  obtain ⟨fine_core, many, fine_reports, many_faults⟩ := after_steppings whole .instruction stamps
  rw [all] at fine_core many_faults
  have registers : coarse.core.registers = fine.core.registers := by
    rw [show coarse.core = _ from coarse_core, show fine.core = _ from fine_core,
      List.length_singleton, PatternCore.attempted_one]
    exact PatternCore.registers_advance_frame per_frame player.core
  have one_faults : one.map Prod.snd = (player.core.met .instruction n).toList := by
    rw [one_faults, ← PatternCore.faultAt_frame per_frame]
    show [0].filterMap _ = _
    cases found : player.core.faultAt .frame 0 <;> simp [found]
  refine ⟨registers, one, many, coarse_reports, fine_reports, ?_⟩
  obtain ⟨unmet, met⟩ := PatternCore.faults_of_attempts .instruction player.core n
  cases first : player.core.met .instruction n with
  | none =>
    rw [first] at one_faults
    rw [unmet first] at many_faults
    exact .inl ⟨List.map_eq_nil_iff.mp one_faults, List.map_eq_nil_iff.mp many_faults⟩
  | some fault =>
    rw [first] at one_faults
    obtain ⟨member, same⟩ := met fault first
    rw [← many_faults] at member same
    refine .inr ⟨fault, one_faults, ?_, fun report reported => ?_⟩
    · rintro rfl
      exact absurd member List.not_mem_nil
    · exact same report.2 (List.mem_map_of_mem reported)

/-- **A frame is 1024 instructions.**  Take the pattern core of any cartridge image in any
state that it can come to, and advance it by an instruction 1024 times or up to the first
fault.  If there is none, the frame of that core is completed: registers, cartridge and
buttons are those that the instructions leave, one frame more is counted, and the picture is
the one for that count and those buttons.  If there is one, the frame ends with this fault,
and everything is as the instructions leave it.  So a player over such a core, in any state
that it can come to, ends with the same registers whether it is asked for one frame or for
1024 single instructions, at whatever stamps; and either both report this one fault and no
other, or neither reports any. -/
theorem frame_is_instructions (rom : Bytes) :
    (∀ moves : List Core.Move,
      let core := Core.movedBy (PatternCore.boot rom) moves
      let left := (Core.advanceUpTo .instruction 1024 core).2
      match (Core.advanceUpTo .instruction 1024 core).1 with
      | none =>
        ∃ done, (Core.advance .frame core).value = (none, done) ∧
          done.registers = left.registers ∧ done.rom = left.rom ∧ done.held = left.held ∧
            done.frames = core.frames + 1 ∧
              done.picture = Checkerboard.picture 160 144 done.phase.toNat
      | some fault => (Core.advance .frame core).value = (some fault, left)) ∧
    ∀ (screen : Screen) (config : PlayerConfig) (actions : List Action) (now : Float)
      (stamps : Vector Float 1024),
      let player := (start (PatternCore.boot rom) screen ({} : Ledger) config).after actions
      let coarse := player.after [.request .stepFrame, .tick now]
      let fine := player.after
        (stamps.toList.flatMap fun now => [.request .stepInstruction, .tick now])
      coarse.core.registers = fine.core.registers ∧
        ∃ one many, coarse.sink.reports = player.sink.reports ++ one ∧
          fine.sink.reports = player.sink.reports ++ many ∧
            ((one = [] ∧ many = []) ∨
              ∃ fault, one.map Prod.snd = [fault] ∧ many ≠ [] ∧
                ∀ report ∈ many, report.2 = fault) := by
  constructor
  · intro moves
    exact PatternCore.frame_of_instructions rfl (PatternCore.whole_movedBy rom moves)
  · intro screen config actions now stamps player coarse fine
    have start_whole : (start (PatternCore.boot rom) screen ({} : Ledger) config).core.Whole :=
      PatternCore.whole_boot rom
    have whole : player.core.Whole := core_after PatternCore.keeps_whole start_whole actions
    exact frame_and_instructions rfl whole now stamps.toList stamps.length_toList

end Player

end HandheldHost
