import HandheldHost.CommandLine.Execution
import HandheldHost.Proofs.Inspection.Panel
import HandheldHost.Proofs.Player.Scene
import HandheldHost.Proofs.Session

/-!
# What `step` prints

`step` makes one attempt after the other to execute an instruction and stops
after one that faults.  What it prints at the end is what the debug view shows,
and that is the core as it is then -- unless there was no attempt at all: the
debug view shows nothing before the first tick.

* `CommandLine.output_execute` -- an invocation prints what its command plays.
* `CommandLine.value_stepAll` -- the attempts.
* `CommandLine.step_prints_core` -- what is printed.
* `CommandLine.output_step_zero` -- the exception.
-/

namespace HandheldHost

namespace PatternCore

/-- An instruction that faults leaves the core as it is. -/
theorem attempted_instruction_of_fault {core : PatternCore} {n : Nat} {fault : Fault}
    (h : core.faultAt .instruction n = some fault) :
    core.attempted .instruction (n + 1) = core.attempted .instruction n ∧
      (core.attempted .instruction n).faultHere = some fault := by
  have left : core.attempted .instruction (n + 1) =
      (core.attempted .instruction n).step.value.2 := rfl
  have gives : core.faultAt .instruction n = (core.attempted .instruction n).step.value.1 := rfl
  rw [gives, value_step] at h
  rw [left, value_step]
  cases here : (core.attempted .instruction n).faultHere with
  | none =>
    rw [here] at h
    cases h
  | some first =>
    rw [here] at h
    exact ⟨rfl, h⟩

/-- Attempts to execute an instruction leave the core where those that are
completed leave it.  If not all are, that is at a fault, the one they have met. -/
theorem attempted_instruction (core : PatternCore) (n : Nat) :
    core.attempted .instruction (core.completed .instruction n) = core.attempted .instruction n ∧
      core.met .instruction n =
        (if core.completed .instruction n < n then (core.attempted .instruction n).faultHere
          else none) ∧
      (core.completed .instruction n < n → (core.attempted .instruction n).faultHere.isSome) := by
  rcases le_or_gt (n : ℕ∞) (core.advances .instruction) with le | lt
  · rw [completed_of_le le, if_neg (Nat.lt_irrefl n)]
    exact ⟨rfl, (met_eq_none_iff n).mpr le, fun lt => absurd lt (Nat.lt_irrefl n)⟩
  · obtain ⟨first, fault, more, first_eq, rfl, found⟩ := exists_firstFault_of_lt lt
    have completed_eq : core.completed .instruction (first + more + 1) = first := by
      rw [completed, min_eq_right lt.le, first_eq, ENat.toNat_natCast]
    obtain ⟨same, here⟩ := attempted_instruction_of_fault found
    obtain ⟨again, still⟩ := stuck_of_fault found more
    rw [completed_eq, if_pos (by omega), still, same, here]
    exact ⟨rfl, again, fun _ => rfl⟩

/-- How the fault at the program counter is worded. -/
def faultText (core : PatternCore) : String :=
  "core fault at PC=" ++ Text.Hex.ofWord core.registers.pc ++ ": " ++
    ("illegal opcode " ++ Text.Hex.ofOctet (core.fetch core.registers.pc))

theorem text_faultHere {core : PatternCore} (undefined : core.faultHere.isSome) :
    core.faultHere.map Fault.text = some core.faultText := by
  obtain ⟨fault, here⟩ := Option.isSome_iff_exists.mp undefined
  obtain ⟨-, rfl⟩ := (core.faultHere_eq_some_iff fault).mp here
  rw [here, Text.Hex.byte_eq]
  have pc_eq := Text.Hex.word_eq core.registers.pc
  exact congrArg (fun pc => some ("core fault at PC=" ++ pc ++ ": " ++ _)) pc_eq

end PatternCore

namespace CommandLine

/-- A cartridge image that is large enough is played, and what is printed is
what the play prints. -/
theorem output_execute {rom : Bytes} (large : PatternCore.minimumRom ≤ rom.size) (i : Invocation) :
    (i.execute (.ok rom)).output =
      (i.command.play (if i.verbose then .debug else .warn)
        (.start (.boot rom) {} default i.command.config)).value.1 := by
  simp only [Invocation.execute, Session.create_of_large large]
  rfl

/-! ## Stepping -/

theorem value_stepAll_succ (threshold : Level) (player : HostPlayer) (clock : Clock) (n : Nat) :
    let asked := (player.request .stepInstruction).value
    (stepAll threshold player clock (n + 1)).value =
      match asked.completed with
      | none => (0, asked.next clock.take.1)
      | some _ =>
        let rest := (stepAll threshold (asked.next clock.take.1) clock.take.2 n).value
        (rest.1 + 1, rest.2) := by
  intro asked
  simp only [stepAll, Logged.value_bind, Logged.value_keep, Logged.value_pure, Player.value_tick]
  show (match asked.completed with | none => _ | some _ => _ : Logged (Int32 × HostPlayer)).value = _
  cases asked.completed <;> rfl

/-- **Stepping**: as many instructions are counted as are completed, and the
scene is the one after all the attempts asked for. -/
theorem value_stepAll (threshold : Level) {core : PatternCore} {i ticks : Nat}
    {player : HostPlayer}
    (plays : player.Plays (.attempted .instruction core i .paused ticks))
    (unmet : core.met .instruction i = none) (clock : Clock) (n : Nat) :
    let left := (stepAll threshold player clock n).value
    left.1 = Int32.ofNat (core.completed .instruction (i + n) - i) ∧
      ∃ more, (0 < n → 0 < more) ∧
        left.2.Plays (.attempted .instruction core (i + n) .paused (ticks + more)) := by
  induction n generalizing i ticks player clock with
  | zero =>
    have all := PatternCore.completed_of_le ((PatternCore.met_eq_none_iff i).mp unmet)
    refine ⟨?_, 0, id, plays⟩
    rw [Nat.add_zero, all, Nat.sub_self]
    rfl
  | succ n ih =>
    have asked : (player.request .stepInstruction).value.Plays
        (.attempted .instruction core i .stepInstruction ticks) := plays.stepInstruction
    have completed : (player.request .stepInstruction).value.completed =
        if (core.faultAt .instruction i).isSome then none else some .instruction :=
      asked.completed_eq
    have next := asked.next clock.take.1
    rw [Scene.next_attempted rfl unmet, Mode.planned, ite_self] at next
    rw [value_stepAll_succ, completed]
    cases found : core.faultAt .instruction i with
    | none =>
      obtain ⟨counted, more, -, left⟩ := ih next found clock.take.2
      have sum : i + (n + 1) = i + 1 + n := by omega
      have reached : i + 1 ≤ core.completed .instruction (i + 1 + n) := by
        have all := PatternCore.completed_of_le ((PatternCore.met_eq_none_iff (i + 1)).mp found)
        exact all.ge.trans (PatternCore.completed_mono (Nat.le_add_right _ _))
      have one_more : core.completed .instruction (i + 1 + n) - i =
          core.completed .instruction (i + 1 + n) - (i + 1) + 1 := by omega
      refine ⟨?_, more + 1, fun _ => more.succ_pos, ?_⟩
      · rw [sum, one_more, Int32.ofNat_add, ← counted]
        rfl
      · rw [sum, show ticks + (more + 1) = ticks + 1 + more by omega]
        exact left
    | some fault =>
      have met : core.met .instruction (i + 1) = some fault := found
      have sum : i + (n + 1) = i + 1 + n := by omega
      refine ⟨?_, 1, fun _ => Nat.one_pos, ?_⟩
      · -- None is completed from here on.
        have all := PatternCore.completed_of_le ((PatternCore.met_eq_none_iff i).mp unmet)
        rw [sum, (PatternCore.stuck_of_met met n).2.2, PatternCore.completed_succ_of_some found, all,
          Nat.sub_self]
        rfl
      · rw [sum, Scene.attempted_add_of_met met]
        exact next

/-! ## What is printed -/

theorem value_play_step (threshold : Level) (player : HostPlayer) (count : Nat) :
    ((Command.step count).play threshold player).value.1 =
      let left := (stepAll threshold player {} count).value
      "Stepped " ++ toString left.1 ++ " instruction(s) -> PC=" ++
        Text.Hex.word left.2.deck.inspection.registers.pc ++ "\n" ++
        left.2.deck.inspection.fullPanel := rfl

/-- What `step` prints of a core after so many instructions: the first line, and the
panel. -/
def stepText (steps : String) (core : PatternCore) (fault : Option String) : String :=
  Text.ofLines
    (("Stepped " ++ steps ++ " instruction(s) -> PC=" ++ Text.Hex.ofWord core.registers.pc) ::
      Inspection.panelLines
        { registers := core.registers
          window := ⟨core.registers.pc, core.window 48⟩
          fault })

theorem stepText_eq (steps : String) (core : PatternCore) (fault : Option String) :
    stepText steps core fault =
      "Stepped " ++ steps ++ " instruction(s) -> PC=" ++ Text.Hex.word core.registers.pc ++ "\n" ++
        Inspection.fullPanel
          { registers := core.registers
            window := ⟨core.registers.pc, core.window 48⟩
            fault } := by
  rw [stepText, Text.ofLines_cons, Inspection.fullPanel_eq, Text.Hex.word_eq]

theorem toString_ofNat {n : Nat} (small : n < 2 ^ 31) : toString (Int32.ofNat n) = toString n := by
  show toString (Int32.ofNat n).toInt = toString n
  rw [Int32.toInt_ofNat_of_lt small]
  rfl

/-- What `step` prints if no step is asked for. -/
def zeroStepText : String :=
  Text.ofLines
    ["Stepped 0 instruction(s) -> PC=0000",
      "A: 00  B: 00  C: 00  D: 00  E: 00",
      "HL: 0000  PC: 0000  SP: 0000",
      "c: 0 hc: 0 sub: 0 z: 0",
      "0000:"]

/-- Without a step nothing ticks, and the debug view shows nothing. -/
theorem output_step_zero {rom : Bytes} (large : PatternCore.minimumRom ≤ rom.size) (path : String)
    (verbose : Bool) :
    ((Invocation.mk path verbose (.step 0)).execute (.ok rom)).output = zeroStepText := by
  rw [output_execute large, value_play_step]
  show "Stepped " ++ toString (0 : Int32) ++ " instruction(s) -> PC=" ++ Text.Hex.word 0 ++ "\n" ++
    Inspection.fullPanel {} = _
  decide +kernel

/-- **What `step` prints** for a cartridge image that is large enough, if any
step is asked for: the number `k` of instructions that are completed, which is
the number asked for unless there are fewer before the first undefined opcode;
the program counter, the registers and the 48 octets there of the core after
just these; and a fault, the one the core is at, if they are fewer.  The number
is printed as one of 32 bits with a sign, so it is right below 2 ^ 31. -/
theorem step_prints_core {rom : Bytes} (large : PatternCore.minimumRom ≤ rom.size)
    (path : String) (verbose : Bool) (count : Nat) :
    let boot := PatternCore.boot rom
    let k := (min (count : ℕ∞) (boot.advances .instruction)).toNat
    let core := boot.attempted .instruction k
    let output := ((Invocation.mk path verbose (.step count)).execute (.ok rom)).output
    (0 < count → output = stepText (toString (Int32.ofNat k)) core
        (if k < count then some core.faultText else none)) ∧
      (k < count → core.faultHere.isSome) ∧
      (k < 2 ^ 31 → toString (Int32.ofNat k) = toString k) ∧
      (count = 0 → output = zeroStepText) := by
  intro boot k core output
  obtain ⟨core_eq, met_eq, isFault⟩ := boot.attempted_instruction count
  have opening : Scene.attempted .instruction boot 0 .paused 0 = ⟨boot, .paused, {}, none⟩ :=
    Scene.attempted_zero .paused
  have plays : (Player.start boot {} default (Command.step count).config : HostPlayer).Plays
      (.attempted .instruction boot 0 .paused 0) :=
    opening ▸ Player.plays_start rom {} default rfl rfl
  obtain ⟨counted, more, ticked, left⟩ :=
    value_stepAll (if verbose then .debug else .warn) plays rfl {} count
  rw [Nat.zero_add] at counted left
  have printed : output = _ :=
    (output_execute large ⟨path, verbose, .step count⟩).trans (value_play_step _ _ count)
  have here (fewer : k < count) : core.faultHere.isSome := by
    have found := isFault fewer
    rwa [← core_eq] at found
  have worded : (if k < count then core.faultHere else none).map Fault.text =
      if k < count then some core.faultText else none := by
    by_cases fewer : k < count
    · rw [if_pos fewer, if_pos fewer, PatternCore.text_faultHere (here fewer)]
    · rw [if_neg fewer, if_neg fewer, Option.map_none]
  refine ⟨?_, here, toString_ofNat, ?_⟩
  · intro positive
    have view_eq := left.view_eq
    rw [Scene.view_attempted (Nat.add_pos_right 0 (ticked positive)), met_eq, ← core_eq] at view_eq
    rw [printed, stepText_eq, ← worded]
    dsimp only
    rw [counted, view_eq]
    rfl
  · rintro rfl
    exact output_step_zero large path verbose

/-- A cartridge with an undefined opcode at its entry point stays there. -/
theorem step_prints_core_at_undefined_opcode :
    let rom : Bytes := Array.replicate 0x150 0xD3
    PatternCore.minimumRom ≤ rom.size ∧
      ((Invocation.mk "rom.gb" false (.step 3)).execute (.ok rom)).output =
        stepText "0" (.boot rom) (some "core fault at PC=0100: illegal opcode D3") := by
  intro rom
  have large : PatternCore.minimumRom ≤ rom.size := by simp [rom, PatternCore.minimumRom]
  have here : (PatternCore.boot rom).faultHere = some ⟨"illegal opcode D3", some 0x100⟩ :=
    PatternCore.faultHere_boot_undefined
  have worded : (PatternCore.boot rom).faultText = "core fault at PC=0100: illegal opcode D3" := by
    have undefined : (PatternCore.boot rom).faultHere.isSome := by rw [here]; rfl
    have text := PatternCore.text_faultHere undefined
    rw [here] at text
    exact (Option.some.inj text).symm.trans (by decide)
  have printed := (step_prints_core large "rom.gb" false 3).1 (by decide)
  rw [PatternCore.advances_of_halted here, min_eq_right (by simp), ENat.toNat_zero,
    if_pos (by decide), PatternCore.attempted, worded] at printed
  exact ⟨large, printed⟩

/-- Asked for no step at all, it prints another program counter than that of the
core. -/
theorem step_zero_misses_core :
    let rom : Bytes := Array.replicate 0x150 0
    let output := ((Invocation.mk "rom.gb" false (.step 0)).execute (.ok rom)).output
    output = zeroStepText ∧ output ≠ stepText "0" (.boot rom) none := by
  intro rom output
  have large : PatternCore.minimumRom ≤ rom.size := by simp [rom, PatternCore.minimumRom]
  have printed : output = _ := output_step_zero large "rom.gb" false
  refine ⟨printed, ?_⟩
  rw [printed]
  show zeroStepText ≠ stepText "0" (.boot (Array.replicate 0x150 0)) none
  decide +kernel

end CommandLine

end HandheldHost
