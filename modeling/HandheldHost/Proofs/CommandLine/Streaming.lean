import HandheldHost.Proofs.CommandLine.Stepping
import HandheldHost.Proofs.Inspection.Line

/-!
# What `run` prints

`run` ticks so many times; with the option for it, every tick prints a line of
JSON, and there is a summary at the end.  The lines are the debug view after
each tick.  A run that is not paused attempts a frame on every tick until one
faults, and is paused from there on.

* `CommandLine.runScene` -- the scene after so many ticks of a run.
* `CommandLine.value_tickAll` -- the lines of a list of ticks.
* `CommandLine.run_streams_history` -- what is printed.
-/

namespace HandheldHost.CommandLine

/-- The scene after `i` ticks of a run, `K` being the number of the first attempt
to advance by a frame that faults, or infinite. -/
noncomputable def runScene (paused : Bool) (boot : PatternCore) (i : Nat) : Scene :=
  let K : ℕ∞ := boot.advances .frame + 1
  if paused then { core := boot, mode := .paused, counters := { ticks := .ofNat i } }
  else
    { core := boot.attempted .frame (min (i : ℕ∞) K).toNat
      mode := if (i : ℕ∞) < K then .running else .paused
      counters :=
        { ticks := .ofNat i
          frames := .ofNat (min (i : ℕ∞) (K - 1)).toNat
          faults := .ofNat (if (i : ℕ∞) < K then 0 else 1) }
      fault := if (i : ℕ∞) < K then none else boot.firstFault .frame }

theorem runScene_of_paused (boot : PatternCore) (i : Nat) :
    runScene true boot i = .attempted .frame boot 0 .paused i := by
  have none_yet : boot.completed .frame 0 = 0 := PatternCore.completed_of_le (by simp)
  rw [Scene.attempted, none_yet]
  rfl

theorem runScene_of_running (boot : PatternCore) (i : Nat) :
    runScene false boot i =
      .attempted .frame boot i (if (boot.met .frame i).isSome then .paused else .running) i := by
  have less : boot.advances .frame + 1 - 1 = boot.advances .frame :=
    (ENat.addLECancellable_of_ne_top ENat.one_ne_top).add_tsub_cancel_right
  have early : boot.met .frame i = none ↔ _ := PatternCore.met_eq_none_iff_lt i
  simp only [runScene, Scene.attempted, ← early, PatternCore.attempted_min, less,
    PatternCore.completed]
  cases met : boot.met .frame i with
  | none => simp
  | some fault => simp [PatternCore.firstFault_of_met met]

theorem runScene_zero (paused : Bool) (boot : PatternCore) :
    runScene paused boot 0 = ⟨boot, if paused then .paused else .running, {}, none⟩ := by
  cases paused with
  | true => exact (runScene_of_paused boot 0).trans (Scene.attempted_zero .paused)
  | false => exact (runScene_of_running boot 0).trans (Scene.attempted_zero .running)

theorem next_runScene (paused : Bool) (boot : PatternCore) (i : Nat) :
    (runScene paused boot i).next = runScene paused boot (i + 1) := by
  cases paused with
  | true =>
    rw [runScene_of_paused, runScene_of_paused, Scene.next_attempted_of_paused]
  | false =>
    rw [runScene_of_running, runScene_of_running]
    cases met : boot.met .frame i with
    | none => exact Scene.next_attempted rfl met i
    | some fault =>
      have again := (PatternCore.stuck_of_met met 1).1
      rw [again, Scene.attempted_add_of_met met]
      exact Scene.next_attempted_of_paused i i

/-- Pressing buttons does not show. -/
theorem plays_pressAll {player : HostPlayer} {s : Scene} (plays : player.Plays s)
    (buttons : List Button) : (pressAll player buttons).value.Plays s := by
  induction buttons generalizing player with
  | nil => exact plays
  | cons button buttons ih => exact ih (plays.button button true)

/-- **Ticking**: every tick prints the scene that it makes. -/
theorem value_tickAll (threshold : Level) {scenes : Nat → Scene}
    (goes : ∀ i, (scenes i).next = scenes (i + 1)) {player : HostPlayer} {i : Nat}
    (plays : player.Plays (scenes i)) (clock : Clock) (n : Nat) :
    let left := (tickAll threshold (fun p => p.deck.inspection.line) player clock n).value
    left.1 = (List.range' (i + 1) n).map (fun j => (scenes j).view.line) ∧
      left.2.Plays (scenes (i + n)) := by
  induction n generalizing i player clock with
  | zero => exact ⟨rfl, plays⟩
  | succ n ih =>
    have next := plays.next clock.take.1
    rw [goes] at next
    obtain ⟨lines, left⟩ := ih next clock.take.2
    have one_more : (tickAll threshold (fun p => p.deck.inspection.line) player clock (n + 1)).value =
        ((player.next clock.take.1).deck.inspection.line ::
            (tickAll threshold (fun p => p.deck.inspection.line) (player.next clock.take.1)
              clock.take.2 n).value.1,
          (tickAll threshold (fun p => p.deck.inspection.line) (player.next clock.take.1)
            clock.take.2 n).value.2) := by
      simp only [tickAll, Logged.value_bind, Logged.value_keep, Logged.value_pure, Player.value_tick]
    have sum : i + (n + 1) = i + 1 + n := by omega
    rw [one_more, lines, next.view_eq, List.range'_succ, sum]
    exact ⟨rfl, left⟩

/-- The lines of the summary: one for the counters and the mode, and one for the last
fault if there was one. -/
def summaryLines (s : Scene) : List String :=
  ("ticks=" ++ toString s.counters.ticks.val ++ " frames=" ++ toString s.counters.frames.val ++
    " instructions=" ++ toString s.counters.instructions.val ++ " mode=" ++ s.mode.label) ::
    (s.fault.map Fault.text).toList

theorem summary_of_plays {player : HostPlayer} {s : Scene} (plays : player.Plays s) :
    summary player.deck = Text.ofLines (summaryLines s) := by
  delta summary
  rw [plays.mode_eq, plays.counters_eq, plays.fault_eq, summaryLines, Text.ofLines_cons]
  cases s.fault with
  | none => rfl
  | some fault => simp [Text.ofLines]

theorem value_play_run (threshold : Level) (player : HostPlayer) {o : RunOptions}
    (ndjson : o.ndjson = true) :
    ((Command.run o).play threshold player).value.1 =
      let pressed := (pressAll player o.presses).value
      let left := (tickAll threshold (fun p => p.deck.inspection.line) pressed {} o.ticks).value
      String.join left.1 ++ summary left.2.deck ++
        (if o.debug then left.2.deck.inspection.fullPanel else "") := by
  unfold Command.play
  simp only [ndjson, if_true, Logged.value_bind, Logged.value_pure, Player.debugPanel]

theorem label_runScene (paused : Bool) (boot : PatternCore) (i : Nat) :
    (runScene paused boot i).mode.label =
      if paused ∨ boot.advances .frame + 1 ≤ (i : ℕ∞) then "Paused" else "Running" := by
  cases paused with
  | true => rfl
  | false =>
    simp only [runScene, Bool.false_eq_true, if_false, false_or, apply_ite Mode.label, ← not_lt,
      ite_not]
    rfl

/-- **What `run` prints** for a cartridge image that is large enough, if it is to
print lines: one line for each tick, which shows the scene after it, then the
summary of the scene after the last, and the panel if that is asked for.  The
buttons that are pressed have no part in it.

The attempt that faults has the core stop at the undefined opcode that is the
fault.  Counters stop at 2 ^ 64 - 1; a number of ticks that is given on the
command line is below 2 ^ 32. -/
theorem run_streams_history {rom : Bytes} (large : PatternCore.minimumRom ≤ rom.size)
    (path : String) (verbose : Bool) {o : RunOptions} (ndjson : o.ndjson = true) :
    let boot := PatternCore.boot rom
    let scenes := runScene o.paused boot
    let last := scenes o.ticks
    let K : ℕ∞ := boot.advances .frame + 1
    let stopped := boot.attempted .frame K.toNat
    ((Invocation.mk path verbose (.run o)).execute (.ok rom)).output =
        Text.ofLines
          ((List.range' 1 o.ticks).map (fun i => String.ofList (scenes i).view.json) ++
            ["ticks=" ++ toString last.counters.ticks.val ++ " frames=" ++
              toString last.counters.frames.val ++ " instructions=" ++
              toString last.counters.instructions.val ++ " mode=" ++
              (if o.paused ∨ K ≤ o.ticks then "Paused" else "Running")] ++
            (last.fault.map Fault.text).toList ++
            (if o.debug then last.view.panelLines else [])) ∧
      (∀ i, (scenes i).view.line = String.ofList (scenes i).view.json ++ "\n" ∧
        '\n' ∉ (scenes i).view.json ∧
        Inspection.read? (scenes i).view.line = some (scenes i).view) ∧
      (K ≠ ⊤ → stopped.faultHere = boot.firstFault .frame ∧
        (boot.firstFault .frame).map Fault.text = some stopped.faultText) := by
  intro boot scenes last K stopped
  refine ⟨?_, ?_, ?_⟩
  · have opening : scenes 0 = _ := runScene_zero o.paused boot
    have plays : (Player.start boot {} default (Command.run o).config : HostPlayer).Plays
        (scenes 0) :=
      opening ▸ Player.plays_start rom {} default (by simp [Command.config, ndjson]) rfl
    obtain ⟨lines, left⟩ := value_tickAll (if verbose then .debug else .warn)
      (next_runScene o.paused boot) (plays_pressAll plays o.presses) {} o.ticks
    rw [Nat.zero_add] at left
    have joined : String.join ((List.range' 1 o.ticks).map fun i => (scenes i).view.line) =
        Text.ofLines ((List.range' 1 o.ticks).map fun i => String.ofList (scenes i).view.json) := by
      simp only [Text.ofLines, List.map_map, Function.comp_def, Inspection.line_eq]
    have panel : (if o.debug then last.view.fullPanel else "") =
        Text.ofLines (if o.debug then last.view.panelLines else []) := by
      rw [Inspection.fullPanel_eq, apply_ite Text.ofLines, Text.ofLines_nil]
    rw [output_execute large, value_play_run _ _ ndjson]
    dsimp only
    rw [lines, left.view_eq, summary_of_plays left, joined, panel, ← Text.ofLines_append,
      ← Text.ofLines_append, summaryLines, label_runScene, ← List.singleton_append,
      ← List.append_assoc]
  · intro i
    exact ⟨Inspection.line_eq _, Inspection.newline_not_mem_json _, Inspection.read?_line _⟩
  · intro finite
    have some_fault : boot.advances .frame ≠ ⊤ := by
      intro infinite
      refine finite ?_
      show boot.advances .frame + 1 = ⊤
      rw [infinite, top_add]
    obtain ⟨fault, first, here⟩ := PatternCore.exists_firstFault some_fault
    have same : stopped.faultHere = boot.firstFault .frame := here.trans first.symm
    refine ⟨same, ?_⟩
    rw [← same]
    exact PatternCore.text_faultHere (by rw [same, first]; rfl)

/-- A cartridge with an undefined opcode at its entry point stays there, and every
line of its run shows that. -/
theorem runScene_of_halted {boot : PatternCore} {fault : Fault}
    (halted : boot.faultHere = some fault) (i : Nat) :
    runScene false boot (i + 1) =
      { core := boot
        mode := .paused
        counters := { ticks := .ofNat (i + 1), faults := .ofNat 1 }
        fault := some fault } := by
  have met := (PatternCore.stuck_of_halted .frame halted i).2.1
  obtain ⟨still, -, nothing⟩ := PatternCore.stuck_of_halted .frame halted (i + 1)
  rw [runScene_of_running, Scene.attempted, met, still, nothing]
  rfl

theorem view_runScene_of_halted {boot : PatternCore} {fault : Fault}
    (halted : boot.faultHere = some fault) (i : Nat) :
    (runScene false boot (i + 1)).view =
      { registers := boot.registers
        window := ⟨boot.registers.pc, boot.window 48⟩
        counters := { ticks := .ofNat (i + 1), faults := .ofNat 1 }
        fault := some fault.text } := by
  rw [runScene_of_halted halted, Scene.view, if_neg (Counter.ofNat_ne_zero i.succ_pos)]
  rfl

/-- A cartridge with an undefined opcode at its entry point faults on the first
tick. -/
theorem run_streams_history_at_undefined_opcode :
    let rom : Bytes := Array.replicate 0x150 0xD3
    let o : RunOptions := { ticks := 2, ndjson := true, presses := [.start] }
    let view (i : Nat) : Inspection :=
      { registers := PatternCore.bootRegisters
        window := ⟨0x100, (PatternCore.boot rom).window 48⟩
        counters := { ticks := .ofNat i, faults := .ofNat 1 }
        fault := some "core fault at PC=0100: illegal opcode D3" }
    PatternCore.minimumRom ≤ rom.size ∧ o.ndjson = true ∧
      ((Invocation.mk "rom.gb" false (.run o)).execute (.ok rom)).output =
        Text.ofLines
          [String.ofList (view 1).json, String.ofList (view 2).json,
            "ticks=2 frames=0 instructions=0 mode=Paused",
            "core fault at PC=0100: illegal opcode D3"] := by
  intro rom o view
  have large : PatternCore.minimumRom ≤ rom.size := by simp [rom, PatternCore.minimumRom]
  have here : (PatternCore.boot rom).faultHere = some ⟨"illegal opcode D3", some 0x100⟩ :=
    PatternCore.faultHere_boot_undefined
  have worded : Fault.text ⟨"illegal opcode D3", some 0x100⟩ =
      "core fault at PC=0100: illegal opcode D3" := by
    decide
  have shown (i : Nat) : (runScene false (.boot rom) (i + 1)).view = view (i + 1) := by
    rw [view_runScene_of_halted here i, worded]
    rfl
  have lines : (List.range' 1 o.ticks).map
        (fun i => String.ofList (runScene o.paused (.boot rom) i).view.json) =
      [String.ofList (view 1).json, String.ofList (view 2).json] := by
    rw [← shown 0, ← shown 1]
    rfl
  have last : runScene o.paused (.boot rom) o.ticks = _ := runScene_of_halted here 1
  have early : PatternCore.advances .frame (.boot rom) + 1 ≤ ((2 : ℕ) : ℕ∞) := by
    rw [PatternCore.advances_of_halted here]
    decide
  have heading : "ticks=" ++ toString (Counter.ofNat 2).val ++ " frames=" ++
      toString Counter.zero.val ++ " instructions=" ++ toString Counter.zero.val ++ " mode=" ++
        "Paused" = "ticks=2 frames=0 instructions=0 mode=Paused" := by
    have counted : (Counter.ofNat 2).val = 2 := Counter.val_ofNat (by decide)
    rw [counted]
    decide
  have printed := (run_streams_history large "rom.gb" false (o := o) rfl).1
  rw [lines, last, if_pos (Or.inr early), Option.map_some, worded, heading] at printed
  exact ⟨large, rfl, printed⟩

end HandheldHost.CommandLine
