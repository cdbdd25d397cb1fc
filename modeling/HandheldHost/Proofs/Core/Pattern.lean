import HandheldHost.Core.Pattern
import HandheldHost.Proofs.Checkerboard
import Mathlib.Data.List.Induction

/-!
# How the pattern core advances

Executing instructions moves the registers and nothing else; only a frame
that is complete goes on to count itself and to redraw the picture.  So a
fault, in whatever instruction of a frame it comes, finds everything but the
registers as it was, and the program counter it names is the one it leaves.

* `Core.movedBy_induction` -- what holds of a core after any moves.
* `PatternCore.value_advance` -- what an advance does.
* `PatternCore.advance_cases` -- the two ways that it can end.
* `PatternCore.advance_of_fault` -- a faulting advance.
* `PatternCore.movedBy_of_halted` -- a core that has met an undefined opcode
  is stuck there.
* `PatternCore.Whole.picture_redraw` -- what a redrawn picture is.
-/

namespace HandheldHost

/-! ## What a host does to a core -/

namespace Core

/-- Something that a host does to a core. -/
inductive Move where
  /-- A button is pressed or released. -/
  | write (write : ButtonWrite)
  /-- The core advances, whether it faults or not. -/
  | advance (stride : Stride)

variable {γ : Type} [Core γ]

/-- The core after a move. -/
def moved (core : γ) : Move → γ
  | .write write => setButton write core
  | .advance stride => (advance stride core).value.2

/-- The core after a list of moves. -/
def movedBy (core : γ) (moves : List Move) : γ := moves.foldl moved core

theorem movedBy_append_singleton (core : γ) (moves : List Move) (move : Move) :
    movedBy core (moves ++ [move]) = moved (movedBy core moves) move := by
  rw [movedBy, List.foldl_append]
  rfl

/-- What holds of a core, and is kept by writes and by advances, holds after any moves. -/
theorem movedBy_induction {P : γ → Prop} {core : γ} (start : P core)
    (write : ∀ write core, P core → P (setButton write core))
    (advance : ∀ stride core, P core → P (advance stride core).value.2) (moves : List Move) :
    P (movedBy core moves) := by
  induction moves using List.reverseRecOn with
  | nil => exact start
  | append_singleton moves move ih =>
    rw [movedBy_append_singleton]
    cases move with
    | write w => exact write w _ ih
    | advance stride => exact advance stride _ ih

end Core

namespace PatternCore

/-! ## Instructions -/

theorem faultHere_eq_some_iff (core : PatternCore) (fault : Fault) :
    core.faultHere = some fault ↔
      core.fetch core.registers.pc ∈ undefinedOpcodes ∧
        fault = ⟨"illegal opcode " ++ Text.Hex.byte (core.fetch core.registers.pc),
          some core.registers.pc⟩ := by
  unfold faultHere
  by_cases undefined : core.fetch core.registers.pc ∈ undefinedOpcodes
  · simp only [undefined, if_pos, true_and, Option.some.injEq]
    exact eq_comm
  · simp [undefined]

/-- The first opcode is the one at 0x0100. -/
theorem faultHere_boot (rom : Bytes) :
    (boot rom).faultHere =
      if rom.getD 0x100 0 ∈ undefinedOpcodes then
        some ⟨"illegal opcode " ++ Text.Hex.byte (rom.getD 0x100 0), some 0x100⟩
      else none := rfl

/-- A cartridge of undefined opcodes faults at its entry point. -/
theorem faultHere_boot_undefined :
    (boot (Array.replicate 0x150 0xD3)).faultHere =
      some ⟨"illegal opcode D3", some 0x100⟩ := by
  have opcode : (Array.replicate 0x150 0xD3 : Bytes).getD 0x100 0 = 0xD3 := by simp
  rw [faultHere_boot, opcode]
  decide

theorem value_step (core : PatternCore) :
    core.step.value =
      match core.faultHere with
      | some fault => (some fault, core)
      | none => (none, { core with registers := core.execute }) := by
  unfold step
  cases core.faultHere <;> rfl

theorem value_steps_succ (core : PatternCore) (n : Nat) :
    (core.steps (n + 1)).value =
      match core.faultHere with
      | some fault => (some fault, core)
      | none => (steps n { core with registers := core.execute }).value := by
  rw [steps, Logged.value_bind, value_step]
  cases core.faultHere <;> rfl

/-- Executing instructions moves the registers and nothing else. -/
theorem exists_registers_steps (core : PatternCore) (n : Nat) :
    ∃ registers, (core.steps n).value.2 = { core with registers } := by
  induction n generalizing core with
  | zero => exact ⟨core.registers, rfl⟩
  | succ n ih =>
    rw [value_steps_succ]
    cases core.faultHere with
    | some fault => exact ⟨core.registers, rfl⟩
    | none =>
      obtain ⟨registers, left⟩ := ih { core with registers := core.execute }
      exact ⟨registers, left⟩

/-- A fault that ends a run of instructions is the one at the program counter
that the run has come to. -/
theorem faultHere_steps {core : PatternCore} {n : Nat} {fault : Fault}
    (h : (core.steps n).value.1 = some fault) :
    (core.steps n).value.2.faultHere = some fault := by
  induction n generalizing core with
  | zero => exact absurd h (by simp [steps])
  | succ n ih =>
    rw [value_steps_succ] at h ⊢
    cases here : core.faultHere with
    | some first =>
      rw [here] at h
      exact here.trans h
    | none =>
      rw [here] at h
      exact ih h

/-! ## Advances -/

/-- The instructions that a stride asks for. -/
def instructions : Stride → Nat
  | .frame => instructionsPerFrame
  | .instruction => 1

/-- What is left to do for a stride once its instructions are executed. -/
def finish : Stride → PatternCore → PatternCore
  | .frame, core => redraw { core with frames := core.frames + 1 }
  | .instruction, core => core

/-- **What an advance does**: it executes the instructions of its stride, and
if none of them faults it finishes the stride. -/
theorem value_advance (stride : Stride) (core : PatternCore) :
    (Core.advance stride core).value =
      ((core.steps (instructions stride)).value.1,
        match (core.steps (instructions stride)).value.1 with
        | some _ => (core.steps (instructions stride)).value.2
        | none => finish stride (core.steps (instructions stride)).value.2) := by
  cases stride with
  | frame =>
    show core.stepFrame.value = _
    rw [stepFrame, Logged.value_bind, instructions]
    rcases (core.steps instructionsPerFrame).value with ⟨_ | fault, left⟩ <;> rfl
  | instruction =>
    -- One step by itself, against a run of one step.
    show core.step.value = _
    rw [value_step, instructions, value_steps_succ]
    cases core.faultHere <;> rfl

/-- What an advance can do to a core: a frame that is completed counts itself and draws;
any other advance moves the registers and nothing else. -/
theorem advance_cases (stride : Stride) (core : PatternCore) :
    ((stride = .instruction ∨ (Core.advance stride core).value.1.isSome) ∧
      ∃ registers, (Core.advance stride core).value.2 = { core with registers }) ∨
    (stride = .frame ∧ (Core.advance stride core).value.1 = none ∧
      ∃ registers, (Core.advance stride core).value.2 =
        redraw { core with registers, frames := core.frames + 1 }) := by
  obtain ⟨registers, left⟩ := core.exists_registers_steps (instructions stride)
  rw [value_advance, left]
  cases (core.steps (instructions stride)).value.1 with
  | some fault => exact .inl ⟨.inr rfl, registers, rfl⟩
  | none =>
    cases stride with
    | instruction => exact .inl ⟨.inl rfl, registers, rfl⟩
    | frame => exact .inr ⟨rfl, rfl, registers, rfl⟩

/-- What holds of a core whatever its registers, and is kept when a frame is
finished, is kept by an advance. -/
theorem advance_induction {P : PatternCore → Prop} (stride : Stride) {core : PatternCore}
    (registers : ∀ registers, P { core with registers })
    (finish : ∀ core, P core → P (redraw { core with frames := core.frames + 1 })) :
    P (Core.advance stride core).value.2 := by
  rcases advance_cases stride core with ⟨-, moved, left⟩ | ⟨-, -, moved, left⟩
  · rw [left]
    exact registers moved
  · rw [left]
    exact finish _ (registers moved)

/-- A core keeps its cartridge. -/
theorem rom_movedBy (rom : Bytes) (moves : List Core.Move) :
    (Core.movedBy (boot rom) moves).rom = rom := by
  refine Core.movedBy_induction (P := fun core : PatternCore => core.rom = rom) rfl
    (fun _ _ same => same) ?_ moves
  intro stride core same
  exact advance_induction (P := fun left => left.rom = rom) stride (fun _ => same) fun _ h => h

/-- A faulting advance has moved the registers to an undefined opcode, which
is the fault, and has left everything else alone. -/
theorem advance_of_fault {stride : Stride} {core : PatternCore} {fault : Fault}
    (h : (Core.advance stride core).value.1 = some fault) :
    ∃ registers, (Core.advance stride core).value.2 = { core with registers } ∧
      faultHere { core with registers } = some fault := by
  rw [value_advance] at h ⊢
  have here := faultHere_steps h
  obtain ⟨registers, left⟩ := core.exists_registers_steps (instructions stride)
  simp only [left] at h here ⊢
  exact ⟨registers, by rw [h], here⟩

/-! ## Halted cores -/

/-- A core at an undefined opcode gives its fault to every advance, and stays
as it is. -/
theorem value_advance_of_halted {core : PatternCore} {fault : Fault}
    (halted : core.faultHere = some fault) (stride : Stride) :
    (Core.advance stride core).value = (some fault, core) := by
  have stuck : (core.steps (instructions stride)).value = (some fault, core) := by
    cases stride <;> exact (value_steps_succ core _).trans (by rw [halted])
  rw [value_advance, stuck]

/-- Buttons do not help: a halted core is halted for ever, and its buttons
are all that moves. -/
theorem movedBy_of_halted {core : PatternCore} {fault : Fault}
    (halted : core.faultHere = some fault) (moves : List Core.Move) :
    ∃ held, Core.movedBy core moves = { core with held } := by
  induction moves using List.reverseRecOn with
  | nil => exact ⟨core.held, rfl⟩
  | append_singleton moves move ih =>
    -- Which buttons are held is left open: writes move them, and no fault depends on them.
    obtain ⟨held, sofar⟩ := ih
    rw [Core.movedBy_append_singleton, sofar]
    cases move with
    | write write => exact ⟨_, rfl⟩
    | advance stride =>
      have still : faultHere { core with held } = some fault := halted
      exact ⟨held, congrArg Prod.snd (value_advance_of_halted still stride)⟩

/-! ## The picture -/

/-- Drawing over a buffer keeps its size. -/
theorem size_drawn (buffer : Bytes) (width height : UInt16) (phase : UInt32) :
    ((Checkerboard.write? buffer width height phase).getD buffer).size = buffer.size := by
  rw [Checkerboard.write?]
  by_cases short : buffer.size < width.toNat * height.toNat * 4
  · rw [if_pos short, Option.getD_none]
  · rw [if_neg short, Option.getD_some, Array.size_append, Array.size_extract,
      Checkerboard.size_picture]
    omega

/-- The picture is as large as the display asks for. -/
def Whole (core : PatternCore) : Prop := core.picture.size = Geometry.standard.frameSize

theorem Whole.redraw {core : PatternCore} (h : core.Whole) : core.redraw.Whole :=
  (size_drawn _ _ _ _).trans h

theorem whole_boot (rom : Bytes) : (boot rom).Whole :=
  Whole.redraw Array.size_replicate

theorem Whole.advance {core : PatternCore} (h : core.Whole) (stride : Stride) :
    (Core.advance stride core : Logged _).value.2.Whole :=
  advance_induction stride (fun _ => h) fun _ h => Whole.redraw h

/-- So is that of a core in any state that it can come to. -/
theorem whole_movedBy (rom : Bytes) (moves : List Core.Move) :
    (Core.movedBy (boot rom) moves).Whole :=
  Core.movedBy_induction (whole_boot rom) (fun _ _ h => h) (fun stride _ h => h.advance stride)
    moves

/-- Redrawing a whole picture leaves nothing of the old one. -/
theorem Whole.picture_redraw {core : PatternCore} (h : core.Whole) :
    core.redraw.picture = Checkerboard.picture 160 144 core.phase.toNat := by
  have size : core.picture.size = (160 : UInt16).toNat * (144 : UInt16).toNat * 4 := h
  have nothing_left : core.picture.extract ((160 : UInt16).toNat * (144 : UInt16).toNat * 4)
      core.picture.size = #[] := Array.extract_empty_of_stop_le_start (Nat.le_of_eq size)
  show (Checkerboard.write? core.picture 160 144 core.phase).getD core.picture = _
  rw [Checkerboard.write?, if_neg (Nat.not_lt.mpr (Nat.le_of_eq size.symm)), Option.getD_some,
    nothing_left, Array.append_empty]
  rfl

/-- A whole picture is a frame. -/
theorem Whole.frame {core : PatternCore} (h : core.Whole) :
    ∃ frame, Core.frame core = .ok frame := by
  exact ⟨_, Frame.ofBytes_eq_ok (by decide) (by decide) h⟩

/-- Only an image that is large enough gives a core, and the core is the one
at its entry point. -/
theorem load_eq_ok_iff (rom : Bytes) (core : PatternCore) :
    (load rom).value = .ok core ↔ minimumRom ≤ rom.size ∧ core = boot rom := by
  unfold load
  by_cases empty : rom.size = 0
  · simp [empty, minimumRom]
  · by_cases small : rom.size < minimumRom
    · simp [empty, small, Nat.not_le.mpr small]
    · simp [empty, small, Nat.le_of_not_lt small, eq_comm]

theorem load_of_large {rom : Bytes} (large : minimumRom ≤ rom.size) :
    load rom = ⟨.ok (boot rom), [.patternLoaded rom.size]⟩ := by
  have positive : 0 < minimumRom := by decide
  rw [load, if_neg (by omega), if_neg (by omega)]
  rfl

theorem load_of_small {rom : Bytes} (small : rom.size < minimumRom) :
    ∃ reason, load rom = pure (.error reason) := by
  rw [load, if_pos small]
  split
  · exact ⟨_, rfl⟩
  · exact ⟨_, rfl⟩

end PatternCore

end HandheldHost
