import HandheldHost.Proofs.Core.Attempts
import HandheldHost.Proofs.Core.Latch
import Mathlib.Data.List.Infix

/-!
# What the pattern core has drawn

The picture is drawn when a core is made and when a frame is completed, and at no other
time.  Its phase is the frame count plus eight for the first button if it is held, sixteen
for the second, and so on; but sixteen is a period of the checkerboard, so four of the
buttons do not show, and the other four show by whether an odd number of them is held.

* `Core.lastFrame` -- the moves up to the last completed frame.
* `PatternCore.phase_mod` -- what is left of the phase.
* `PatternCore.drawn_movedBy` -- the frame count and the picture after any moves.
* `PatternCore.Lookalike` -- cores that differ in buttons that do not show.
* `PatternCore.picture_of_frames_and_parity` -- every pixel, and what it depends on.
-/

namespace HandheldHost

/-! ## The frames of a history -/

namespace Core

variable {γ : Type} [Core γ]

/-- Whether moves end with a frame that is completed. -/
def endsFrame (core : γ) (moves : List Move) : Bool :=
  match moves.getLast? with
  | some (.advance .frame) => (advance .frame (movedBy core moves.dropLast)).value.1.isNone
  | _ => false

/-- For every frame that is completed, the moves up to it. -/
def completedFrames (core : γ) (moves : List Move) : List (List Move) :=
  moves.inits.filter (endsFrame core)

/-- The moves up to the last frame that was completed, and none if there was none. -/
def lastFrame (core : γ) (moves : List Move) : List Move :=
  (completedFrames core moves).getLast?.getD []

theorem endsFrame_write (core : γ) (moves : List Move) (write : ButtonWrite) :
    endsFrame core (moves ++ [.write write]) = false := by
  simp [endsFrame]

theorem endsFrame_instruction (core : γ) (moves : List Move) :
    endsFrame core (moves ++ [.advance .instruction]) = false := by
  simp [endsFrame]

theorem endsFrame_frame (core : γ) (moves : List Move) :
    endsFrame core (moves ++ [.advance .frame]) =
      (advance .frame (movedBy core moves)).value.1.isNone := by
  simp [endsFrame]

theorem completedFrames_append_singleton (core : γ) (moves : List Move) (move : Move) :
    completedFrames core (moves ++ [move]) =
      completedFrames core moves ++
        if endsFrame core (moves ++ [move]) then [moves ++ [move]] else [] := by
  simp [completedFrames, List.inits_append, List.filter_cons]

theorem lastFrame_of_ends {core : γ} {moves : List Move} {move : Move}
    (ends : endsFrame core (moves ++ [move]) = true) :
    lastFrame core (moves ++ [move]) = moves ++ [move] := by
  simp [lastFrame, completedFrames_append_singleton, ends]

theorem completedFrames_of_not_ends {core : γ} {moves : List Move} {move : Move}
    (ends : endsFrame core (moves ++ [move]) = false) :
    completedFrames core (moves ++ [move]) = completedFrames core moves := by
  simp [completedFrames_append_singleton, ends]

end Core

namespace PatternCore

/-! ## The phase -/

/-- The buttons that show. -/
def shifting : List Button := [.up, .left, .a, .start]

/-- A button adds an odd number of tiles to the phase if it shows, and an even number if it
does not. -/
theorem foldl_phase_mod (buttons : List Button) (phase : Nat) :
    (buttons.foldl (fun phase button => phase + 8 * (button.index + 1)) phase) % 16 =
      (phase + 8 * buttons.countP (· ∈ shifting)) % 16 := by
  induction buttons generalizing phase with
  | nil => rfl
  | cons button buttons ih =>
    have tiles : 8 * (button.index + 1) % 16 = 8 * (if button ∈ shifting then 1 else 0) := by
      cases button <;> rfl
    rw [List.foldl_cons, ih, List.countP_cons]
    simp only [decide_eq_true_eq]
    omega

theorem heldPhase_mod (held : Vector Bool 8) :
    heldPhase held % 16 = 8 * shifting.countP (fun button => held.get button.slot) % 16 := by
  have showing : shifting = Button.all.filter (· ∈ shifting) := by decide
  rw [heldPhase, foldl_phase_mod, Nat.zero_add, List.countP_filter]
  conv_rhs => rw [showing, List.countP_filter]
  simp only [Bool.and_comm]

/-- What is left of the phase is the frame count and the parity of the buttons that show. -/
theorem phase_mod (core : PatternCore) :
    core.phase.toNat % 16 = (core.frames.toNat + 8 * shifting.countP core.isHeld) % 16 := by
  have shown : heldPhase core.held % 16 = 8 * shifting.countP core.isHeld % 16 :=
    heldPhase_mod core.held
  rw [phase, UInt32.toNat_add, UInt64.toNat_toUInt32, UInt32.toNat_ofNat']
  omega

/-! ## Advances -/

/-- Without undefined opcodes instructions never fault. -/
theorem value_steps_of_defined {core : PatternCore}
    (defined : ∀ address, core.fetch address ∉ undefinedOpcodes) (n : Nat) :
    (core.steps n).value.1 = none := by
  induction n generalizing core with
  | zero => rfl
  | succ n ih =>
    have here : core.faultHere = none := if_neg (defined core.registers.pc)
    have later (address : UInt16) :
        fetch { core with registers := core.execute } address ∉ undefinedOpcodes :=
      defined address
    rw [value_steps_succ, here]
    exact ih later

/-- A cartridge without undefined opcodes completes every frame. -/
theorem endsFrame_of_defined {rom : Bytes}
    (defined : ∀ address : Nat, rom.getD address 0 ∉ undefinedOpcodes) (moves : List Core.Move) :
    Core.endsFrame (boot rom) (moves ++ [.advance .frame]) = true := by
  have fetched (address : UInt16) :
      (Core.movedBy (boot rom) moves).fetch address ∉ undefinedOpcodes := by
    rw [fetch, rom_movedBy]
    exact defined address.toNat
  rw [Core.endsFrame_frame, value_advance, value_steps_of_defined fetched]
  rfl

/-- The picture is that for the frame count and for these buttons, which are not
necessarily those that are held. -/
def Drawn (core : PatternCore) (held : Vector Bool 8) : Prop :=
  core.picture = Checkerboard.picture 160 144 (phase { core with held }).toNat

theorem Whole.drawn_redraw {core : PatternCore} (h : core.Whole) : core.redraw.Drawn core.held :=
  h.picture_redraw

theorem drawn_boot (rom : Bytes) : (boot rom).Drawn (boot rom).held := by
  have blank : Whole ⟨rom, bootRegisters, Vector.replicate 8 false,
      Array.replicate Geometry.standard.frameSize 0, 0⟩ := Array.size_replicate
  exact blank.drawn_redraw

/-- What a move can do to a frame count and to a picture: it completes a frame, or leaves
both alone. -/
theorem moved_cases (rom : Bytes) (moves : List Core.Move) (move : Core.Move) :
    let core := Core.movedBy (boot rom) moves
    (Core.endsFrame (boot rom) (moves ++ [move]) = false ∧
      (Core.moved core move).frames = core.frames ∧
        (Core.moved core move).picture = core.picture) ∨
    (Core.endsFrame (boot rom) (moves ++ [move]) = true ∧
      ∃ registers, Core.moved core move =
        redraw { core with registers, frames := core.frames + 1 }) := by
  intro core
  cases move with
  | write w => exact .inl ⟨Core.endsFrame_write _ _ w, rfl, rfl⟩
  | advance stride =>
    have moved_eq : Core.moved core (.advance stride) = (Core.advance stride core).value.2 := rfl
    rw [moved_eq]
    rcases advance_cases stride core with
      ⟨unfinished, registers, left⟩ | ⟨rfl, completed, registers, left⟩
    · refine .inl ⟨?_, by rw [left], by rw [left]⟩
      cases stride with
      | instruction => exact Core.endsFrame_instruction _ _
      | frame =>
        rw [Core.endsFrame_frame, Option.isNone_eq_false_iff]
        exact unfinished.resolve_left nofun
    · refine .inr ⟨?_, registers, left⟩
      rw [Core.endsFrame_frame, Option.isNone_iff_eq_none]
      exact completed

/-- The frame count and the picture go by the frames that were completed, and by the
buttons that were held when the last of them was. -/
theorem drawn_movedBy (rom : Bytes) (moves : List Core.Move) :
    (Core.movedBy (boot rom) moves).frames =
        UInt64.ofNat (Core.completedFrames (boot rom) moves).length ∧
      (Core.movedBy (boot rom) moves).Drawn
        (Core.movedBy (boot rom) (Core.lastFrame (boot rom) moves)).held := by
  induction moves using List.reverseRecOn with
  | nil => exact ⟨rfl, drawn_boot rom⟩
  | append_singleton moves move ih =>
    obtain ⟨count, drawn⟩ := ih
    rcases moved_cases rom moves move with ⟨ends, frames, picture⟩ | ⟨ends, registers, left⟩
    · rw [Core.movedBy_append_singleton, Core.lastFrame, Core.completedFrames_of_not_ends ends,
        frames, Drawn, picture, phase, frames]
      exact ⟨count, drawn⟩
    · rw [Core.lastFrame_of_ends ends, Core.completedFrames_append_singleton, if_pos ends,
        List.length_append, List.length_singleton, UInt64.ofNat_add, ← count,
        Core.movedBy_append_singleton, left]
      exact ⟨rfl, Whole.drawn_redraw (whole_movedBy rom moves)⟩

/-- How many of the buttons that show were held when the last frame was completed; none, if
none was. -/
def shiftsDrawn (rom : Bytes) (moves : List Core.Move) : Nat :=
  shifting.countP (ButtonWrite.last (Core.Move.writes (Core.lastFrame (boot rom) moves)))

/-- The picture after any moves. -/
theorem picture_movedBy (rom : Bytes) (moves : List Core.Move) :
    (Core.movedBy (boot rom) moves).picture = Checkerboard.picture 160 144
      ((Core.movedBy (boot rom) moves).frames.toNat + 8 * shiftsDrawn rom moves) := by
  rw [(drawn_movedBy rom moves).2]
  refine Checkerboard.picture_congr ?_ 160 144
  rw [phase_mod, shiftsDrawn, ← isHeld_movedBy rom]
  rfl

/-! ## Buttons that do not show -/

/-- Two cores that are the same but for buttons that do not show. -/
structure Lookalike (core other : PatternCore) : Prop extends Twin core other where
  frames_eq : other.frames = core.frames
  picture_eq : other.picture = core.picture
  held_eq : ∀ button ∈ shifting, other.isHeld button = core.isHeld button

namespace Lookalike

variable {core other : PatternCore}

theorem refl (core : PatternCore) : Lookalike core core :=
  ⟨.refl core, rfl, rfl, fun _ _ => rfl⟩

theorem isHeld_setButton (core : PatternCore) (w : ButtonWrite) (button : Button) :
    (core.setButton w).isHeld button =
      if button = w.button then w.pressed else core.isHeld button :=
  flags.flags_setButton rfl w core button

theorem setButton (h : Lookalike core other) (w : ButtonWrite) :
    Lookalike (core.setButton w) (other.setButton w) := by
  refine ⟨⟨h.rom_eq, h.registers_eq⟩, h.frames_eq, h.picture_eq, fun button shows => ?_⟩
  rw [isHeld_setButton, isHeld_setButton, h.held_eq button shows]

/-- A write to a button that does not show may be left out. -/
theorem hidden (h : Lookalike core other) {w : ButtonWrite} (hides : w.button ∉ shifting) :
    Lookalike (core.setButton w) other := by
  refine ⟨⟨h.rom_eq, h.registers_eq⟩, h.frames_eq, h.picture_eq, fun button shows => ?_⟩
  have apart : button ≠ w.button := fun same => hides (same ▸ shows)
  rw [isHeld_setButton, if_neg apart, h.held_eq button shows]

/-- Frames that are completed by cores that look alike look alike. -/
theorem redraw (h : Lookalike core other) (whole : core.Whole) :
    Lookalike core.redraw other.redraw := by
  have other_whole : other.Whole := (congrArg Array.size h.picture_eq).trans whole
  have held : shifting.countP other.isHeld = shifting.countP core.isHeld :=
    List.countP_congr fun button shows => by rw [h.held_eq button shows]
  refine ⟨⟨h.rom_eq, h.registers_eq⟩, h.frames_eq, ?_, h.held_eq⟩
  rw [other_whole.picture_redraw, whole.picture_redraw]
  refine Checkerboard.picture_congr ?_ 160 144
  rw [phase_mod, phase_mod, held, h.frames_eq]

theorem steps (h : Lookalike core other) (n : Nat) :
    Lookalike (core.steps n).value.2 (other.steps n).value.2 := by
  have twin := (h.toTwin.steps n).2
  obtain ⟨registers, left⟩ := core.exists_registers_steps n
  obtain ⟨other_registers, other_left⟩ := other.exists_registers_steps n
  rw [left, other_left] at twin ⊢
  exact ⟨twin, h.frames_eq, h.picture_eq, h.held_eq⟩

theorem finish (h : Lookalike core other) (whole : core.Whole) (stride : Stride) :
    Lookalike (PatternCore.finish stride core) (PatternCore.finish stride other) := by
  cases stride with
  | instruction => exact h
  | frame =>
    have counted : Lookalike { core with frames := core.frames + 1 }
        { other with frames := other.frames + 1 } :=
      ⟨⟨h.rom_eq, h.registers_eq⟩, congrArg (· + 1) h.frames_eq, h.picture_eq, h.held_eq⟩
    exact counted.redraw whole

theorem advance (h : Lookalike core other) (whole : core.Whole) (stride : Stride) :
    Lookalike (Core.advance stride core).value.2 (Core.advance stride other).value.2 := by
  have executed := h.steps (instructions stride)
  obtain ⟨registers, left⟩ := core.exists_registers_steps (instructions stride)
  have still_whole : (core.steps (instructions stride)).value.2.Whole := by
    rw [left]
    exact whole
  rw [value_advance, value_advance, (h.toTwin.steps (instructions stride)).1]
  cases (core.steps (instructions stride)).value.1 with
  | some fault => exact executed
  | none => exact executed.finish still_whole stride

end Lookalike

/-- Whether a move may show: a write does unless it is to one of the four buttons that
stand for an even number of tiles. -/
def showsMove : Core.Move → Bool
  | .write w => w.button ∉ [.down, .right, .b, .select]
  | .advance _ => true

theorem showsMove_write (w : ButtonWrite) :
    showsMove (.write w) = decide (w.button ∈ shifting) := by
  rcases w with ⟨button, pressed⟩
  cases button <;> rfl

/-- Moves that do not show may be left out. -/
theorem lookalike_filter (rom : Bytes) (moves : List Core.Move) :
    Lookalike (Core.movedBy (boot rom) moves)
      (Core.movedBy (boot rom) (moves.filter showsMove)) := by
  induction moves using List.reverseRecOn with
  | nil => exact .refl _
  | append_singleton moves move ih =>
    rw [List.filter_append, Core.movedBy_append_singleton]
    cases move with
    | advance stride =>
      have kept : [Core.Move.advance stride].filter showsMove = [.advance stride] := rfl
      rw [kept, Core.movedBy_append_singleton]
      exact ih.advance (whole_movedBy rom moves) stride
    | write w =>
      rw [List.filter_singleton, showsMove_write]
      by_cases shows : w.button ∈ shifting
      · rw [decide_eq_true shows, cond_true, Core.movedBy_append_singleton]
        exact ih.setButton w
      · rw [decide_eq_false shows, cond_false, List.append_nil]
        exact ih.hidden shows

/-! ## Every pixel -/

/-- **The picture is the frame count and a parity.**  Take the pattern core of any cartridge
image, after any moves.  It counts, with 64 bits, the frames that it has completed, and
`shiftsDrawn` counts the buttons among up, left, A and start that were held when it completed
the last of them.  Its picture has 160 by 144 pixels, and each is opaque and grey: pixel
`(x, y)` is light if the sum of `(x + frames + 8 * shiftsDrawn) / 8` and `y / 8` is odd, and
dark if it is even.  So two such cores, even of different cartridges, show the same if their
frame counts are equal modulo 16 and their counts of buttons modulo 2; and of one cartridge so
do two that differ in writes to down, right, B and select only.  An instruction changes no
pixel, and neither does a frame that faults. -/
theorem picture_of_frames_and_parity (rom : Bytes) (moves : List Core.Move) :
    let core := Core.movedBy (boot rom) moves
    core.frames = UInt64.ofNat (Core.completedFrames (boot rom) moves).length ∧
    (Core.framebuffer core).size = 160 * 144 * 4 ∧
    (∀ x y, x < 160 → y < 144 →
      let sum := (x + core.frames.toNat + 8 * shiftsDrawn rom moves) / 8 + y / 8
      let v := if sum % 2 = 1 then 0xE0 else 0x20
      Raster.pixel? (Core.framebuffer core) (4 * (y * 160 + x)) = some ⟨v, v, v, 255⟩) ∧
    (∀ image others, core.frames.toNat % 16 = (Core.movedBy (boot image) others).frames.toNat % 16 →
      shiftsDrawn rom moves % 2 = shiftsDrawn image others % 2 →
        Core.framebuffer core = Core.framebuffer (Core.movedBy (boot image) others)) ∧
    (∀ others, moves.filter showsMove = others.filter showsMove →
      Core.framebuffer core = Core.framebuffer (Core.movedBy (boot rom) others)) ∧
    ∀ stride, stride = .instruction ∨ (Core.advance stride core).value.1.isSome →
      Core.framebuffer (Core.advance stride core).value.2 = Core.framebuffer core := by
  intro core
  have drawn (rom : Bytes) (moves : List Core.Move) :
      Core.framebuffer (Core.movedBy (boot rom) moves) = Checkerboard.picture 160 144
        ((Core.movedBy (boot rom) moves).frames.toNat + 8 * shiftsDrawn rom moves) :=
    picture_movedBy rom moves
  refine ⟨(drawn_movedBy rom moves).1, ?_, ?_, ?_, ?_, ?_⟩
  · rw [drawn, Checkerboard.size_picture]
  · intro x y hx hy sum v
    have shade : Checkerboard.shade x y (core.frames.toNat + 8 * shiftsDrawn rom moves) = v := by
      rw [Checkerboard.shade_eq, ← Nat.add_assoc]
      rcases Nat.mod_two_eq_zero_or_one sum with even | odd
      · exact (if_pos even).trans (if_neg (even.trans_ne (by decide))).symm
      · exact (if_neg (odd.trans_ne (by decide))).trans (if_pos odd).symm
    rw [drawn, Checkerboard.pixel?_picture hx hy, shade]
    rfl
  · intro image others count parity
    have phases : (core.frames.toNat + 8 * shiftsDrawn rom moves) % 16 =
        ((Core.movedBy (boot image) others).frames.toNat + 8 * shiftsDrawn image others) % 16 := by
      omega
    rw [drawn, drawn]
    exact Checkerboard.picture_congr phases 160 144
  · intro others same
    have one := (lookalike_filter rom moves).picture_eq
    have two := (lookalike_filter rom others).picture_eq
    rw [← same] at two
    exact one.symm.trans two
  · intro stride idle
    rcases advance_cases stride core with ⟨-, registers, left⟩ | ⟨rfl, completed, -⟩
    · rw [left]
      rfl
    · rw [completed] at idle
      exact absurd idle (by simp)

/-- A cartridge of zeros completes a frame with up held; up is released after that, and still
shows.  So does start, with a cartridge of ones. -/
theorem picture_of_frames_and_parity_of_one_frame :
    let zeros : Bytes := Array.replicate 0x150 0
    let ones : Bytes := Array.replicate 0x150 1
    let moves : List Core.Move := [.write ⟨.up, true⟩, .advance .frame, .write ⟨.up, false⟩]
    let more : List Core.Move := [.write ⟨.b, true⟩, .write ⟨.up, true⟩, .write ⟨.select, true⟩,
      .advance .frame, .write ⟨.b, false⟩, .write ⟨.up, false⟩]
    let others : List Core.Move := [.write ⟨.start, true⟩, .advance .frame]
    Raster.pixel? (Core.framebuffer (Core.movedBy (boot zeros) moves)) 0 =
        some ⟨0xE0, 0xE0, 0xE0, 255⟩ ∧
      Core.framebuffer (Core.movedBy (boot zeros) moves) =
        Core.framebuffer (Core.movedBy (boot ones) others) ∧
      Core.framebuffer (Core.movedBy (boot zeros) moves) =
        Core.framebuffer (Core.movedBy (boot zeros) more) ∧
      Core.framebuffer (Core.advance .instruction (Core.movedBy (boot zeros) moves)).value.2 =
        Core.framebuffer (Core.movedBy (boot zeros) moves) := by
  intro zeros ones moves more others
  have first (opcode : UInt8) (defined : opcode ∉ undefinedOpcodes) (w : ButtonWrite) :
      Core.completedFrames (boot (Array.replicate 0x150 opcode)) [.write w, .advance .frame] =
        [[.write w, .advance .frame]] := by
    have fetched (address : Nat) :
        (Array.replicate 0x150 opcode).getD address 0 ∉ undefinedOpcodes := by
      rw [Array.getD_eq_getD_getElem?, Array.getElem?_replicate]
      split
      · exact defined
      · decide
    rw [← List.singleton_append, Core.completedFrames_append_singleton,
      endsFrame_of_defined fetched]
    rfl
  have zeros_frames : Core.completedFrames (boot zeros) moves =
      [[.write ⟨.up, true⟩, .advance .frame]] := by
    have released :=
      Core.endsFrame_write (boot zeros) [.write ⟨.up, true⟩, .advance .frame] ⟨.up, false⟩
    exact (Core.completedFrames_of_not_ends released).trans (first 0 (by decide) ⟨.up, true⟩)
  have ones_frames : Core.completedFrames (boot ones) others =
      [[.write ⟨.start, true⟩, .advance .frame]] := first 1 (by decide) ⟨.start, true⟩
  clear_value zeros ones
  obtain ⟨count, -, pixels, same, hidden, idle⟩ := picture_of_frames_and_parity zeros moves
  have ones_count := (picture_of_frames_and_parity ones others).1
  have zeros_shifts : shiftsDrawn zeros moves = 1 := by
    rw [shiftsDrawn, Core.lastFrame, zeros_frames]
    decide
  have ones_shifts : shiftsDrawn ones others = 1 := by
    rw [shiftsDrawn, Core.lastFrame, ones_frames]
    decide
  have corner := pixels 0 0 (by decide) (by decide)
  have alike := same ones others
  have still := idle .instruction (.inl rfl)
  rw [count, zeros_frames, zeros_shifts] at corner
  rw [count, ones_count, zeros_frames, ones_frames, zeros_shifts, ones_shifts] at alike
  exact ⟨corner, alike rfl rfl, hidden more rfl, still⟩

end PatternCore

end HandheldHost
