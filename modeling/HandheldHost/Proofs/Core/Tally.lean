import HandheldHost.Core.Recorder
import HandheldHost.Proofs.Raster

/-!
# What a recorder core has counted

A recorder core keeps two counts of calls and derives a third from them: the
advances completed, which are its calls less the one that faulted.  Here its
counts are compared with numbers kept elsewhere, those of the frames and the
instructions completed and of the faults.

* `RecorderCore.Counted` -- the counts agree with such numbers, and
  `RecorderCore.Counted.completed` so does the one derived from them;
  `RecorderCore.Tally` -- the picture does too.
* `RecorderCore.Tally.instruction`, `RecorderCore.Tally.frame` -- the three things
  an advance can do: an instruction, a frame, a fault in place of a frame.
-/

namespace HandheldHost

/-! ## One shade of grey -/

namespace Geometry

/-- The display in the shade of a number of advances; there are 256 of them. -/
def shaded (g : Geometry) (advances : Nat) : Bytes :=
  Raster.draw g.width.toNat g.height.toNat fun _ _ => .grey (UInt8.ofNat advances)

theorem size_shaded (g : Geometry) (advances : Nat) :
    (g.shaded advances).size = 4 * (g.width.toNat * g.height.toNat) :=
  (Raster.getElem?_draw _ _ _).1

/-- One advance more makes another picture, unless there are no pixels. -/
theorem shaded_succ_ne {g : Geometry} (wide : 0 < g.width.toNat) (tall : 0 < g.height.toNat)
    (advances : Nat) : g.shaded (advances + 1) ≠ g.shaded advances := by
  intro same
  have first (n : Nat) : Raster.pixel? (g.shaded n) (4 * (0 * g.width.toNat + 0)) =
      some (.grey (UInt8.ofNat n)) := Raster.pixel?_draw wide tall _
  have pixels : Pixel.grey (UInt8.ofNat (advances + 1)) = .grey (UInt8.ofNat advances) :=
    Option.some.inj ((first _).symm.trans (same ▸ first _))
  have shades := congrArg (fun p => p.red.toNat) pixels
  simp only [Pixel.grey, UInt8.toNat_ofNat'] at shades
  omega

end Geometry

namespace RecorderCore

/-! ## Calls -/

/-- The calls that have faulted. -/
def missed (core : RecorderCore) : Nat :=
  if core.faultOnFrame.any (· ≤ core.frameCalls) then 1 else 0

/-- A fault that is due on some frame advance is one of the calls. -/
theorem missed_le {core : RecorderCore} (numbered : core.faultOnFrame ≠ some 0) :
    core.missed ≤ core.frameCalls.toNat := by
  unfold missed
  cases scripted : core.faultOnFrame with
  | none => exact Nat.zero_le _
  | some n =>
    by_cases due : n ≤ core.frameCalls
    · have positive : n.toNat ≠ 0 := fun zero =>
        numbered (scripted.trans (congrArg some (UInt64.toNat_inj.mp zero)))
      have reached := UInt64.le_iff_toNat_le.mp due
      simp only [Option.any_some, due, decide_true, if_pos]
      omega
    · simp [due]

theorem completed_eq (core : RecorderCore) :
    core.completed = core.frameCalls + core.instructionCalls - UInt64.ofNat core.missed := by
  unfold completed missed
  cases core.faultOnFrame with
  | none => rfl
  | some n => by_cases due : n ≤ core.frameCalls <;> simp [due]

/-- As long as no count wraps, the calls are those completed and those that
faulted. -/
theorem toNat_completed {core : RecorderCore} (numbered : core.faultOnFrame ≠ some 0)
    (room : core.frameCalls.toNat + core.instructionCalls.toNat < UInt64.size) :
    core.completed.toNat + core.missed =
      core.frameCalls.toNat + core.instructionCalls.toNat := by
  have le := missed_le numbered
  have small : (UInt64.ofNat core.missed).toNat = core.missed :=
    UInt64.toNat_ofNat_of_lt (by show core.missed < UInt64.size; omega)
  have calls : (core.frameCalls + core.instructionCalls).toNat =
      core.frameCalls.toNat + core.instructionCalls.toNat := by
    rw [UInt64.toNat_add, Nat.mod_eq_of_lt room]
  rw [completed_eq, UInt64.toNat_sub_of_le _ _ (by rw [UInt64.le_iff_toNat_le]; omega)]
  omega

/-- Painting a whole picture leaves nothing of the old one. -/
theorem frame_fill {core : RecorderCore} {g : Geometry}
    (whole : core.frame.size = 4 * (g.width.toNat * g.height.toNat)) :
    core.fill.frame = g.shaded core.completed.toNat := by
  have pixels : core.frame.size / 4 = g.width.toNat * g.height.toNat := by omega
  have nothing_left : core.frame.extract (4 * (g.width.toNat * g.height.toNat)) core.frame.size = #[] :=
    Array.extract_empty_of_stop_le_start (Nat.le_of_eq whole)
  simp only [fill, pixels, Raster.draw_const, nothing_left, Array.append_empty]
  rfl

/-! ## Tallies -/

/-- The counts of a recorder core agree with the numbers of frames and instructions
completed and of faults, and none of them has wrapped. -/
structure Counted (core : RecorderCore) (frames instructions faults : Nat) : Prop where
  numbered : core.faultOnFrame ≠ some 0
  room : frames + faults + instructions < UInt64.size
  frameCalls : core.frameCalls.toNat = frames + faults
  instructionCalls : core.instructionCalls.toNat = instructions
  missed_eq : core.missed = faults

/-- So does its picture: the display in the shade of the advances completed. -/
structure Tally (core : RecorderCore) (g : Geometry) (frames instructions faults : Nat) : Prop
    extends Counted core frames instructions faults where
  geometry_eq : core.geometry = g
  frame_eq : core.frame = g.shaded (frames + instructions)

variable {core : RecorderCore} {g : Geometry} {frames instructions faults : Nat}

/-- What the core takes for the advances completed is just that. -/
theorem Counted.completed (h : Counted core frames instructions faults) :
    core.completed.toNat = frames + instructions := by
  have room := h.room
  have calls := toNat_completed h.numbered
    (by rw [h.frameCalls, h.instructionCalls]; exact room)
  rw [h.frameCalls, h.instructionCalls, h.missed_eq] at calls
  omega

/-- Repainting makes the picture agree with the counts. -/
theorem Counted.fill (h : Counted core frames instructions faults)
    (geometry_eq : core.geometry = g)
    (whole : core.frame.size = 4 * (g.width.toNat * g.height.toNat)) :
    Tally core.fill g frames instructions faults :=
  ⟨⟨h.numbered, h.room, h.frameCalls, h.instructionCalls, h.missed_eq⟩, geometry_eq, by
    rw [frame_fill whole, h.completed]⟩

namespace Tally

theorem whole (h : Tally core g frames instructions faults) :
    core.frame.size = 4 * (g.width.toNat * g.height.toNat) := by
  rw [h.frame_eq, Geometry.size_shaded]

/-- The picture is a frame, unless the display is empty. -/
theorem frame_ok (h : Tally core g frames instructions faults) (wide : 0 < g.width.toNat)
    (tall : 0 < g.height.toNat) : ∃ frame, Core.frame core = .ok frame := by
  obtain rfl : core.geometry = g := h.geometry_eq
  exact ⟨_, Frame.ofBytes_eq_ok wide tall (h.whole.trans core.geometry.frameSize_eq.symm)⟩

/-- An instruction never faults. -/
theorem instruction (h : Tally core g frames instructions faults)
    (room : frames + faults + (instructions + 1) < UInt64.size) :
    (core.advance .instruction).1 = none ∧
      Tally (core.advance .instruction).2 g frames (instructions + 1) faults := by
  have next : (core.instructionCalls + 1).toNat = instructions + 1 := by
    rw [UInt64.toNat_add, h.instructionCalls]
    exact Nat.mod_eq_of_lt (show instructions + 1 < UInt64.size by omega)
  have counted : Counted { core with instructionCalls := core.instructionCalls + 1 } frames
      (instructions + 1) faults := ⟨h.numbered, room, h.frameCalls, next, h.missed_eq⟩
  exact ⟨rfl, counted.fill h.geometry_eq h.whole⟩

/-- A frame faults if it is the one that has been scripted, and then nothing is
repainted; otherwise it is completed. -/
theorem frame (h : Tally core g frames instructions faults)
    (room : frames + faults + 1 + instructions < UInt64.size) :
    ((core.advance .frame).1.isSome ∧
        Tally (core.advance .frame).2 g frames instructions (faults + 1)) ∨
      ((core.advance .frame).1 = none ∧
        Tally (core.advance .frame).2 g (frames + 1) instructions faults) := by
  have next : (core.frameCalls + 1).toNat = frames + faults + 1 := by
    rw [UInt64.toNat_add, h.frameCalls]
    exact Nat.mod_eq_of_lt (show frames + faults + 1 < UInt64.size by omega)
  have missed_eq := h.missed_eq
  unfold missed at missed_eq
  by_cases scripted : core.faultOnFrame = some (core.frameCalls + 1)
  · -- The call was not due before, so nothing has been missed so far.
    have early : ¬core.frameCalls + 1 ≤ core.frameCalls := by
      rw [UInt64.le_iff_toNat_le, next, h.frameCalls]
      omega
    simp only [scripted, Option.any_some, early, decide_false] at missed_eq
    subst missed_eq
    have due : missed { core with frameCalls := core.frameCalls + 1 } = 1 := by
      simp [missed, scripted]
    simp only [advance, if_pos scripted]
    exact .inl ⟨rfl, ⟨h.numbered, by omega, next, h.instructionCalls, due⟩, h.geometry_eq,
      h.frame_eq⟩
  · have still : missed { core with frameCalls := core.frameCalls + 1 } = faults := by
      rw [← missed_eq, missed]
      cases due : core.faultOnFrame with
      | none => rfl
      | some n =>
        -- A call that is not the next one is due with the next one if it was due before.
        have other : n.toNat ≠ frames + faults + 1 := by
          rw [← next]
          exact fun same => scripted (due.trans (congrArg some (UInt64.toNat_inj.mp same)))
        have both : n ≤ core.frameCalls + 1 ↔ n ≤ core.frameCalls := by
          rw [UInt64.le_iff_toNat_le, UInt64.le_iff_toNat_le, next, h.frameCalls]
          omega
        simp [both]
    have counted : Counted { core with frameCalls := core.frameCalls + 1 } (frames + 1)
        instructions faults :=
      ⟨h.numbered, by omega, by rw [next]; omega, h.instructionCalls, still⟩
    simp only [advance, if_neg scripted]
    exact .inr ⟨trivial, counted.fill h.geometry_eq h.whole⟩

/-- Nothing that is not counted matters. -/
theorem congr (h : Tally core g frames instructions faults) (writes : List ButtonWrite)
    (held : Vector Bool 8) (registerReads windowReads : UInt64) :
    Tally { core with writes, held, registerReads, windowReads } g frames instructions faults :=
  ⟨⟨h.numbered, h.room, h.frameCalls, h.instructionCalls, h.missed_eq⟩, h.geometry_eq, h.frame_eq⟩

end Tally

/-- A new core for a display, told which frame advance is to fault if one is. -/
def scripted (g : Geometry) (faultOnFrame : Option UInt64) : RecorderCore :=
  { ofGeometry g with faultOnFrame }

/-- It has counted nothing, whatever it was told. -/
theorem tally_scripted (g : Geometry) {faultOnFrame : Option UInt64}
    (numbered : faultOnFrame ≠ some 0) : Tally (scripted g faultOnFrame) g 0 0 0 := by
  have none_called : (scripted g faultOnFrame).missed ≤ 0 := missed_le numbered
  have missed_eq : (scripted g faultOnFrame).missed = 0 := Nat.le_zero.mp none_called
  refine ⟨⟨numbered, by decide, rfl, rfl, missed_eq⟩, rfl, ?_⟩
  have empty : (Array.replicate g.frameSize 0 : Bytes).size =
      4 * (g.width.toNat * g.height.toNat) := Array.size_replicate.trans g.frameSize_eq
  have painted := @frame_fill { geometry := g, frame := Array.replicate g.frameSize 0 } g empty
  have none_yet : (RecorderCore.completed
      { geometry := g, frame := Array.replicate g.frameSize 0 }).toNat = 0 := by simp [completed]
  rw [none_yet] at painted
  exact painted

end RecorderCore

end HandheldHost
