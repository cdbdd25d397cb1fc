import HandheldHost.Proofs.Core.Pattern

/-!
# What the memory window says of the next instruction

The window of a pattern core starts at its program counter, so the octet that it shows
first is the opcode that comes next, and the two after that are all an instruction can
look at.  Window and instruction take their octets from the same places: addresses wrap
after 0xFFFF, and behind the cartridge there are zeros.

* `PatternCore.window_eq` -- the octets of a window.
* `PatternCore.toNat_nextPc` -- where execution goes on, as arithmetic on numbers.
* `PatternCore.window_foretells_instruction` -- what the next instruction does, told from
  the window.
-/

namespace HandheldHost.PatternCore

/-! ## Memory -/

theorem fetch_add (core : PatternCore) (address : UInt16) (i : Nat) :
    core.fetch (address + UInt16.ofNat i) = core.rom.getD ((address.toNat + i) % 65536) 0 := by
  rw [fetch, UInt16.toNat_add, UInt16.toNat_ofNat', Nat.add_mod_mod]

/-- The octets of a window. -/
theorem window_eq (core : PatternCore) (size : Nat) :
    core.window size = Array.ofFn fun i : Fin size =>
      core.rom.getD ((core.registers.pc.toNat + i) % 65536) 0 := by
  simp only [window, fetch_add]

/-- What an instruction can look at. -/
theorem window_three (core : PatternCore) :
    core.window 3 = #[core.fetch core.registers.pc, core.fetch (core.registers.pc + 1),
      core.fetch (core.registers.pc + 2)] := by
  simp [window, Array.ofFn_succ]

/-! ## Where execution goes on -/

/-- A displacement is a number from -128 to 127, in two's complement. -/
theorem toInt_toInt8 (offset : UInt8) :
    offset.toInt8.toInt =
      if offset.toNat < 128 then (offset.toNat : Int) else offset.toNat - 256 := by
  show offset.toBitVec.toInt = _
  rw [BitVec.toInt_eq_toNat_cond, UInt8.toNat_toBitVec]
  split <;> split <;> omega

theorem toNat_signExtend (offset : UInt8) :
    (signExtend offset).toNat =
      if offset.toNat < 128 then offset.toNat else offset.toNat + 0xFF00 := by
  have small := offset.toNat_lt
  have order : offset < 0x80 ↔ offset.toNat < 128 := UInt8.lt_iff_toNat_lt
  simp only [signExtend, order]
  split
  · rfl
  · rw [UInt16.toNat_add, UInt8.toNat_toUInt16]
    exact Nat.mod_eq_of_lt (show offset.toNat + 0xFF00 < 2 ^ 16 by omega)

/-- An address moved by a displacement, forwards or backwards. -/
theorem toNat_add_signExtend (address : UInt16) (offset : UInt8) :
    ((address + signExtend offset).toNat : Int) =
      (address.toNat + offset.toInt8.toInt) % 65536 := by
  rw [UInt16.toNat_add, toNat_signExtend, toInt_toInt8]
  split <;> omega

/-- An address in two octets, the lower one first. -/
theorem toNat_word (low high : UInt8) :
    (low.toUInt16 + high.toUInt16 * 0x100).toNat = low.toNat + 256 * high.toNat := by
  have low_small := low.toNat_lt
  have high_small := high.toNat_lt
  rw [UInt16.toNat_add, UInt16.toNat_mul, UInt8.toNat_toUInt16, UInt8.toNat_toUInt16]
  show (low.toNat + high.toNat * 256 % 2 ^ 16) % 2 ^ 16 = _
  omega

/-- Where execution goes on, from the three octets at the program counter. -/
theorem toNat_nextPc {core : PatternCore} {pc : UInt16} (at_pc : core.registers.pc = pc) :
    (core.nextPc.toNat : Int) =
      if core.fetch pc = 0xC3 then
        ((core.fetch (pc + 1)).toNat + 256 * (core.fetch (pc + 2)).toNat : Int)
      else if core.fetch pc = 0x18 then
        (pc.toNat + 2 + (core.fetch (pc + 1)).toInt8.toInt) % 65536
      else (pc.toNat + 1) % 65536 := by
  simp only [nextPc, at_pc]
  split
  · rw [toNat_word]
    rfl
  · split
    · rw [toNat_add_signExtend, UInt16.toNat_add]
      show (((pc.toNat + 2) % 2 ^ 16 : Nat) + _ : Int) % 65536 = _
      omega
    · rw [UInt16.toNat_add]
      rfl

/-! ## The next instruction -/

/-- **The window tells what comes next.**  Take the pattern core of any cartridge image in
any state that it can come to, with its program counter at `pc`.  Octet `i` of a window of
any size is the one of the image at `pc + i`, modulo 65536, or zero if the image ends
before it; its base is `pc`; and looking changes nothing.  Let `w₀`, `w₁` and `w₂` be the
window of three octets.  If executing an instruction faults, `w₀` is an undefined opcode,
the fault names `pc`, and the core is as it was.  If it does not, `w₀` is none of these, and
nothing is different but the accumulator, to which `w₀` is added modulo 256, the zero flag,
which says whether the accumulator is zero now, and the program counter: it is the address
in `w₁` and `w₂` after an absolute jump, moved by the displacement `w₁` from behind the
instruction after a relative one, and one further after any other. -/
theorem window_foretells_instruction (rom : Bytes) (moves : List Core.Move) :
    let core := Core.movedBy (boot rom) moves
    let pc := core.registers.pc
    (∀ n : Nat, Core.window n core =
      (Array.ofFn fun i : Fin n => rom.getD ((pc.toNat + i) % 65536) 0, core)) ∧
    Core.windowBase core = pc ∧
    ∃ w₀ w₁ w₂ : UInt8, (Core.window 3 core).1 = #[w₀, w₁, w₂] ∧
      match (Core.advance .instruction core).value with
      | (some fault, left) => w₀ ∈ undefinedOpcodes ∧ fault.pc = some pc ∧ left = core
      | (none, left) =>
        let r := left.registers
        w₀ ∉ undefinedOpcodes ∧
        left = { core with registers := { core.registers with
          a := r.a, pc := r.pc, flags := { core.registers.flags with zero := r.flags.zero } } } ∧
        r.a.toNat = (core.registers.a.toNat + w₀.toNat) % 256 ∧
        r.flags.zero = decide (r.a = 0) ∧
        (r.pc.toNat : Int) =
          if w₀ = 0xC3 then (w₁.toNat + 256 * w₂.toNat : Int)
          else if w₀ = 0x18 then (pc.toNat + 2 + w₁.toInt8.toInt) % 65536
          else (pc.toNat + 1) % 65536 := by
  intro core pc
  refine ⟨fun n => ?_, rfl, _, _, _, core.window_three, ?_⟩
  · show (core.window n, core) = _
    rw [window_eq, rom_movedBy]
  · show match core.step.value with | (some fault, left) => _ | (none, left) => _
    rw [value_step]
    cases here : core.faultHere with
    | some fault =>
      obtain ⟨undefined, rfl⟩ := (faultHere_eq_some_iff core fault).mp here
      exact ⟨undefined, rfl, rfl⟩
    | none =>
      refine ⟨fun undefined => ?_, rfl, UInt8.toNat_add _ _, rfl, toNat_nextPc rfl⟩
      have faults := (faultHere_eq_some_iff core _).mpr ⟨undefined, rfl⟩
      exact absurd (here.symm.trans faults) (Option.some_ne_none _).symm

end HandheldHost.PatternCore
