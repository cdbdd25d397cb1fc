import HandheldHost.Proofs.Core.Pattern
import Mathlib.Data.ENat.Lattice

/-!
# Advancing a core over and over

A core that is made to advance over and over completes some advances, possibly
without end.  From the first that faults it is stuck: every further attempt gives
the same fault and leaves the core as it is.

* `PatternCore.attempted`, `PatternCore.met` -- the core after so many attempts,
  and the fault that they have met.
* `PatternCore.advances` -- how many advances are completed before the first
  fault; `PatternCore.faultAt_eq_none_iff`, `PatternCore.met_eq_none_iff`.
* `PatternCore.Twin` -- what instructions depend on.
-/

namespace HandheldHost.PatternCore

/-! ## Attempts -/

/-- The core after `n` attempts to advance. -/
def attempted (stride : Stride) (core : PatternCore) : Nat → PatternCore
  | 0 => core
  | n + 1 => (Core.advance stride (attempted stride core n)).value.2

/-- The fault of the attempt that follows `n` others. -/
def faultAt (stride : Stride) (core : PatternCore) (n : Nat) : Option Fault :=
  (Core.advance stride (core.attempted stride n)).value.1

/-- The fault that `n` attempts have met: that of the last one. -/
def met (stride : Stride) (core : PatternCore) : Nat → Option Fault
  | 0 => none
  | n + 1 => core.faultAt stride n

/-- How many advances are completed before the first that faults. -/
noncomputable def advances (stride : Stride) (core : PatternCore) : ℕ∞ :=
  ⨅ n, ⨅ _ : (core.faultAt stride n).isSome, (n : ℕ∞)

/-- The first fault, if there is one. -/
noncomputable def firstFault (stride : Stride) (core : PatternCore) : Option Fault :=
  core.faultAt stride (core.advances stride).toNat

/-- How many of `n` attempts are completed. -/
noncomputable def completed (stride : Stride) (core : PatternCore) (n : Nat) : Nat :=
  (min (n : ℕ∞) (core.advances stride)).toNat

section

variable {stride : Stride} {core : PatternCore} {fault : Fault}

/-- A fault leaves the core at the opcode that it names. -/
theorem faultHere_attempted {n : Nat} (h : core.faultAt stride n = some fault) :
    (core.attempted stride (n + 1)).faultHere = some fault := by
  obtain ⟨registers, left, here⟩ := advance_of_fault h
  exact (congrArg faultHere left).trans here

theorem attempted_of_halted {n : Nat} (halted : (core.attempted stride n).faultHere = some fault)
    (more : Nat) : core.attempted stride (n + more) = core.attempted stride n := by
  induction more with
  | zero => rfl
  | succ more ih =>
    rw [← Nat.add_assoc, attempted, ih, value_advance_of_halted halted]

/-- From the first fault on nothing changes. -/
theorem stuck_of_fault {m : Nat} (h : core.faultAt stride m = some fault) (more : Nat) :
    core.faultAt stride (m + more) = some fault ∧
      core.attempted stride (m + more + 1) = core.attempted stride (m + 1) := by
  have halted := faultHere_attempted h
  have still (more : Nat) : core.attempted stride (m + more + 1) = core.attempted stride (m + 1) := by
    rw [Nat.add_right_comm, attempted_of_halted halted]
  refine ⟨?_, still more⟩
  cases more with
  | zero => exact h
  | succ more => rw [faultAt, ← Nat.add_assoc, still, value_advance_of_halted halted]

theorem advances_le_iff (n : Nat) :
    core.advances stride ≤ n ↔ (core.faultAt stride n).isSome := by
  constructor
  · intro le
    have below : core.advances stride < n + 1 := (ENat.lt_add_one_iff (ENat.natCast_ne_top n)).mpr le
    obtain ⟨m, below⟩ := iInf_lt_iff.mp below
    obtain ⟨faulted, below⟩ := iInf_lt_iff.mp below
    obtain ⟨fault, h⟩ := Option.isSome_iff_exists.mp faulted
    have le : m ≤ n := Nat.cast_le.mp ((ENat.lt_add_one_iff (ENat.natCast_ne_top n)).mp below)
    obtain ⟨more, rfl⟩ := Nat.exists_eq_add_of_le le
    rw [(stuck_of_fault h more).1]
    rfl
  · exact fun faulted => iInf₂_le n faulted

/-- A core at an undefined opcode completes nothing. -/
theorem advances_of_halted (halted : core.faultHere = some fault) : core.advances stride = 0 := by
  have found : core.faultAt stride 0 = some fault :=
    congrArg Prod.fst (value_advance_of_halted halted stride)
  have le : core.advances stride ≤ (0 : ℕ) := (advances_le_iff 0).mpr (by rw [found]; rfl)
  exact nonpos_iff_eq_zero.mp le

/-- An attempt is completed as long as there are advances left. -/
theorem faultAt_eq_none_iff (n : Nat) :
    core.faultAt stride n = none ↔ (n : ℕ∞) < core.advances stride := by
  rw [← not_le, advances_le_iff, Bool.not_eq_true, Option.isSome_eq_false_iff,
    Option.isNone_iff_eq_none]

/-! ## Counting -/

theorem met_eq_none_iff (n : Nat) : core.met stride n = none ↔ (n : ℕ∞) ≤ core.advances stride := by
  cases n with
  | zero => exact iff_of_true rfl (by simp)
  | succ n =>
    rw [met, faultAt_eq_none_iff, Nat.cast_succ]
    exact (ENat.add_one_le_iff (ENat.natCast_ne_top n)).symm

/-- The first fault is that of the attempt after the last completed advance. -/
theorem exists_firstFault_of_lt {n : Nat} (h : core.advances stride < n) :
    ∃ first fault more, core.advances stride = (first : ℕ) ∧ n = first + more + 1 ∧
      core.faultAt stride first = some fault := by
  obtain ⟨first, first_eq⟩ := ENat.ne_top_iff_exists.mp h.ne_top
  obtain ⟨fault, found⟩ := Option.isSome_iff_exists.mp ((advances_le_iff first).mp first_eq.ge)
  rw [← first_eq, Nat.cast_lt] at h
  obtain ⟨more, rfl⟩ := Nat.exists_eq_add_of_lt h
  exact ⟨first, fault, more, first_eq.symm, rfl, found⟩

/-- A fault that attempts have met is the first. -/
theorem firstFault_of_met {n : Nat} (h : core.met stride n = some fault) :
    core.firstFault stride = some fault := by
  have late : core.advances stride < n := by
    rw [← not_le, ← met_eq_none_iff, h]
    exact Option.some_ne_none fault
  obtain ⟨first, earlier, more, first_eq, rfl, found⟩ := exists_firstFault_of_lt late
  rw [firstFault, first_eq, ENat.toNat_natCast, found, ← h, met, (stuck_of_fault found more).1]

/-- The attempt after the last completed advance is the first that faults. -/
theorem met_eq_none_iff_lt (n : Nat) :
    core.met stride n = none ↔ (n : ℕ∞) < core.advances stride + 1 :=
  (met_eq_none_iff n).trans (ENat.lt_add_one_iff' (ENat.natCast_ne_top n)).symm

/-- The attempt that faults first leaves the core at the opcode that its fault
names. -/
theorem exists_firstFault (finite : core.advances stride ≠ ⊤) :
    ∃ fault, core.firstFault stride = some fault ∧
      (core.attempted stride (core.advances stride + 1).toNat).faultHere = some fault := by
  obtain ⟨first, first_eq⟩ := ENat.ne_top_iff_exists.mp finite
  obtain ⟨fault, found⟩ := Option.isSome_iff_exists.mp ((advances_le_iff first).mp first_eq.ge)
  rw [firstFault, ← first_eq, ENat.toNat_natCast, ← Nat.cast_succ, ENat.toNat_natCast]
  exact ⟨fault, found, faultHere_attempted found⟩

theorem completed_of_le {n : Nat} (le : (n : ℕ∞) ≤ core.advances stride) :
    core.completed stride n = n := by
  rw [completed, min_eq_left le, ENat.toNat_natCast]

theorem completed_mono {m n : Nat} (le : m ≤ n) :
    core.completed stride m ≤ core.completed stride n :=
  ENat.toNat_le_toNat (min_le_min_right _ (Nat.cast_le.mpr le))
    (ne_top_of_le_ne_top (ENat.natCast_ne_top n) (min_le_left _ _))

theorem completed_succ_of_none {n : Nat} (h : core.faultAt stride n = none) :
    core.completed stride (n + 1) = core.completed stride n + 1 := by
  have le : ((n + 1 : ℕ) : ℕ∞) ≤ core.advances stride := (met_eq_none_iff (n + 1)).mp h
  rw [completed_of_le le, completed_of_le ((Nat.cast_le.mpr n.le_succ).trans le)]

theorem completed_succ_of_some {n : Nat} (h : core.faultAt stride n = some fault) :
    core.completed stride (n + 1) = core.completed stride n := by
  have le : core.advances stride ≤ n := (advances_le_iff n).mpr (by rw [h]; rfl)
  rw [completed, completed, min_eq_right le, min_eq_right (le.trans (Nat.cast_le.mpr n.le_succ))]

/-- Once attempts have met a fault, more of them make no difference. -/
theorem stuck_of_met {n : Nat} (h : core.met stride n = some fault) (more : Nat) :
    core.met stride (n + more) = some fault ∧
      core.attempted stride (n + more) = core.attempted stride n ∧
        core.completed stride (n + more) = core.completed stride n := by
  cases n with
  | zero => cases h
  | succ n =>
    obtain ⟨again, still⟩ := stuck_of_fault h more
    have late : core.advances stride ≤ (n + 1 : ℕ) := by
      refine ((advances_le_iff n).mpr ?_).trans (Nat.cast_le.mpr n.le_succ)
      rw [← met, h]
      rfl
    have later : core.advances stride ≤ (n + 1 + more : ℕ) :=
      late.trans (Nat.cast_le.mpr (Nat.le_add_right _ _))
    rw [completed, completed, min_eq_right late, min_eq_right later, Nat.add_right_comm]
    exact ⟨again, still, rfl⟩

/-- Attempts beyond the first that faults make no difference. -/
theorem attempted_min (n : Nat) :
    core.attempted stride (min (n : ℕ∞) (core.advances stride + 1)).toNat =
      core.attempted stride n := by
  rcases le_or_gt (n : ℕ∞) (core.advances stride) with le | lt
  · rw [min_eq_left (le.trans le_self_add), ENat.toNat_natCast]
  · obtain ⟨first, fault, more, first_eq, rfl, found⟩ := exists_firstFault_of_lt lt
    have least : min ((first + more + 1 : ℕ) : ℕ∞) (first + 1 : ℕ) = (first + 1 : ℕ) :=
      min_eq_right (Nat.cast_le.mpr (by omega))
    rw [first_eq, ← Nat.cast_succ, least, ENat.toNat_natCast, (stuck_of_fault found more).2]

/-- A core that is at an undefined opcode to begin with stays there. -/
theorem stuck_of_halted (stride : Stride) (halted : core.faultHere = some fault) (n : Nat) :
    core.attempted stride n = core ∧ core.met stride (n + 1) = some fault ∧
      core.completed stride n = 0 := by
  have still : core.attempted stride n = core := by
    have none_yet : (core.attempted stride 0).faultHere = some fault := halted
    rw [← Nat.zero_add n]
    exact attempted_of_halted none_yet n
  refine ⟨still, ?_, ?_⟩
  · rw [met, faultAt, still, value_advance_of_halted halted]
  · rw [completed, advances_of_halted halted, min_eq_right (by simp), ENat.toNat_zero]

end

/-! ## What instructions depend on -/

/-- Two cores with the same cartridge and the same registers.  No instruction
depends on anything else. -/
structure Twin (core other : PatternCore) : Prop where
  rom_eq : other.rom = core.rom
  registers_eq : other.registers = core.registers

namespace Twin

variable {core other : PatternCore}

theorem refl (core : PatternCore) : Twin core core := ⟨rfl, rfl⟩

theorem fetch_eq (h : Twin core other) (address : UInt16) :
    other.fetch address = core.fetch address := by
  rw [fetch, fetch, h.rom_eq]

theorem faultHere_eq (h : Twin core other) : other.faultHere = core.faultHere := by
  simp only [faultHere, h.registers_eq, h.fetch_eq]

theorem execute_eq (h : Twin core other) : other.execute = core.execute := by
  simp only [execute, nextPc, h.registers_eq, h.fetch_eq]

theorem window_eq (h : Twin core other) (size : Nat) : other.window size = core.window size := by
  simp only [window, h.registers_eq, h.fetch_eq]

theorem setButton (h : Twin core other) (write : ButtonWrite) : Twin core (other.setButton write) :=
  ⟨h.rom_eq, h.registers_eq⟩

theorem steps (h : Twin core other) (n : Nat) :
    (other.steps n).value.1 = (core.steps n).value.1 ∧
      Twin (core.steps n).value.2 (other.steps n).value.2 := by
  induction n generalizing core other with
  | zero => exact ⟨rfl, h⟩
  | succ n ih =>
    rw [value_steps_succ, value_steps_succ, h.faultHere_eq]
    cases core.faultHere with
    | some fault => exact ⟨rfl, h⟩
    | none => exact ih ⟨h.rom_eq, h.execute_eq⟩

/-- Finishing a frame touches its picture and its count only. -/
theorem finish (h : Twin core other) (stride : Stride) :
    Twin (PatternCore.finish stride core) (PatternCore.finish stride other) := by
  cases stride <;> exact ⟨h.rom_eq, h.registers_eq⟩

/-- Advances of twins fault alike and leave twins. -/
theorem advance (h : Twin core other) (stride : Stride) :
    (Core.advance stride other).value.1 = (Core.advance stride core).value.1 ∧
      Twin (Core.advance stride core).value.2 (Core.advance stride other).value.2 := by
  obtain ⟨same, twin⟩ := h.steps (instructions stride)
  rw [value_advance, value_advance, same]
  refine ⟨rfl, ?_⟩
  cases (core.steps (instructions stride)).value.1 with
  | some fault => exact twin
  | none => exact twin.finish stride

end Twin

end HandheldHost.PatternCore
