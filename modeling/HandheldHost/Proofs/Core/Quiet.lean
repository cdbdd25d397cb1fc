import HandheldHost.Core.Pattern
import HandheldHost.Core.Recorder

/-!
# Cores with quiet debug reads

A debug read returns a core of its own, so a core may notice being read.
`Core.Quiet` is the evidence that the rest of its behaviour does not: an
equivalence of cores that a read never leaves, and that every other
operation respects.

* `PatternCore.quiet` -- a pattern core notices nothing.
* `RecorderCore.quiet` -- a recorder core counts the reads, and that is all.
-/

namespace HandheldHost

namespace Core

/-- Cores that agree in all but what debug reads leave behind.  Such cores
look the same and fault alike, and stay in agreement whatever happens to
both of them and however often each is read. -/
structure Quiet (γ : Type) [Core γ] where
  same : γ → γ → Prop
  equivalence : Equivalence same
  registers_same : ∀ core : γ, same core (registers core).2
  window_same : ∀ (size : Nat) (core : γ), same core (window size core).2
  geometry_eq : ∀ {a b : γ}, same a b → geometry a = geometry b
  framebuffer_eq : ∀ {a b : γ}, same a b → framebuffer a = framebuffer b
  fault_eq : ∀ (stride : Stride) {a b : γ}, same a b →
    (advance stride a).value.1 = (advance stride b).value.1
  advance_same : ∀ (stride : Stride) {a b : γ}, same a b →
    same (advance stride a).value.2 (advance stride b).value.2
  setButton_same : ∀ (write : ButtonWrite) {a b : γ}, same a b →
    same (setButton write a) (setButton write b)

theorem Quiet.frame_eq {γ : Type} [Core γ] (quiet : Quiet γ) {a b : γ} (h : quiet.same a b) :
    frame a = frame b := by
  rw [frame, frame, quiet.framebuffer_eq h, quiet.geometry_eq h]

end Core

/-! ## The pattern core -/

/-- Pattern cores agree only if they are equal. -/
def PatternCore.quiet : Core.Quiet PatternCore where
  same := Eq
  equivalence := ⟨Eq.refl, Eq.symm, Eq.trans⟩
  registers_same _ := rfl
  window_same _ _ := rfl
  geometry_eq h := congrArg Core.geometry h
  framebuffer_eq h := congrArg Core.framebuffer h
  fault_eq stride _ _ h := congrArg (fun core => (Core.advance stride core).value.1) h
  advance_same stride _ _ h := congrArg (fun core => (Core.advance stride core).value.2) h
  setButton_same write _ _ h := congrArg (Core.setButton write) h

/-! ## The recorder core -/

namespace RecorderCore

/-- A recorder core as if nobody had read it. -/
def unread (core : RecorderCore) : RecorderCore :=
  { core with registerReads := 0, windowReads := 0 }

theorem unread_advance (stride : Stride) (core : RecorderCore) :
    core.unread.advance stride = ((core.advance stride).1, (core.advance stride).2.unread) := by
  cases stride with
  | frame =>
    by_cases faults : core.faultOnFrame = some (core.frameCalls + 1)
    · have faults' : core.unread.faultOnFrame = some (core.unread.frameCalls + 1) := faults
      simp only [advance, if_pos faults, if_pos faults']
      rfl
    · have faults' : ¬core.unread.faultOnFrame = some (core.unread.frameCalls + 1) := faults
      simp only [advance, if_neg faults, if_neg faults']
      rfl
  | instruction => rfl

theorem fault_eq_of_unread_eq (stride : Stride) {a b : RecorderCore} (h : a.unread = b.unread) :
    (a.advance stride).1 = (b.advance stride).1 := by
  have both := congrArg (fun core => (core.advance stride).1) h
  simpa only [unread_advance] using both

theorem unread_advance_eq (stride : Stride) {a b : RecorderCore} (h : a.unread = b.unread) :
    (a.advance stride).2.unread = (b.advance stride).2.unread := by
  have both := congrArg (fun core => (core.advance stride).2) h
  simpa only [unread_advance] using both

/-- Recorder cores agree if they differ in their counts of reads at most. -/
def quiet : Core.Quiet RecorderCore where
  same a b := a.unread = b.unread
  equivalence := ⟨fun _ => rfl, Eq.symm, Eq.trans⟩
  registers_same _ := rfl
  window_same _ _ := rfl
  geometry_eq {a b} h := show a.unread.geometry = b.unread.geometry by rw [h]
  framebuffer_eq {a b} h := show a.unread.frame = b.unread.frame by rw [h]
  fault_eq stride _ _ h := fault_eq_of_unread_eq stride h
  advance_same stride _ _ h := unread_advance_eq stride h
  setButton_same write _ _ h := congrArg (setButton write) h

end RecorderCore

/-- Bare cores agree if their recorders do. -/
def BareCore.quiet : Core.Quiet BareCore where
  same a b := RecorderCore.quiet.same a.recorder b.recorder
  equivalence :=
    ⟨fun _ => RecorderCore.quiet.equivalence.refl _, RecorderCore.quiet.equivalence.symm,
      RecorderCore.quiet.equivalence.trans⟩
  registers_same core := RecorderCore.quiet.registers_same core.recorder
  window_same size core := RecorderCore.quiet.window_same size core.recorder
  geometry_eq h := RecorderCore.quiet.geometry_eq h
  framebuffer_eq h := RecorderCore.quiet.framebuffer_eq h
  fault_eq stride _ _ h := RecorderCore.quiet.fault_eq stride h
  advance_same stride _ _ h := RecorderCore.quiet.advance_same stride h
  setButton_same write _ _ h := RecorderCore.quiet.setButton_same write h

end HandheldHost
