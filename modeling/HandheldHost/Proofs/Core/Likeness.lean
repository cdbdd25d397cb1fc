import HandheldHost.Proofs.Core.Latch

/-!
# Cores that are alike

Two cores may differ in something that a host never gets to see.  A
`Core.Likeness` is the evidence that they do: an equivalence of cores that every
operation respects and no observation can tell apart, debug reads included.

* `Core.Likeness.ofEq` -- equality is one; of a pattern core everything shows in the end
  (`PatternCore.likeness`).
* `RecorderCore.likeness` -- the log of a recorder core does not: nothing but the
  order of the writes to each single button is asked for.
-/

namespace HandheldHost

namespace Core

/-- Cores that look the same and stay so, whatever is done to both of them. -/
structure Likeness (γ : Type) [Core γ] where
  alike : γ → γ → Prop
  equivalence : Equivalence alike
  geometry_eq : ∀ {a b : γ}, alike a b → geometry a = geometry b
  framebuffer_eq : ∀ {a b : γ}, alike a b → framebuffer a = framebuffer b
  fault_eq : ∀ (stride : Stride) {a b : γ}, alike a b →
    (advance stride a).value.1 = (advance stride b).value.1
  registers_eq : ∀ {a b : γ}, alike a b → (registers a).1 = (registers b).1
  window_eq : ∀ (size : Nat) {a b : γ}, alike a b → (window size a).1 = (window size b).1
  windowBase_eq : ∀ {a b : γ}, alike a b → windowBase a = windowBase b
  advance_alike : ∀ (stride : Stride) {a b : γ}, alike a b →
    alike (advance stride a).value.2 (advance stride b).value.2
  setButton_alike : ∀ (write : ButtonWrite) {a b : γ}, alike a b →
    alike (setButton write a) (setButton write b)
  registers_alike : ∀ {a b : γ}, alike a b → alike (registers a).2 (registers b).2
  window_alike : ∀ (size : Nat) {a b : γ}, alike a b →
    alike (window size a).2 (window size b).2

/-- Equal cores are alike. -/
def Likeness.ofEq (γ : Type) [Core γ] : Likeness γ where
  alike := Eq
  equivalence := ⟨Eq.refl, Eq.symm, Eq.trans⟩
  geometry_eq h := congrArg geometry h
  framebuffer_eq h := congrArg framebuffer h
  fault_eq stride _ _ h := congrArg (fun core => (advance stride core).value.1) h
  registers_eq h := congrArg (fun core => (registers core).1) h
  window_eq size _ _ h := congrArg (fun core => (window size core).1) h
  windowBase_eq h := congrArg windowBase h
  advance_alike stride _ _ h := congrArg (fun core => (advance stride core).value.2) h
  setButton_alike write _ _ h := congrArg (setButton write) h
  registers_alike h := congrArg (fun core => (registers core).2) h
  window_alike size _ _ h := congrArg (fun core => (window size core).2) h

/-- Writes to different buttons may come in either order. -/
def Likeness.WritesCommute {γ : Type} [Core γ] (likeness : Likeness γ) : Prop :=
  ∀ (core : γ) (first second : ButtonWrite), first.button ≠ second.button →
    likeness.alike (setButton second (setButton first core))
      (setButton first (setButton second core))

end Core

/-- In a row of flags, writes to different buttons change different flags. -/
theorem ButtonWrite.setIfInBounds_comm (held : Vector Bool 8) {first second : ButtonWrite}
    (apart : first.button ≠ second.button) :
    (held.setIfInBounds first.button.index first.pressed).setIfInBounds second.button.index
        second.pressed =
      (held.setIfInBounds second.button.index second.pressed).setIfInBounds first.button.index
        first.pressed := by
  apply Vector.ext
  intro i within
  have places : first.button.index ≠ second.button.index :=
    fun same => apart (Button.index_injective same)
  simp only [Vector.getElem_setIfInBounds within]
  by_cases here : second.button.index = i
  · rw [if_pos here, if_neg (here ▸ places), if_pos here]
  · rw [if_neg here, if_neg here]

/-! ## The pattern core -/

namespace PatternCore

/-- Pattern cores are alike only if they are equal. -/
def likeness : Core.Likeness PatternCore := .ofEq PatternCore

theorem writesCommute : likeness.WritesCommute := by
  intro core first second apart
  exact congrArg (fun held => { core with held })
    (ButtonWrite.setIfInBounds_comm core.held apart)

end PatternCore

/-! ## The recorder core -/

namespace RecorderCore

/-- Two recorder cores that are the same but for their logs, and whose logs hold
the same writes to each button in the same order. -/
structure Reordered (a b : RecorderCore) : Prop where
  log : ∀ button, a.writes.filter (fun write => write.button = button) =
    b.writes.filter fun write => write.button = button
  rest : { a with writes := b.writes } = b

namespace Reordered

variable {a b c : RecorderCore}

theorem refl (core : RecorderCore) : Reordered core core := ⟨fun _ => rfl, rfl⟩

theorem symm (h : Reordered a b) : Reordered b a := by
  refine ⟨fun button => (h.log button).symm, ?_⟩
  rw [← h.rest]

theorem trans (h : Reordered a b) (h' : Reordered b c) : Reordered a c := by
  refine ⟨fun button => (h.log button).trans (h'.log button), ?_⟩
  rw [← h'.rest, ← h.rest]

theorem setButton (h : Reordered a b) (write : ButtonWrite) :
    Reordered (a.setButton write) (b.setButton write) := by
  refine ⟨fun button => ?_, ?_⟩
  · show (a.writes ++ [write]).filter _ = (b.writes ++ [write]).filter _
    rw [List.filter_append, List.filter_append, h.log button]
  · rw [← h.rest]
    rfl

end Reordered

/-- No advance depends on the log. -/
theorem advance_of_writes (stride : Stride) (core : RecorderCore) (writes : List ButtonWrite) :
    advance stride { core with writes } =
      ((advance stride core).1, { (advance stride core).2 with writes }) := by
  cases stride with
  | instruction => rfl
  | frame =>
    by_cases faults : core.faultOnFrame = some (core.frameCalls + 1)
    · simp only [advance, if_pos faults]
    · simp only [advance, if_neg faults]
      rfl

theorem Reordered.advance {a b : RecorderCore} (h : Reordered a b) (stride : Stride) :
    (a.advance stride).1 = (b.advance stride).1 ∧
      Reordered (a.advance stride).2 (b.advance stride).2 := by
  have left := advance_of_writes stride a b.writes
  rw [h.rest] at left
  refine ⟨by rw [left], fun button => ?_, ?_⟩
  · rw [(a.advance_kept stride).2, (b.advance_kept stride).2, h.log button]
  · rw [(b.advance_kept stride).2, left]

/-- Recorder cores are alike if their logs are reordered at most. -/
def likeness : Core.Likeness RecorderCore where
  alike := Reordered
  equivalence := ⟨.refl, .symm, .trans⟩
  geometry_eq h := h.rest ▸ rfl
  framebuffer_eq h := h.rest ▸ rfl
  fault_eq stride _ _ h := (h.advance stride).1
  registers_eq h := h.rest ▸ rfl
  window_eq _ _ _ h := h.rest ▸ rfl
  windowBase_eq _ := rfl
  advance_alike stride _ _ h := (h.advance stride).2
  setButton_alike write _ _ h := h.setButton write
  registers_alike h := ⟨h.log, by rw [← h.rest]; rfl⟩
  window_alike _ _ _ h := ⟨h.log, by rw [← h.rest]; rfl⟩

theorem writesCommute : likeness.WritesCommute := by
  intro core first second apart
  refine ⟨fun button => ?_, ?_⟩
  · -- At most one of the two writes is to the button, so no order is lost.
    show ((core.writes ++ [first]) ++ [second]).filter _ =
      ((core.writes ++ [second]) ++ [first]).filter _
    by_cases one : first.button = button
    · have other : second.button ≠ button := fun h => apart (one.trans h.symm)
      simp [one, other]
    · simp [one, List.filter_cons]
  · exact congrArg
      (fun held => { core with held, writes := (core.writes ++ [second]) ++ [first] })
      (ButtonWrite.setIfInBounds_comm core.held apart)

end RecorderCore

end HandheldHost
