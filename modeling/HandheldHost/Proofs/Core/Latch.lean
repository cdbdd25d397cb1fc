import HandheldHost.Core.Recorder
import HandheldHost.Joypad
import HandheldHost.Proofs.Core.Pattern
import Mathlib.Logic.Function.Basic

/-!
# What button writes leave behind

Button writes are kept in three places and in three shapes: as bits, as a
row of flags, and as a log.  What they have in common is `ButtonWrite.last`,
the value last written to each button.

A `Core.Latch` is a reading of a core that depends on nothing but the writes
made to it: it says what a write does to the reading, and that no advance and
no debug read does anything to it.

* `Core.Latch.read_movedBy` -- a latch after any moves.
* `PatternCore.flags`, `RecorderCore.flags` -- the buttons that a core holds.
* `RecorderCore.log` -- every write, in order.
-/

namespace HandheldHost

/-! ## Last writes -/

namespace ButtonWrite

/-- The flags after one more write: that of the button written to is the
value written, every other is as it was. -/
def apply (write : ButtonWrite) (flags : Button → Bool) : Button → Bool :=
  Function.update flags write.button write.pressed

/-- The value last written to a button.  A button that was never written to
is released. -/
def last (writes : List ButtonWrite) (button : Button) : Bool :=
  (writes.reverse.find? fun write => write.button = button).any pressed

theorem last_append_singleton (writes : List ButtonWrite) (write : ButtonWrite) :
    last (writes ++ [write]) = write.apply (last writes) := by
  funext button
  rw [last, List.reverse_append, List.reverse_singleton, List.singleton_append, List.find?_cons,
    apply]
  by_cases same : write.button = button
  · subst same
    simp
  · rw [Function.update_of_ne (Ne.symm same), decide_eq_false same]
    rfl

/-- Carrying out writes in order leaves the last of each button. -/
theorem foldl_apply (writes : List ButtonWrite) :
    writes.foldl (fun flags write => write.apply flags) (fun _ => false) = last writes := by
  induction writes using List.reverseRecOn with
  | nil => rfl
  | append_singleton writes write ih =>
    rw [List.foldl_append, ih, last_append_singleton]
    rfl

/-- A row of flags, one for each button, after a write. -/
theorem get_setIfInBounds (held : Vector Bool 8) (write : ButtonWrite) :
    (fun button => (held.setIfInBounds write.button.index write.pressed).get button.slot) =
      write.apply fun button => held.get button.slot := by
  funext button
  have within := button.index_lt
  show (held.setIfInBounds write.button.index write.pressed)[button.index] = _
  rw [Vector.getElem_setIfInBounds within, apply]
  by_cases same : button = write.button
  · subst same
    simp
  · rw [Function.update_of_ne same, if_neg]
    · rfl
    · exact fun indices => same (Button.index_injective indices.symm)

end ButtonWrite

/-- The bits of a joypad after a write. -/
theorem Joypad.isHeld_set_eq_apply (pad : Joypad) (write : ButtonWrite) :
    (pad.set write.button write.pressed).isHeld = write.apply pad.isHeld := by
  funext button
  rw [isHeld_set, ButtonWrite.apply, Function.update_apply]

/-! ## Latches -/

namespace Core

/-- A reading of a core that button writes change, each in its way, and
nothing else that a host does. -/
structure Latch (γ α : Type) [Core γ] where
  read : γ → α
  write : ButtonWrite → α → α
  read_setButton : ∀ (w : ButtonWrite) (core : γ), read (setButton w core) = write w (read core)
  read_advance : ∀ (stride : Stride) (core : γ), read (advance stride core).value.2 = read core
  read_registers : ∀ core : γ, read (registers core).2 = read core
  read_window : ∀ (size : Nat) (core : γ), read (window size core).2 = read core

/-- The button write that a move makes. -/
def Move.write? : Move → Option ButtonWrite
  | .write w => some w
  | .advance _ => none

/-- The button writes among moves, in order. -/
def Move.writes (moves : List Move) : List ButtonWrite := moves.filterMap Move.write?

/-- A latch after moves is what the writes among them have made of it. -/
theorem Latch.read_movedBy {γ α : Type} [Core γ] (latch : Latch γ α) (core : γ)
    (moves : List Move) :
    latch.read (movedBy core moves) =
      (Move.writes moves).foldl (fun a w => latch.write w a) (latch.read core) := by
  induction moves using List.reverseRecOn with
  | nil => rfl
  | append_singleton moves move ih =>
    rw [movedBy_append_singleton, Move.writes, List.filterMap_append, List.foldl_append,
      ← Move.writes, ← ih]
    cases move with
    | write write => exact latch.read_setButton write _
    | advance stride => exact latch.read_advance stride _

/-- The buttons of a core after a write. -/
theorem Latch.flags_setButton {γ : Type} [Core γ] (latch : Latch γ (Button → Bool))
    (flags : latch.write = ButtonWrite.apply) (write : ButtonWrite) (core : γ) (other : Button) :
    latch.read (setButton write core) other =
      if other = write.button then write.pressed else latch.read core other := by
  rw [latch.read_setButton, flags, ButtonWrite.apply, Function.update_apply]

end Core

/-- The buttons that a pattern core holds. -/
def PatternCore.flags : Core.Latch PatternCore (Button → Bool) where
  read := isHeld
  write := ButtonWrite.apply
  read_setButton w core := ButtonWrite.get_setIfInBounds core.held w
  read_advance stride core :=
    advance_induction (P := fun left => left.isHeld = core.isHeld) stride (fun _ => rfl)
      fun _ same => same
  read_registers _ := rfl
  read_window _ _ := rfl

/-- The buttons that a core holds after moves. -/
theorem PatternCore.isHeld_movedBy (rom : Bytes) (moves : List Core.Move) :
    (Core.movedBy (boot rom) moves).isHeld = ButtonWrite.last (Core.Move.writes moves) := by
  have released : (boot rom).isHeld = fun _ => false := by
    funext button
    cases button <;> rfl
  rw [← ButtonWrite.foldl_apply, ← released]
  exact flags.read_movedBy (boot rom) moves

namespace RecorderCore

/-- An advance of a recorder core leaves its buttons and its log alone. -/
theorem advance_kept (stride : Stride) (core : RecorderCore) :
    (core.advance stride).2.held = core.held ∧ (core.advance stride).2.writes = core.writes := by
  cases stride with
  | instruction => exact ⟨rfl, rfl⟩
  | frame =>
    rw [advance]
    split <;> exact ⟨rfl, rfl⟩

/-- The buttons that a recorder core holds. -/
def flags : Core.Latch RecorderCore (Button → Bool) where
  read := isHeld
  write := ButtonWrite.apply
  read_setButton w core := ButtonWrite.get_setIfInBounds core.held w
  read_advance stride core :=
    congrArg (fun (held : Vector Bool 8) (button : Button) => held.get button.slot)
      (core.advance_kept stride).1
  read_registers _ := rfl
  read_window _ _ := rfl

/-- The log of a recorder core. -/
def log : Core.Latch RecorderCore (List ButtonWrite) where
  read := writes
  write w writes := writes ++ [w]
  read_setButton _ _ := rfl
  read_advance stride core := (core.advance_kept stride).2
  read_registers _ := rfl
  read_window _ _ := rfl

theorem foldl_log (more : List ButtonWrite) :
    more.foldl (fun writes w => log.write w writes) [] = more := by
  induction more using List.reverseRecOn with
  | nil => rfl
  | append_singleton more w ih =>
    rw [List.foldl_append, ih]
    rfl

end RecorderCore

end HandheldHost
