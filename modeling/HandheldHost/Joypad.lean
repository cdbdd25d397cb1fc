import HandheldHost.Button

/-!
# Which buttons are held

A `Joypad` is one flag per button.  Setting a flag changes that flag and no
other (`Joypad.isHeld_set`), so any set of buttons can be held together.
The hardware register is derived from it: directions in the high four bits,
actions in the low four, a cleared bit for every button that is held.
-/

namespace HandheldHost

/-- The buttons held down, one bit per button at its index. -/
structure Joypad where
  bits : BitVec 8 := 0#8
  deriving DecidableEq

namespace Joypad

instance : Inhabited Joypad := ⟨{}⟩

/-- The bit of one button. -/
def mask (button : Button) : BitVec 8 := 1#8 <<< button.index

/-- Presses or releases one button. -/
def set (pad : Joypad) (button : Button) (pressed : Bool) : Joypad :=
  ⟨if pressed then pad.bits ||| mask button else pad.bits &&& ~~~ mask button⟩

/-- Whether a button is held. -/
def isHeld (pad : Joypad) (button : Button) : Bool := pad.bits.getLsbD button.index

/-- The buttons held, in their fixed order. -/
def held (pad : Joypad) : List Button := Button.all.filter pad.isHeld

/-- The bit of the hardware register that a button clears. -/
def registerBit (button : Button) : Nat :=
  button.line + if button.isDirection then 4 else 0

/-- The hardware register: a bit is cleared while its button is held. -/
def register (pad : Joypad) : BitVec 8 :=
  pad.held.foldl (fun byte button => byte &&& ~~~ (1#8 <<< registerBit button)) 0xFF#8

theorem getLsbD_mask (button other : Button) :
    (mask button).getLsbD other.index = decide (other = button) := by
  cases button <;> cases other <;> rfl

@[simp] theorem isHeld_default (button : Button) : isHeld {} button = false := by
  simp [isHeld]

/-- Setting a button shows on that button alone. -/
theorem isHeld_set (pad : Joypad) (button : Button) (pressed : Bool) (other : Button) :
    (pad.set button pressed).isHeld other =
      if other = button then pressed else pad.isHeld other := by
  have bound := other.index_lt
  cases pressed <;>
    simp only [isHeld, set, Bool.false_eq_true, ↓reduceIte, BitVec.getLsbD_or,
      BitVec.getLsbD_and, BitVec.getLsbD_not, getLsbD_mask, bound] <;>
    by_cases same : other = button <;> simp [same]

end Joypad

end HandheldHost
