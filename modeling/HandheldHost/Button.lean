import HandheldHost.Text.Blank

/-!
# The eight buttons

A handheld has four directions and four actions.  The buttons have a fixed
order, a lower-case name that people type and a label that logs show, and
each drives one line of the joypad register: directions and actions share
the four lines, so a line alone does not tell the button.
-/

namespace HandheldHost

/-- The logical buttons of a handheld. -/
inductive Button where
  | up
  | down
  | left
  | right
  | a
  | b
  | start
  | select
  deriving DecidableEq, Repr

namespace Button

/-- Every button, in order. -/
def all : List Button := [up, down, left, right, a, b, start, select]

/-- The place of a button in `all`. -/
def index : Button → Nat
  | up => 0
  | down => 1
  | left => 2
  | right => 3
  | a => 4
  | b => 5
  | start => 6
  | select => 7

/-- The name people type. -/
def name : Button → String
  | up => "up"
  | down => "down"
  | left => "left"
  | right => "right"
  | a => "a"
  | b => "b"
  | start => "start"
  | select => "select"

/-- The label shown in logs. -/
def label : Button → String
  | up => "Up"
  | down => "Down"
  | left => "Left"
  | right => "Right"
  | a => "A"
  | b => "B"
  | start => "Start"
  | select => "Select"

/-- The button that a typed name means: white space around the name and
the case of its ASCII letters do not count. -/
def ofName? (typed : String) : Option Button :=
  all.find? fun button => Text.sameLetters button.name.toList (Text.trim typed.toList)

/-- Whether the button is one of the four directions. -/
def isDirection : Button → Bool
  | up | down | left | right => true
  | a | b | start | select => false

/-- The register line a button drives. -/
def line : Button → Nat
  | right | a => 0
  | left | b => 1
  | up | select => 2
  | down | start => 3

/-- Puts buttons into their fixed order. -/
def sort (buttons : List Button) : List Button :=
  buttons.mergeSort fun x y => x.index ≤ y.index

theorem mem_all (button : Button) : button ∈ all := by cases button <;> decide

theorem index_lt (button : Button) : button.index < 8 := by cases button <;> decide

/-- The index of a button among eight places. -/
def slot (button : Button) : Fin 8 := ⟨button.index, button.index_lt⟩

theorem all_getElem?_index (button : Button) : all[button.index]? = some button := by
  cases button <;> rfl

theorem index_injective {x y : Button} (h : x.index = y.index) : x = y := by
  have hx := all_getElem?_index x
  rw [h, all_getElem?_index y] at hx
  exact (Option.some.inj hx).symm

end Button

end HandheldHost
