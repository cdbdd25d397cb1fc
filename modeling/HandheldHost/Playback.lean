import HandheldHost.Button

/-!
# The vocabulary of playback

A host drives its core in one of four modes.  People change the mode, the
debug switch and the buttons with requests; a tick advances the core by at
most one stride and is summed up by an outcome.
-/

namespace HandheldHost

/-- How far a core advances at once. -/
inductive Stride where
  /-- Until one display frame is complete. -/
  | frame
  /-- By exactly one instruction. -/
  | instruction
  deriving DecidableEq, Repr

/-- The label shown in logs. -/
def Stride.label : Stride → String
  | .frame => "Frame"
  | .instruction => "Instruction"

/-- What a tick does with the core. -/
inductive Mode where
  /-- A frame on every tick. -/
  | running
  /-- Nothing. -/
  | paused
  /-- One frame on the next tick, then a pause. -/
  | stepFrame
  /-- One instruction on the next tick, then a pause. -/
  | stepInstruction
  deriving DecidableEq, Repr

/-- The label shown in logs and summaries. -/
def Mode.label : Mode → String
  | .running => "Running"
  | .paused => "Paused"
  | .stepFrame => "StepFrame"
  | .stepInstruction => "StepInstruction"

/-- What a person at a host can ask for. -/
inductive Request where
  /-- Pause when running, run otherwise. -/
  | togglePause
  | setPaused (paused : Bool)
  /-- One frame on the next tick. -/
  | stepFrame
  /-- One instruction on the next tick. -/
  | stepInstruction
  | toggleDebug
  | setDebug (on : Bool)
  /-- A change of a logical button. -/
  | button (button : Button) (pressed : Bool)
  /-- A change of a physical key, bound to a button by the key table. -/
  | key (code : UInt32) (pressed : Bool)
  deriving DecidableEq, Repr

/-- A button change that the core has to be told. -/
structure ButtonWrite where
  button : Button
  pressed : Bool
  deriving DecidableEq, Repr

/-- What one tick did. -/
structure Outcome where
  /-- The number of the tick, from one. -/
  tick : Nat
  /-- The advance that was completed, if any. -/
  advanced : Option Stride
  /-- Whether a fault was reported. -/
  faulted : Bool
  /-- Whether the debug view was refreshed. -/
  debugRefreshed : Bool
  deriving DecidableEq, Repr

/-- An advance that may not have happened, as logs show it. -/
def Stride.optionText : Option Stride → String
  | none => "None"
  | some stride => "Some(" ++ stride.label ++ ")"

/-- An outcome as logs show it. -/
def Outcome.text (o : Outcome) : String :=
  "TickOutcome \x7b tick: " ++ toString o.tick ++ ", advanced: " ++
    Stride.optionText o.advanced ++ ", faulted: " ++ toString o.faulted ++
    ", debug_refreshed: " ++ toString o.debugRefreshed ++ " \x7d"

end HandheldHost
