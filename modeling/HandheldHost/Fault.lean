import HandheldHost.Text.Hex

/-!
# What can go wrong in a core

A core refuses a cartridge with a `CartridgeError` and stops advancing with
a `Fault`.  Both are values; their wording is one function each.
-/

namespace HandheldHost

/-- Why a cartridge image was refused. -/
inductive CartridgeError where
  /-- The image holds no octet. -/
  | empty
  /-- The image is shorter than the least one that makes sense. -/
  | tooSmall (size least : Nat)
  /-- The core had a reason of its own. -/
  | rejected (reason : String)
  deriving DecidableEq, Repr

/-- The wording of a refusal. -/
def CartridgeError.message : CartridgeError → String
  | .empty => "cartridge image is empty"
  | .tooSmall size least =>
    "cartridge image too small (" ++ toString size ++ " bytes, need at least " ++
      toString least ++ ")"
  | .rejected reason => "cartridge rejected: " ++ reason

/-- A fault that ended an advance, with the program counter when known. -/
structure Fault where
  message : String
  pc : Option UInt16 := none
  deriving DecidableEq, Repr

/-- The wording of a fault. -/
def Fault.text (fault : Fault) : String :=
  match fault.pc with
  | none => "core fault: " ++ fault.message
  | some pc => "core fault at PC=" ++ Text.Hex.word pc ++ ": " ++ fault.message

end HandheldHost
