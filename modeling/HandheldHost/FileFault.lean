/-!
# Faults of files

Why a file could not be read or written, in the words and with the number of
the system.
-/

namespace HandheldHost

/-- Why a file could not be used. -/
inductive FileFault where
  | notPermitted
  | missing
  | inputOutput
  | noTerminal
  | permissionDenied
  | notDirectory
  | isDirectory
  | invalidArgument
  | textBusy
  | noSpace
  | nameTooLong
  | outOfMemory
  deriving DecidableEq, Repr

namespace FileFault

def all : List FileFault :=
  [notPermitted, missing, inputOutput, noTerminal, permissionDenied, notDirectory, isDirectory,
   invalidArgument, textBusy, noSpace, nameTooLong, outOfMemory]

/-- The number that the system gives the fault. -/
def number? : FileFault → Option Nat
  | notPermitted => some 1
  | missing => some 2
  | inputOutput => some 5
  | noTerminal => some 6
  | permissionDenied => some 13
  | notDirectory => some 20
  | isDirectory => some 21
  | invalidArgument => some 22
  | textBusy => some 26
  | noSpace => some 28
  | nameTooLong => some 36
  | outOfMemory => none

def words : FileFault → String
  | notPermitted => "Operation not permitted"
  | missing => "No such file or directory"
  | inputOutput => "Input/output error"
  | noTerminal => "No such device or address"
  | permissionDenied => "Permission denied"
  | notDirectory => "Not a directory"
  | isDirectory => "Is a directory"
  | invalidArgument => "Invalid argument"
  | textBusy => "Text file busy"
  | noSpace => "No space left on device"
  | nameTooLong => "File name too long"
  | outOfMemory => "out of memory"

/-- What the user is told about a file that could not be used. -/
def message (fault : FileFault) : String :=
  fault.words ++
    match fault.number? with
    | none => ""
    | some n => " (os error " ++ toString n ++ ")"

end FileFault

end HandheldHost
