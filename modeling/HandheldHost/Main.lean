import HandheldHost.CommandLine.Execution
import HandheldHost.CommandLine.Report

/-!
# The program

Reads the arguments and the cartridge file, prints what a command prints,
and writes the final picture.  Everything else is decided elsewhere.
-/

open HandheldHost HandheldHost.CommandLine

/-- The wording of a file error with the given number. -/
def fileErrorText (number : UInt32) (e : IO.Error) : String :=
  let number := (min number (0 - number)).toNat
  match FileFault.all.find? fun fault => fault.number? == some number with
  | some fault => fault.message
  | none => toString e

/-- The wording of an error. -/
def errorText (e : IO.Error) : String :=
  match e with
  | .noFileOrDirectory _ number _ | .inappropriateType _ number _
  | .invalidArgument _ number _ | .permissionDenied _ number _ | .noSuchThing _ number _
  | .resourceExhausted _ number _ | .otherError number _ => fileErrorText number e
  | _ => toString e

/-- Runs a file operation and words its failure. -/
def tryFile (operation : IO α) : IO (Except String α) := do
  try return .ok (← operation)
  catch e => return .error (errorText e)

/-- Writes log lines. -/
def writeLog (events : List Event) : IO Unit :=
  events.forM fun e => IO.eprintln e.line

/-- Writes the end of a command; gives the exit code. -/
def conclude (conclusion : Conclusion) : IO UInt32 := do
  writeLog conclusion.events
  match conclusion.value with
  | none => return 0
  | some failure => do
    IO.eprintln failure.text
    return 1

/-- The usage of the program. -/
def usageText : String :=
  "Usage: gbx-cli [OPTIONS] <ROM> <COMMAND>\n\nCommands: run, snapshot, mem, step, step-frame\n"

def main (arguments : List String) : IO UInt32 := do
  match parse arguments with
  | .error .version => do
    IO.print versionText
    return 0
  | .error .help => do
    IO.print usageText
    return 0
  | .error halt => do
    IO.eprint (halt.report?.getD ("error: unexpected arguments\n\n" ++ usageText))
    return 2
  | .ok invocation => do
    let rom ← tryFile (IO.FS.readBinFile invocation.rom)
    let execution := invocation.execute (rom.map ByteArray.data)
    writeLog execution.events
    IO.print execution.output
    match execution.ending with
    | .concluded conclusion => conclude conclusion
    | .writing path bytes resume => do
      let result ← tryFile (IO.FS.writeBinFile path ⟨bytes⟩)
      conclude (resume result)
