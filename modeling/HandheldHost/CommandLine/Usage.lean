import HandheldHost.CommandLine.Grammar
import HandheldHost.Playback
import HandheldHost.Text.Unsigned

/-!
# The command line of the host

`gbx-cli ROM COMMAND` runs a cartridge without a display.  Counts are read
in decimal, or in hexadecimal after `0x`.
-/

namespace HandheldHost.CommandLine

/-- What `run` is told. -/
structure RunOptions where
  ticks : Nat := 60
  paused : Bool := false
  /-- Show the debug panel at the end. -/
  debug : Bool := false
  /-- Write the debug view after every tick. -/
  ndjson : Bool := false
  /-- Buttons held during the whole run. -/
  presses : List Button := []
  /-- Where to write the final picture. -/
  dump : Option String := none
  /-- How much to enlarge it. -/
  scale : Nat := 1
  deriving DecidableEq, Repr

/-- What the command line asks for. -/
inductive Command where
  | run (options : RunOptions)
  | snapshot
  | memory (size : Nat)
  | step (count : Nat)
  | stepFrame
  deriving DecidableEq, Repr

/-- A command for a cartridge file. -/
structure Invocation where
  rom : String
  verbose : Bool
  command : Command
  deriving DecidableEq, Repr

/-- The largest memory window that can be asked for. -/
def maxWindow : Nat := 256

/-- Reads a 32-bit count. -/
def parseCount (text : String) : Except String Nat :=
  match text.toList with
  | '0' :: 'x' :: digits =>
    (Text.Unsigned.read 16 UInt32.size digits).mapError fun _ =>
      "invalid hex value '" ++ text ++ "'"
  | digits =>
    (Text.Unsigned.read 10 UInt32.size digits).mapError fun _ =>
      "invalid number '" ++ text ++ "'"

/-- Reads the size of a memory window. -/
def parseWindowSize (text : String) : Except String Nat := do
  let size ← parseCount text
  if maxWindow < size then
    .error ("window length " ++ toString size ++ " exceeds the maximum of " ++
      toString maxWindow ++ " bytes")
  else .ok size

/-- Reads the name of a button. -/
def parseButton (text : String) : Except String Button :=
  match Button.ofName? text with
  | some button => .ok button
  | none =>
    .error ("unknown button '" ++ text ++
      "' (expected up, down, left, right, a, b, start, select)")

/-- Reads a scale. -/
def parseScale (text : String) : Except String Nat :=
  (Text.Unsigned.read 10 UInt64.size text.toList).mapError Text.Unsigned.Defect.message

/-- What has been gathered from the arguments. -/
structure Draft where
  rom : Option String := none
  verbose : Bool := false
  options : RunOptions := {}
  size : Nat := 48
  count : Nat := 1

/-- Reads a value of an argument and stores it. -/
def storing (target : String) (parse : String → Except String α) (set : α → Draft → Draft)
    (text : String) (draft : Draft) : Except Halt Draft :=
  match parse text with
  | .ok a => .ok (set a draft)
  | .error reason => .error (.badValue text target (some reason))

/-- Stores a path; an empty one is no value at all. -/
def storingPath (set : String → Draft → Draft) (text : String) (draft : Draft) :
    Except Halt Draft :=
  if text.isEmpty then .error .misfit else .ok (set text draft)

/-- Stores the playback mode at the first tick. -/
def storeMode (text : String) (draft : Draft) : Except Halt Draft :=
  if text = "running" then .ok { draft with options := { draft.options with paused := false } }
  else if text = "paused" then
    .ok { draft with options := { draft.options with paused := true } }
  else if text.isEmpty then .error .misfit
  else .error (.badValue text "--mode <MODE>" none)

/-- Options that every command takes. -/
def sharedOptions : List (Setting Draft) :=
  [⟨"verbose", some 'v', false, .flag fun d => { d with verbose := true }⟩,
   ⟨"help", some 'h', false, .halt .help⟩]

/-- The arguments in front of the command. -/
def outerGrammar : Grammar Draft where
  options := ⟨"version", some 'V', false, .halt .version⟩ :: sharedOptions
  places := [storingPath fun path d => { d with rom := some path }]

/-- The arguments of `run`. -/
def runGrammar : Grammar Draft where
  options :=
    [⟨"ticks", some 't', false, .value (storing "--ticks <TICKS>" parseCount fun n d =>
        { d with options := { d.options with ticks := n } })⟩,
     ⟨"mode", some 'm', false, .value storeMode⟩,
     ⟨"debug", some 'd', false, .flag fun d =>
        { d with options := { d.options with debug := true } }⟩,
     ⟨"ndjson", none, false, .flag fun d =>
        { d with options := { d.options with ndjson := true } }⟩,
     ⟨"press", some 'p', true, .value (storing "--press <BUTTON>" parseButton fun button d =>
        { d with options := { d.options with presses := d.options.presses ++ [button] } })⟩,
     ⟨"dump", none, false, .value (storingPath fun path d =>
        { d with options := { d.options with dump := some path } })⟩,
     ⟨"scale", none, false, .value (storing "--scale <SCALE>" parseScale fun n d =>
        { d with options := { d.options with scale := n } })⟩] ++ sharedOptions
  places := []

/-- The arguments of a command that takes none of its own. -/
def plainGrammar : Grammar Draft where
  options := sharedOptions
  places := []

/-- The arguments of `mem`. -/
def memoryGrammar : Grammar Draft where
  options := sharedOptions
  places := [storing "[LEN]" parseWindowSize fun n d => { d with size := n }]

/-- The arguments of `step`. -/
def stepGrammar : Grammar Draft where
  options := sharedOptions
  places := [storing "[COUNT]" parseCount fun n d => { d with count := n }]

/-- The commands: their names, their arguments, and what they make of them. -/
def commands : List (String × Grammar Draft × (Draft → Command)) :=
  [("run", runGrammar, fun d => .run d.options),
   ("snapshot", plainGrammar, fun _ => .snapshot),
   ("mem", memoryGrammar, fun d => .memory d.size),
   ("step", stepGrammar, fun d => .step d.count),
   ("step-frame", plainGrammar, fun _ => .stepFrame)]

/-- Whether an argument ends the arguments in front of the command. -/
def isCommandName (argument : String) : Bool :=
  argument == "help" || commands.any fun c => c.1 == argument

/-- Reads all arguments of one grammar. -/
def readAll (g : Grammar Draft) (draft : Draft) (arguments : List String) :
    Except Halt Draft := do
  let (reading, _) ← Reading.takeUntil g (fun _ => false) { settings := draft } arguments
  return (← reading.settle).settings

/-- Reads the arguments of the host.  Those of the command are read to the
end before anything that is missing in front of it is missed. -/
def parse (arguments : List String) : Except Halt Invocation := do
  let (outer, command) ← Reading.takeUntil outerGrammar isCommandName { settings := {} } arguments
  match command with
  | none => .error .misfit
  | some (name, rest) =>
    match commands.find? fun c => c.1 == name with
    | none => .error .help
    | some (_, grammar, make) => do
      let inner ← readAll grammar {} rest
      let settled := (← outer.settle).settings
      match settled.rom with
      | none => .error .misfit
      | some rom =>
        .ok { rom, verbose := settled.verbose || inner.verbose, command := make inner }

end HandheldHost.CommandLine
