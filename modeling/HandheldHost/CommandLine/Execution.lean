import HandheldHost.CommandLine.Usage
import HandheldHost.Core.Pattern
import HandheldHost.Directory
import HandheldHost.Inspection.Line
import HandheldHost.Pixmap
import HandheldHost.Session
import HandheldHost.Text.Octets
import HandheldHost.Text.Quoted

/-!
# Carrying out a command

A command starts a session from the octets of its cartridge file, plays,
and prints.  What it does is a value: the text for standard output, the
events for the log, and how it ends.  Only reading the cartridge and writing
the final picture touch the file system; their results are given from
outside.
-/

namespace HandheldHost.CommandLine

/-- A failure, and what caused it, the nearest cause first. -/
structure Failure where
  message : String
  causes : List String := []
  deriving DecidableEq, Repr

/-- The causes with their numbers. -/
def Failure.numbered (i : Nat) : List String → String
  | [] => ""
  | cause :: causes => "\n    " ++ toString i ++ ": " ++ cause ++ numbered (i + 1) causes

/-- What the user is told about a failure. -/
def Failure.text (failure : Failure) : String :=
  "Error: " ++ failure.message ++
    match failure.causes with
    | [] => ""
    | [cause] => "\n\nCaused by:\n    " ++ cause
    | causes => "\n\nCaused by:" ++ numbered 0 causes

/-- How a command ends once nothing is left to be done. -/
abbrev Conclusion := Logged (Option Failure)

/-- How a command goes on after it has played. -/
inductive Ending where
  | concluded (conclusion : Conclusion)
  /-- A file has to be written; the conclusion depends on the result. -/
  | writing (path : String) (bytes : Bytes) (resume : Except String Unit → Conclusion)

/-- What a command prints, logs and leaves to be done. -/
structure Execution where
  output : String
  events : List Event
  ending : Ending

/-- The player of the command line. -/
abbrev HostPlayer := Player PatternCore JournalSink

/-- How the player of a command starts. -/
def Command.config : Command → PlayerConfig
  | .run o =>
    { mode := if o.paused then .paused else .running, debug := o.debug || o.ndjson }
  | .memory size => { windowSize := size, mode := .paused, debug := true }
  | .snapshot | .step _ | .stepFrame => { mode := .paused, debug := true }

/-- Carries out button presses. -/
def pressAll (player : HostPlayer) : List Button → Logged HostPlayer
  | [] => pure player
  | button :: buttons => do
    let player ← player.request (.button button true)
    pressAll player buttons

/-- What is logged about a tick. -/
def tickEvent (outcome : Outcome) : Event :=
  if outcome.faulted then .runFaulted outcome.tick
  else .runTicked outcome.tick outcome.advanced

/-- Ticks `n` times; gives what `print` says of the player after every tick. -/
def tickAll (threshold : Level) (print : HostPlayer → String) (player : HostPlayer)
    (clock : Clock) : Nat → Logged (List String × HostPlayer)
  | 0 => pure ([], player)
  | n + 1 => do
    let (line, player) ← Logged.keep threshold do
      let (outcome, player) ← player.tick clock.take.1
      Logged.log (tickEvent outcome)
      pure (print player, player)
    let (lines, player) ← tickAll threshold print player clock.take.2 n
    pure (line :: lines, player)

/-- Steps up to `n` instructions, stopping when one is not completed; gives
how many were, counted with 32 bits and a sign. -/
def stepAll (threshold : Level) (player : HostPlayer) (clock : Clock) :
    Nat → Logged (Int32 × HostPlayer)
  | 0 => pure (0, player)
  | n + 1 => do
    let (advanced, player) ← Logged.keep threshold do
      let player ← player.request .stepInstruction
      let (outcome, player) ← player.tick clock.take.1
      pure (outcome.advanced, player)
    match advanced with
    | none => pure (0, player)
    | some _ => do
      let (stepped, player) ← stepAll threshold player clock.take.2 n
      pure (stepped + 1, player)

/-- The counters, the mode and the last fault. -/
def summary (deck : Deck) : String :=
  "ticks=" ++ toString deck.counters.ticks.val ++ " frames=" ++
    toString deck.counters.frames.val ++ " instructions=" ++
    toString deck.counters.instructions.val ++ " mode=" ++ deck.mode.label ++ "\n" ++
    match deck.lastFault with
    | none => ""
    | some fault => fault.text ++ "\n"

/-- Plays a command; gives what it prints. -/
def Command.play (threshold : Level) (player : HostPlayer) :
    Command → Logged (String × HostPlayer)
  | .run o => do
    let player ← pressAll player o.presses
    let print := fun (p : HostPlayer) => if o.ndjson then p.deck.inspection.line else ""
    let (lines, player) ← tickAll threshold print player {} o.ticks
    let panel := if o.debug then player.debugPanel else ""
    pure (String.join lines ++ summary player.deck ++ panel, player)
  | .snapshot => do
    let (_, player) ← player.tick 0.0
    pure (player.debugPanel, player)
  | .memory _ => do
    let (_, player) ← player.tick 0.0
    let window := player.deck.inspection.window
    pure (Hexdump.render window.base window.bytes, player)
  | .step count => do
    let (stepped, player) ← stepAll threshold player {} count
    pure ("Stepped " ++ toString stepped ++ " instruction(s) -> PC=" ++
      Text.Hex.word player.deck.inspection.registers.pc ++ "\n" ++ player.debugPanel, player)
  | .stepFrame => do
    let player ← player.request .stepFrame
    let (_, player) ← player.tick 0.0
    pure ("Advanced one frame -> PC=" ++ Text.Hex.word player.deck.inspection.registers.pc ++
      "\n" ++ player.debugPanel, player)

/-- The session of the command line. -/
abbrev HostSession := Session PatternCore JournalSink

/-- Ends a session that is no longer needed. -/
def finish (session : HostSession) : Conclusion := do
  let (parts, _) ← session.shutdown
  pure (if parts.isSome then none else some { message := "session was already shut down" })

/-- Ends a session because of a failure. -/
def giveUp (session : HostSession) (failure : Failure) : Conclusion := do
  let _ ← session.drop
  pure (some failure)

/-- What is left to be done after a command has played: the final picture
may have to be written. -/
def Command.conclude (session : HostSession) (screen : Screen) : Command → Ending
  | .run { dump := some path, scale, .. } =>
    if scale = 0 then
      .concluded (giveUp session { message := "--scale must be at least 1" })
    else if screen.presents = 0 then
      .concluded (giveUp session { message := "nothing has been rendered yet" })
    else
      let quoted := Text.Quoted.quote path
      .writing path (Pixmap.encode screen.pixels screen.width screen.height scale) fun
        | .error reason =>
          giveUp session
            { message := "failed to write surface dump " ++ quoted, causes := [reason] }
        | .ok () => do
          Logged.log (.pictureWritten (screen.width * scale) (screen.height * scale) quoted)
          finish session
  | _ => .concluded (finish session)

/-- Carries out an invocation on the octets of its cartridge file. -/
def Invocation.execute (i : Invocation) (rom : Except String Bytes) : Execution :=
  let threshold := if i.verbose then Level.debug else Level.warn
  let run : Logged (String × Ending) := do
    match rom with
    | .error reason =>
      let message := "failed to read ROM " ++ Text.Quoted.quote i.rom
      pure ("", .concluded (pure (some { message, causes := [reason] })))
    | .ok bytes =>
      match ← (Session.create bytes default i.command.config :
          Logged (Except SessionError HostSession)) with
      | .error e =>
        let causes :=
          match e with
          | .cartridge reason => [e.message, reason.message]
          | .shutDown => [e.message]
        pure ("", .concluded (pure (some { message := "failed to start session", causes })))
      | .ok session => do
        let (played, session) ← session.withPlayer fun player => do
          let (output, player) ← i.command.play threshold player
          pure ((output, player.screen), player)
        match played with
        | .error e => pure ("", .concluded (pure (some { message := e.message })))
        | .ok (output, screen) => pure (output, i.command.conclude session screen)
  ⟨run.value.1, run.events.filter (Event.isAtLeast threshold),
    match run.value.2 with
    | .concluded conclusion => .concluded (Logged.keep threshold conclusion)
    | .writing path bytes resume =>
      .writing path bytes fun result => Logged.keep threshold (resume result)⟩

/-- What an invocation has done. -/
structure Completion where
  /-- The standard output, as it is shown. -/
  output : String
  events : List Event
  failure : Option Failure
  directory : Directory

/-- What is shown on the standard error output besides the log. -/
def Completion.message (c : Completion) : String :=
  Text.Octets.shown c.directory.errors ++
    match c.failure with
    | none => ""
    | some failure => failure.text ++ "\n"

/-- Carries out an invocation in a directory. -/
def Invocation.completeIn (i : Invocation) (d : Directory) : Completion :=
  let execution := i.execute ((d.read i.rom).mapError FileFault.message)
  let ended (conclusion : Conclusion) (d : Directory) : Completion :=
    { output := execution.output ++ Text.Octets.shown d.output
      events := execution.events ++ conclusion.events
      failure := conclusion.value
      directory := d }
  match execution.ending with
  | .concluded conclusion => ended conclusion d
  | .writing path bytes resume =>
    match d.write path bytes with
    | .ok written => ended (resume (.ok ())) written
    | .error fault => ended (resume (.error fault.message)) d

/-- The program's name and version. -/
def versionText : String := "gbx-cli 0.1.0\n"

end HandheldHost.CommandLine
