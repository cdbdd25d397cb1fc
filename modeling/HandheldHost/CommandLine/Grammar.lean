/-!
# Grammars of command lines

A grammar says which options a command takes and what its positional
arguments mean.  Arguments are taken from left to right:

* an option is given by its long name, or by its letter, which may stand in
  a cluster of letters; a value is attached to it or is the next argument;
* `--` ends the options, and everything after it is positional;
* an option that may not be repeated is refused the second time, before its
  value is looked at.

A value that stands by itself is looked at when the next option is met or
when the arguments end.  An argument that fits nowhere is therefore refused
before a bad value in front of it.
-/

namespace HandheldHost.CommandLine

/-- Why reading the arguments stopped. -/
inductive Halt where
  /-- The version was asked for. -/
  | version
  /-- Help was asked for. -/
  | help
  /-- A value was refused: what it was for, and why if that is said. -/
  | badValue (value target : String) (reason : Option String)
  /-- The arguments do not fit the grammar. -/
  | misfit
  deriving DecidableEq, Repr

/-- What an option does to the settings `σ`. -/
inductive Action (σ : Type) where
  /-- It takes no value. -/
  | flag (set : σ → σ)
  /-- It takes a value. -/
  | value (store : String → σ → Except Halt σ)
  /-- It ends the reading. -/
  | halt (reason : Halt)

/-- An option: its names and what it does. -/
structure Setting (σ : Type) where
  long : String
  letter : Option Char
  repeatable : Bool
  action : Action σ

/-- A grammar of options and positional arguments. -/
structure Grammar (σ : Type) where
  options : List (Setting σ)
  /-- What is done with each positional argument. -/
  places : List (String → σ → Except Halt σ)

/-- A value that has not been looked at. -/
inductive Waiting (σ : Type) where
  | nothing
  /-- An option whose value is missing or has been read. -/
  | option (setting : Setting σ) (value : Option String)
  | place (store : String → σ → Except Halt σ) (value : String)

/-- How far the arguments have been read. -/
structure Reading (σ : Type) where
  settings : σ
  /-- The long names of the options given. -/
  given : List String := []
  waiting : Waiting σ := .nothing
  /-- The number of positional arguments read. -/
  position : Nat := 0
  /-- The options have ended. -/
  positionalOnly : Bool := false

namespace Reading

variable {σ : Type}

/-- Whether the next argument is the value of an option. -/
def expectsValue (r : Reading σ) : Bool :=
  match r.waiting with
  | .option _ none => true
  | _ => false

/-- Counts an option as given, unless it may not be given again. -/
def give (r : Reading σ) (s : Setting σ) : Except Halt (Reading σ) :=
  if s.long ∈ r.given ∧ s.repeatable = false then .error .misfit
  else .ok { r with given := s.long :: r.given }

/-- Gives an option a value. -/
def store (r : Reading σ) (s : Setting σ) (value : String) : Except Halt (Reading σ) := do
  let r ← r.give s
  match s.action with
  | .value store => return { r with settings := ← store value r.settings }
  | .flag _ | .halt _ => .error .misfit

/-- Looks at the value that waits. -/
def settle (r : Reading σ) : Except Halt (Reading σ) :=
  match r.waiting with
  | .nothing => .ok r
  | .option _ none => .error .misfit
  | .option s (some value) => store { r with waiting := .nothing } s value
  | .place store value => do
    return { r with settings := ← store value r.settings, waiting := .nothing }

/-- Takes an option without an attached value. -/
def takeOption (r : Reading σ) (s : Setting σ) : Except Halt (Reading σ) := do
  let r ← r.settle
  match s.action with
  | .value _ => return { r with waiting := .option s none }
  | .flag set => do
    let r ← r.give s
    return { r with settings := set r.settings }
  | .halt reason => .error reason

/-- Takes an option with an attached value. -/
def takeAttached (r : Reading σ) (s : Setting σ) (value : String) : Except Halt (Reading σ) := do
  match s.action with
  | .value _ => (← r.settle).store s value
  | .flag _ | .halt _ => .error .misfit

/-- Takes a long option: its name and any attached value. -/
def takeLong (g : Grammar σ) (r : Reading σ) (name : String) (value : Option String) :
    Except Halt (Reading σ) :=
  match g.options.find? fun s => s.long == name with
  | none => .error .misfit
  | some s =>
    match value with
    | none => r.takeOption s
    | some value => r.takeAttached s value

/-- Takes a cluster of option letters.  What follows the letter of an option
with a value is that value, less an equals sign in front. -/
def takeLetters (g : Grammar σ) (r : Reading σ) : List Char → Except Halt (Reading σ)
  | [] => .ok r
  | c :: rest =>
    match g.options.find? fun s => s.letter == some c with
    | none => .error .misfit
    | some s =>
      match s.action, rest with
      | .value _, [] => r.takeOption s
      | .value _, '=' :: value => r.takeAttached s (String.ofList value)
      | .value _, value => r.takeAttached s (String.ofList value)
      | .flag _, rest | .halt _, rest => do
        takeLetters g (← r.takeOption s) rest

/-- Takes a positional argument. -/
def takePositional (g : Grammar σ) (r : Reading σ) (value : String) :
    Except Halt (Reading σ) :=
  match g.places[r.position]? with
  | none => .error .misfit
  | some store => do
    let r ← r.settle
    return { r with waiting := .place store value, position := r.position + 1 }

/-- Takes one argument. -/
def take (g : Grammar σ) (r : Reading σ) (argument : String) : Except Halt (Reading σ) :=
  if r.positionalOnly then r.takePositional g argument
  else
    match argument.toList with
    | ['-', '-'] => .ok { r with positionalOnly := true }
    | '-' :: '-' :: long =>
      let name := long.takeWhile (· ≠ '=')
      r.takeLong g (String.ofList name)
        (match long.drop name.length with
          | [] => none
          | _ :: value => some (String.ofList value))
    | '-' :: c :: letters => r.takeLetters g (c :: letters)
    | _ =>
      match r.waiting with
      | .option s none => .ok { r with waiting := .option s (some argument) }
      | _ => r.takePositional g argument

/-- Takes all arguments up to one that names a subcommand; gives that name
and the arguments after it. -/
def takeUntil (g : Grammar σ) (isCommand : String → Bool) (r : Reading σ) :
    List String → Except Halt (Reading σ × Option (String × List String))
  | [] => .ok (r, none)
  | argument :: rest =>
    if !r.positionalOnly && !r.expectsValue && isCommand argument then
      .ok (r, some (argument, rest))
    else do
      takeUntil g isCommand (← r.take g argument) rest

end Reading

end HandheldHost.CommandLine
