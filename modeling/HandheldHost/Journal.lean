import HandheldHost.Fault
import HandheldHost.Geometry
import HandheldHost.Playback
import HandheldHost.Text.Decimal

/-!
# What gets written to the log

Everything a host may log is an `Event`: a value that says what happened.
Its severity and its wording are one function each.  A computation that
logs is a `Logged` value, the pair of its result and the events in order;
the result never depends on the events, which the `value_` lemmas say one
operation at a time.
-/

namespace HandheldHost

/-- Severities, most severe first. -/
inductive Level where
  | error
  | warn
  | info
  | debug
  | trace
  deriving DecidableEq, Repr

namespace Level

/-- The place of a severity, counted from the most severe. -/
def rank : Level → Nat
  | error => 0
  | warn => 1
  | info => 2
  | debug => 3
  | trace => 4

/-- The label in front of a line. -/
def label : Level → String
  | error => "ERROR"
  | warn => "WARN"
  | info => "INFO"
  | debug => "DEBUG"
  | trace => "TRACE"

end Level

/-- Something worth a line in the log. -/
inductive Event where
  /-- A core faulted and playback paused. -/
  | faultReported (tick : Nat) (fault : Fault)
  /-- A debug read returned another number of octets than asked for. -/
  | windowSize (got asked : Nat)
  | sessionStarted (cartridgeSize : Nat)
  | sessionShutDown (ticks : Nat)
  /-- A session ended without being shut down. -/
  | sessionDropped
  | patternLoaded (cartridgeSize : Nat)
  /-- Playback was paused by the host itself. -/
  | forcedPause (was : Mode)
  | stampWentBack (last now : Float)
  | ticked (now : Float) (outcome : Outcome)
  | unmappedKey (code : UInt32)
  | buttonForwarded (write : ButtonWrite)
  /-- A frame of another geometry was not shown. -/
  | geometryDiffers (frame own : Geometry)
  | executed (opcode : UInt8) (pc : UInt16)
  /-- The command line noticed a faulted tick. -/
  | runFaulted (tick : Nat)
  | runTicked (tick : Nat) (advanced : Option Stride)
  /-- The final picture was written to a file with the given quoted path. -/
  | pictureWritten (width height : Nat) (path : String)

namespace Event

/-- How severe an event is. -/
def level : Event → Level
  | faultReported .. => .error
  | windowSize .. => .warn
  | sessionStarted _ | sessionShutDown _ | runFaulted _ | pictureWritten .. => .info
  | sessionDropped | patternLoaded _ | forcedPause _ | stampWentBack .. | runTicked .. => .debug
  | ticked .. | unmappedKey _ | buttonForwarded _ | geometryDiffers .. | executed .. => .trace

/-- The wording of an event. -/
def text : Event → String
  | faultReported tick fault =>
    "tick " ++ toString tick ++ ": " ++ fault.text ++ "; playback paused"
  | windowSize got asked =>
    "core returned " ++ toString got ++ " window bytes for a " ++ toString asked ++
      " byte request"
  | sessionStarted size => "session started from " ++ toString size ++ " byte cartridge"
  | sessionShutDown ticks => "session shut down after " ++ toString ticks ++ " ticks"
  | sessionDropped => "session dropped without shutdown; releasing core"
  | patternLoaded size => "demo core created from " ++ toString size ++ " byte cartridge"
  | forcedPause was => "forcing Paused (was " ++ was.label ++ ")"
  | stampWentBack last now =>
    "refresh timestamp went backwards (" ++ Text.Decimal.shortest last ++ " -> " ++
      Text.Decimal.shortest now ++ ")"
  | ticked now outcome =>
    "tick " ++ toString outcome.tick ++ " at " ++ Text.Decimal.onePlace now ++ "ms: " ++
      outcome.text
  | unmappedKey code => "ignoring unmapped key code " ++ toString code.toNat
  | buttonForwarded write =>
    "button " ++ write.button.label ++ " -> " ++ toString write.pressed
  | geometryDiffers frame own =>
    "view geometry " ++ frame.text ++ " differs from renderer " ++ own.text ++
      "; keeping canvas"
  | executed opcode pc =>
    "demo core executed " ++ Text.Hex.byte opcode ++ " at " ++ Text.Hex.word pc
  | runFaulted tick => "tick " ++ toString tick ++ " faulted; playback paused"
  | runTicked tick advanced => "tick " ++ toString tick ++ ": " ++ Stride.optionText advanced
  | pictureWritten width height path =>
    "wrote " ++ toString width ++ "x" ++ toString height ++ " surface to " ++ path

/-- The line of an event: its severity and its wording. -/
def line (e : Event) : String := e.level.label ++ " " ++ e.text

/-- Whether an event is at least as severe as a threshold. -/
def isAtLeast (threshold : Level) (e : Event) : Bool := e.level.rank ≤ threshold.rank

end Event

/-- A result and the events that led to it, in order. -/
structure Logged (α : Type u) where
  value : α
  events : List Event

namespace Logged

instance : Monad Logged where
  pure a := ⟨a, []⟩
  bind
    | ⟨a, events⟩, f =>
      let y := f a
      ⟨y.value, events ++ y.events⟩

/-- Logs one event. -/
def log (e : Event) : Logged Unit := ⟨(), [e]⟩

/-- Forgets the events that are less severe than a threshold. -/
def keep (threshold : Level) (x : Logged α) : Logged α :=
  ⟨x.value, x.events.filter (Event.isAtLeast threshold)⟩

/-- The events at least as severe as a threshold, worded. -/
def lines (threshold : Level) (x : Logged α) : List String :=
  (x.events.filter (Event.isAtLeast threshold)).map Event.line

@[ext] theorem ext {x y : Logged α} (hv : x.value = y.value) (he : x.events = y.events) :
    x = y := by
  cases x; cases y; cases hv; cases he; rfl

@[simp] theorem value_pure (a : α) : (pure a : Logged α).value = a := rfl

@[simp] theorem value_bind (x : Logged α) (f : α → Logged β) :
    (x >>= f).value = (f x.value).value := rfl

@[simp] theorem value_map (g : α → β) (x : Logged α) : (g <$> x).value = g x.value := rfl

@[simp] theorem value_log (e : Event) : (log e).value = () := rfl

@[simp] theorem value_keep (threshold : Level) (x : Logged α) :
    (keep threshold x).value = x.value := rfl

@[simp] theorem events_pure (a : α) : (pure a : Logged α).events = [] := rfl

@[simp] theorem events_bind (x : Logged α) (f : α → Logged β) :
    (x >>= f).events = x.events ++ (f x.value).events := rfl

@[simp] theorem events_log (e : Event) : (log e).events = [e] := rfl

instance : LawfulMonad Logged := LawfulMonad.mk'
  _
  (fun x => Logged.ext rfl (by simp [Functor.map]))
  (fun _ _ => Logged.ext rfl rfl)
  (fun _ _ _ => Logged.ext rfl (by simp))

end Logged

end HandheldHost
