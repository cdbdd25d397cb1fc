import HandheldHost.CommandLine.Grammar
import HandheldHost.Text.ControlSequence

/-!
# Reports of refused values

A report is worded for a terminal, with the refused value and what it was
for set off by renditions.  Elsewhere the renditions are taken out, and with
them any control sequence that the value itself brings along.
-/

namespace HandheldHost.CommandLine

/-- A text in a rendition, given by its numbers; afterwards the rendition is
the usual one. -/
def rendered (numbers : List Nat) (text : String) : String :=
  String.join (numbers.map fun n => "\x1b[" ++ toString n ++ "m") ++ text ++ "\x1b[0m"

/-- How a value was refused, worded for a terminal. -/
def refusal (value target : String) (reason : Option String) : String :=
  rendered [1, 31] "error:" ++ " invalid value '" ++ rendered [33] value ++ "' for '" ++
    rendered [1] target ++ "'" ++
    (match reason with
      | none => ""
      | some reason => ": " ++ reason) ++
    "\n\nFor more information, try '" ++ rendered [1] "--help" ++ "'.\n"

/-- What the user is told about a refused value where there is no terminal. -/
def Halt.report? : Halt → Option String
  | .badValue value target reason =>
    some (Text.ControlSequence.plain (refusal value target reason))
  | .version | .help | .misfit => none

end HandheldHost.CommandLine
