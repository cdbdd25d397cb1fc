import HandheldHost.Button

/-!
# From key codes to buttons

A key table binds physical key codes to buttons.  The first binding of a
code counts and later ones are ignored, so a code occurs at most once in a
table built by `KeyTable.ofList`.
-/

namespace HandheldHost

/-- Bindings of key codes, in the order they were made. -/
structure KeyTable where
  entries : List (UInt32 × Button)
  deriving DecidableEq

namespace KeyTable

/-- Adds a binding unless the code is bound already. -/
def bind (table : KeyTable) (binding : UInt32 × Button) : KeyTable :=
  if table.entries.any (fun e => e.1 == binding.1) then table
  else ⟨table.entries ++ [binding]⟩

/-- The table of a list of bindings. -/
def ofList (bindings : List (UInt32 × Button)) : KeyTable := bindings.foldl bind ⟨[]⟩

/-- The button bound to a code. -/
def resolve (table : KeyTable) (code : UInt32) : Option Button :=
  (table.entries.find? fun e => e.1 == code).map Prod.snd

/-- The codes browsers report for the arrow keys, X, Z, S and A. -/
def standard : KeyTable :=
  ofList [(38, .up), (40, .down), (37, .left), (39, .right),
    (88, .a), (90, .b), (83, .start), (65, .select)]

end KeyTable

end HandheldHost
