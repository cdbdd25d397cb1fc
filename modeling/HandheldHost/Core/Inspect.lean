import HandheldHost.Core
import HandheldHost.Deck

/-!
# Reading a core for the debug view

A core is asked for its registers and for a number of memory octets.  What
the debug view shows is exactly as long as was asked for: a long reply is
cut and a short one filled up with zeros.
-/

namespace HandheldHost

/-- Cuts octets to the size asked for, or fills them up with zeros. -/
def MemoryWindow.fit (bytes : Bytes) (size : Nat) : Bytes :=
  bytes.extract 0 size ++ Array.replicate (size - bytes.size) 0

namespace Core

variable {γ : Type} [Core γ]

/-- Reads exactly `size` memory octets from a core. -/
def readWindow (core : γ) (size : Nat) : Logged (Bytes × γ) := do
  let (bytes, core) := window size core
  if bytes.size ≠ size then
    Logged.log (.windowSize bytes.size size)
  pure (MemoryWindow.fit bytes size, core)

/-- Reads registers and memory from a core and shows them on a deck. -/
def inspect (core : γ) (deck : Deck) (size : Nat) : Logged (Deck × γ) := do
  let (registers, core) := registers core
  let (bytes, core) ← readWindow core size
  pure (deck.publish registers (windowBase core) bytes, core)

end Core

end HandheldHost
