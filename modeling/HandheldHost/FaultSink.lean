import HandheldHost.Journal

/-!
# Where faults are reported

A host absorbs the faults of its core and reports each to a sink, once, on
the tick that saw it.  A `Ledger` keeps every report; a `JournalSink` logs
it and keeps nothing.
-/

namespace HandheldHost

/-- A receiver of fault reports. -/
class FaultSink (δ : Type) where
  /-- Takes the report of a fault seen on the given tick. -/
  report : Nat → Fault → δ → Logged δ

/-- Every report so far, in order: the tick and its fault. -/
structure Ledger where
  reports : List (Nat × Fault) := []
  deriving DecidableEq, Repr

instance : Inhabited Ledger := ⟨{}⟩

instance : FaultSink Ledger where
  report tick fault ledger := pure ⟨ledger.reports ++ [(tick, fault)]⟩

/-- A sink that logs. -/
structure JournalSink where
  deriving DecidableEq, Repr, Inhabited

instance : FaultSink JournalSink where
  report tick fault sink := do
    Logged.log (.faultReported tick fault)
    pure sink

end HandheldHost
