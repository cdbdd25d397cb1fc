/-!
# The refresh clock

An endless stream of timestamps in milliseconds, sixty to a second, for
hosts that no display wakes up.
-/

namespace HandheldHost

/-- A clock, known by the stamp it gives next. -/
structure Clock where
  next : Float := 0.0

namespace Clock

instance : Inhabited Clock := ⟨{}⟩

/-- Milliseconds between two stamps. -/
def interval : Float := 1000.0 / 60.0

/-- Takes the next stamp.  Each stamp is the one before it plus the
interval. -/
def take (clock : Clock) : Float × Clock := (clock.next, ⟨clock.next + interval⟩)

/-- The next `n` stamps. -/
def stamps : Nat → Clock → List Float
  | 0, _ => []
  | n + 1, clock => clock.take.1 :: stamps n clock.take.2

/-- The clock after `n` stamps have been taken. -/
def skip : Nat → Clock → Clock
  | 0, clock => clock
  | n + 1, clock => skip n clock.take.2

end Clock

end HandheldHost
