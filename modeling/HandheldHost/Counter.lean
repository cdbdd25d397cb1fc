/-!
# Counters that stop at their largest value

Every count a host shows is a 64-bit number that never wraps: once it has
reached `Counter.limit` it stays there.  The bound is part of the type, so
a counter can be read as a plain natural number everywhere else.

* `Counter.val_bump` -- counting once more adds one, up to the limit.
* `Counter.val_ofNat` -- a number within the limit is kept as it is.
-/

namespace HandheldHost

/-- The largest value a counter can show. -/
def Counter.limit : Nat := 0xFFFFFFFFFFFFFFFF

/-- A count that saturates at `Counter.limit`. -/
structure Counter where
  /-- The number shown. -/
  val : Nat
  /-- No counter passes the limit. -/
  le_limit : val ≤ Counter.limit
  deriving DecidableEq

namespace Counter

/-- The counter of something that has not happened yet. -/
def zero : Counter := ⟨0, Nat.zero_le _⟩

instance : Inhabited Counter := ⟨zero⟩

/-- The counter nearest to a natural number. -/
def ofNat (n : Nat) : Counter := ⟨min n limit, Nat.min_le_right _ _⟩

/-- Counts once more, stopping at the limit. -/
def bump (c : Counter) : Counter := ofNat (c.val + 1)

@[ext] theorem ext {a b : Counter} (h : a.val = b.val) : a = b := by
  cases a; cases b; cases h; rfl

@[simp] theorem val_zero : zero.val = 0 := rfl

@[simp] theorem val_default : (default : Counter).val = 0 := rfl

@[simp] theorem val_bump (c : Counter) : c.bump.val = min (c.val + 1) limit := rfl

theorem val_ofNat {n : Nat} (h : n ≤ limit) : (ofNat n).val = n := Nat.min_eq_left h

end Counter

end HandheldHost
