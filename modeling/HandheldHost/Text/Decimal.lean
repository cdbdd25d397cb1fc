/-!
# Decimal text of a binary number

A timestamp is a 64-bit binary floating-point number.  It is written either
with the fewest digits that still tell it from its neighbours, or rounded to
one decimal place.  Both are positional at every size: there is no exponent,
and a whole number has no point unless a place was asked for.

All arithmetic is exact, on natural numbers: a finite value is
`mantissa * 2 ^ exponent`, read off the bits.
-/

namespace HandheldHost.Text.Decimal

/-- The magnitude of a finite number. -/
structure Magnitude where
  mantissa : Nat
  exponent : Int
  /-- The neighbour below is half as far away as the neighbour above. -/
  narrowBelow : Bool

namespace Magnitude

/-- The magnitude in the lower 63 bits of a finite number. -/
def ofBits (bits : UInt64) : Magnitude :=
  let field := ((bits >>> 52) &&& 0x7FF).toNat
  let fraction := (bits &&& 0xFFFFFFFFFFFFF).toNat
  if field = 0 then ⟨fraction, -1074, false⟩
  else ⟨Nat.pow 2 52 + fraction, (field : Int) - 1075, fraction = 0 && 1 < field⟩

/-- The numerator of the magnitude over `denominator`. -/
def numerator (x : Magnitude) : Nat := x.mantissa * Nat.pow 2 x.exponent.toNat

/-- A power of two that clears the fraction. -/
def denominator (x : Magnitude) : Nat := Nat.pow 2 (-x.exponent).toNat

/-- The multiple of `10 ^ place` just at or below the magnitude, as a count
of that unit. -/
def floorAt (x : Magnitude) (place : Int) : Nat :=
  x.numerator * Nat.pow 10 (-place).toNat / (x.denominator * Nat.pow 10 place.toNat)

/-- Compares `digits * 10 ^ place` with `quarters / 4` units of the last
binary place. -/
def compareTo (x : Magnitude) (digits : Nat) (place : Int) (quarters : Nat) : Ordering :=
  compare (4 * digits * Nat.pow 10 place.toNat * x.denominator)
    (quarters * Nat.pow 2 x.exponent.toNat * Nat.pow 10 (-place).toNat)

/-- Whether `digits * 10 ^ place` reads back as this number: it lies between
the points half-way to the two neighbours, which count when the mantissa is
even. -/
def readsBack (x : Magnitude) (place : Int) (digits : Nat) : Bool :=
  let below := x.compareTo digits place (4 * x.mantissa - if x.narrowBelow then 1 else 2)
  let above := x.compareTo digits place (4 * x.mantissa + 2)
  let inclusive := x.mantissa % 2 == 0
  (below == .gt || (inclusive && below == .eq)) &&
    (above == .lt || (inclusive && above == .eq))

/-- The decimal of the given place that reads back, if there is one: of the
two neighbours on the grid the closer, and the upper one of two equally
close. -/
def onGrid? (x : Magnitude) (place : Int) : Option Nat :=
  let lower := x.floorAt place
  match x.readsBack place lower, x.readsBack place (lower + 1) with
  | true, false => some lower
  | false, true => some (lower + 1)
  | false, false => none
  | true, true =>
    if x.compareTo (2 * lower + 1) place (8 * x.mantissa) == .gt then some lower
    else some (lower + 1)

/-- How many places stand left of the point; negative when zeros follow the
point. -/
def leading (x : Magnitude) : Int :=
  ((Nat.toDigits 10 (x.numerator * Nat.pow 10 400 / x.denominator)).length : Int) - 400

/-- The same decimal without zeros at its end. -/
def dropZeros (digits : Nat) (place : Int) : Nat × Int :=
  if digits ≠ 0 ∧ digits % 10 = 0 then dropZeros (digits / 10) (place + 1) else (digits, place)
termination_by digits
decreasing_by omega

/-- The decimal with the fewest digits that reads back, as a count of units
and their place.  Seventeen digits always suffice. -/
def fewest (x : Magnitude) : Nat × Int :=
  let found := (List.range 17).findSome? fun extra =>
    let place := x.leading - (extra + 1 : Nat)
    (x.onGrid? place).map fun digits => (digits, place)
  let (digits, place) := found.getD (x.floorAt (x.leading - 17), x.leading - 17)
  dropZeros digits place

/-- Tenths of the magnitude, to the nearest; a half goes to the even
neighbour. -/
def tenths (x : Magnitude) : Nat :=
  let whole := x.numerator * 10 / x.denominator
  let rest := x.numerator * 10 % x.denominator
  if x.denominator < 2 * rest then whole + 1
  else if 2 * rest = x.denominator then whole + whole % 2
  else whole

end Magnitude

/-- A count of units at a decimal place, written out in positional form. -/
def positional (digits : Nat) (place : Int) : String :=
  if 0 ≤ place then toString (digits * Nat.pow 10 place.toNat)
  else
    let unit := Nat.pow 10 (-place).toNat
    let fraction := Nat.toDigits 10 (digits % unit)
    toString (digits / unit) ++ "." ++
      String.ofList (List.replicate ((-place).toNat - fraction.length) '0' ++ fraction)

/-- Writes the sign and the special values; the magnitude of a finite number
is written by `magnitude`. -/
def signed (magnitude : Magnitude → String) (x : Float) : String :=
  let bits := x.toBits
  let sign := if bits >>> 63 == 1 then "-" else ""
  if (bits >>> 52) &&& 0x7FF == 0x7FF then
    if bits &&& 0xFFFFFFFFFFFFF == 0 then sign ++ "inf" else "NaN"
  else sign ++ magnitude (.ofBits bits)

/-- The fewest digits that read back as the number. -/
def shortest (x : Float) : String :=
  signed (fun m => if m.mantissa = 0 then "0" else positional m.fewest.1 m.fewest.2) x

/-- The number rounded to one decimal place. -/
def onePlace (x : Float) : String :=
  signed (fun m => positional m.tenths (-1)) x

end HandheldHost.Text.Decimal
