/-!
# Shortest decimals

A binary number stands for all the reals that round to it, from halfway to the number below to
halfway to the number above. `Binary.shortest` gives the decimal among them that lies on the
coarsest grid of powers of ten, which is the one with the fewest digits, and the nearest of those.
All comparisons are between whole numbers, so nothing is rounded on the way.
-/

namespace RobotsExclusion

/-- The number `digits * 10 ^ exponent`. -/
structure Decimal where
  digits : Nat
  exponent : Int
  deriving DecidableEq

/-- The number `significand * 2 ^ exponent`. -/
structure Binary where
  significand : Nat
  exponent : Int
  /-- The number below is only half as far away as the number above. -/
  narrowBelow : Bool

namespace Binary

/-- The size of the finite number with these bits, whatever its sign. -/
def ofBits (bits : UInt64) : Binary :=
  let scale := (bits >>> 52 &&& 0x7FF).toNat
  let fraction := (bits &&& 0xFFFFFFFFFFFFF).toNat
  if scale = 0 then { significand := fraction, exponent := -1074, narrowBelow := false }
  else
    { significand := 0x10000000000000 + fraction
      exponent := scale - 1075
      narrowBelow := fraction = 0 && scale ≠ 1 }

/-- A step of the grid `10 ^ place`, in a unit that `quarter` shares. -/
def step (b : Binary) (place : Int) : Nat :=
  Nat.pow 10 place.toNat * Nat.pow 2 (2 - b.exponent).toNat

/-- A quarter of the last bit of the significand, in the unit of `step`. -/
def quarter (b : Binary) (place : Int) : Nat :=
  Nat.pow 2 (b.exponent - 2).toNat * Nat.pow 10 (-place).toNat

/-- Whether `digits * 10 ^ place` rounds to the number; a tie goes to the even significand. -/
def readsBack (b : Binary) (place : Int) (digits : Nat) : Bool :=
  let given := digits * b.step place
  let low := (4 * b.significand - if b.narrowBelow then 1 else 2) * b.quarter place
  let high := (4 * b.significand + 2) * b.quarter place
  if b.significand % 2 = 0 then low ≤ given && given ≤ high else low < given && given < high

/-- The decimal on the grid `10 ^ place` that reads back and is nearest; a tie goes to even digits. -/
def nearest? (b : Binary) (place : Int) : Option Decimal :=
  let value := 4 * b.significand * b.quarter place
  let below := value / b.step place
  let order := compare (2 * value) ((2 * below + 1) * b.step place)
  let above := order = .gt || (order = .eq && below % 2 = 1)
  let choices := if above then [below + 1, below] else [below, below + 1]
  (choices.find? (b.readsBack place)).map fun digits => { digits, exponent := place }

/-- From `10 ^ 309`, which is above every number, down to `10 ^ -324`, which is finer than the gaps
between the least. -/
def places : List Int := (List.range 634).map fun (n : Nat) => 309 - (n : Int)

/-- The number itself: a negative power of two is a power of five over a power of ten. -/
def exact (b : Binary) : Decimal :=
  if b.exponent < 0 then
    { digits := b.significand * Nat.pow 5 (-b.exponent).toNat, exponent := b.exponent }
  else { digits := b.significand * Nat.pow 2 b.exponent.toNat, exponent := 0 }

def shortest (b : Binary) : Decimal :=
  if b.significand = 0 then { digits := 0, exponent := 0 }
  else (places.findSome? b.nearest?).getD b.exact

end Binary

end RobotsExclusion
