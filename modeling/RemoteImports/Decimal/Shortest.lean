/-!
# The shortest decimal of a binary fraction

A number in binary64 is an integer times a power of two, and every real in an interval
around it is read back as it. The shortest decimal is the one with the fewest digits in
that interval, and of those the one nearest to the number.

For each count of digits there is a grid of decimals, and if any of its points lies in the
interval, one of the two neighbours of the number on the grid does. So it is enough to try
those two, for one digit, two digits and so on; seventeen always suffice.
-/

namespace RemoteImports
namespace Decimal

/-- A positive number in binary64: `significand * 2 ^ exponent`. The interval below it is
half as wide when it is the least number with its exponent. -/
structure Binary where
  significand : Nat
  exponent : Int
  narrowBelow : Bool

/-- The parts of a positive finite number, from its bits without the sign. -/
def Binary.ofBits (bits : Nat) : Binary :=
  let fraction : Nat := bits % Nat.pow 2 52
  let biased : Nat := bits / Nat.pow 2 52 % Nat.pow 2 11
  if biased = 0 then { significand := fraction, exponent := -1074, narrowBelow := false }
  else { significand := fraction + Nat.pow 2 52, exponent := (biased : Int) - 1075,
         narrowBelow := fraction == 0 && biased != 1 }

/-- The interval around a number as three numerators over one denominator. -/
structure Interval where
  low : Nat
  middle : Nat
  high : Nat
  denominator : Nat
  closed : Bool

/-- The reals that are read back as a number. -/
def Binary.interval (b : Binary) : Interval :=
  let scale := Nat.pow 2 b.exponent.toNat
  let below := if b.narrowBelow then 1 else 2
  { low := (4 * b.significand - below) * scale
    middle := 4 * b.significand * scale
    high := (4 * b.significand + 2) * scale
    denominator := 4 * Nat.pow 2 (-b.exponent).toNat
    closed := b.significand % 2 == 0 }

def Interval.inUnits (i : Interval) (power : Int) : Interval :=
  let up := Nat.pow 10 (-power).toNat
  { i with low := i.low * up, middle := i.middle * up, high := i.high * up
           denominator := i.denominator * Nat.pow 10 power.toNat }

def Interval.holds (i : Interval) (n : Nat) : Bool :=
  let place := n * i.denominator
  if i.closed then i.low <= place && place <= i.high else i.low < place && place < i.high

/-- The distance of an integer from the middle, over the denominator. -/
def Interval.distance (i : Interval) (n : Nat) : Nat :=
  let place := n * i.denominator
  if place <= i.middle then i.middle - place else place - i.middle

/-- The integer nearest to the middle that lies in the interval, if one does; of two
equally near ones the even one. -/
def Interval.nearest? (i : Interval) : Option Nat :=
  let n := i.middle / i.denominator
  match i.holds n, i.holds (n + 1) with
  | false, false => none
  | true, false => some n
  | false, true => some (n + 1)
  | true, true =>
    if i.distance n < i.distance (n + 1) then some n
    else if i.distance (n + 1) < i.distance n then some (n + 1)
    else some (if n % 2 = 0 then n else n + 1)

/-- The position of the decimal point: the middle is at least `10 ^ (point - 1)` and below
`10 ^ point`. -/
def Interval.point (i : Interval) : Int :=
  let guess : Int := (Nat.toDigits 10 i.middle).length - (Nat.toDigits 10 i.denominator).length
  let unit := i.inUnits guess
  if unit.denominator <= unit.middle then guess + 1 else guess

/-- A decimal: its digits, first one not zero, and the position of the point before or
behind them. -/
structure Digits where
  digits : List Char
  point : Int

/-- Tries grids of `count` digits and more, at most `fuel` of them. -/
def Interval.search (i : Interval) (point : Int) : (fuel count : Nat) -> Nat × Int
  | 0, count => ((i.inUnits (point - count)).middle / (i.inUnits (point - count)).denominator,
      point - count)
  | fuel + 1, count =>
    match (i.inUnits (point - count)).nearest? with
    | some n => (n, point - count)
    | none => i.search point fuel (count + 1)

/-- The shortest decimal that is read back as the number with these bits. -/
def shortest (bits : Nat) : Digits :=
  let i := (Binary.ofBits bits).interval
  let (n, power) := i.search i.point 17 1
  let written := Nat.toDigits 10 n
  let digits := (written.reverse.dropWhile (· == '0')).reverse
  { digits := digits, point := power + written.length }

end Decimal
end RemoteImports
