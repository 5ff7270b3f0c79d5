import BoundSql.Binary.Format
/-!
The shortest decimal that reads back as a number is sought on the coarsest decimal grid with a point
in the interval of reals that round to the number. Of the number's two neighbours on that grid it is
the nearer one.
-/

namespace BoundSql.Binary

inductive Tie where
  | even
  | up
  deriving DecidableEq

/-- The decimal `digits · 10 ^ power`. -/
structure Decimal where
  digits : Nat
  power : Int
  deriving DecidableEq

/-- A positive number with the reals that round to it, all in the unit `1 / den`. -/
structure Interval where
  low : Nat
  value : Nat
  high : Nat
  den : Nat
  /-- Whether the ends round to the value too. -/
  closed : Bool

/-- The interval of a finite positive magnitude. The gap below a power of two is half as wide,
unless it is the least normal number. -/
def Format.interval (f : Format) (bits : Nat) : Interval :=
  let m := f.significand bits
  let q := f.unitExponent bits
  let below := if f.fractionField bits = 0 ∧ 1 < f.exponentField bits then 1 else 2
  let up := twoTo q.toNat
  { low := (4 * m - below) * up, value := 4 * m * up, high := (4 * m + 2) * up
    den := 4 * twoTo (-q).toNat, closed := m % 2 = 0 }

def powerAtMost (power : Int) (num den : Nat) : Bool :=
  tenTo power.toNat * den ≤ num * tenTo (-power).toNat

def leadingPower (num den : Nat) : Int :=
  let guess := ((num.log2 : Int) - den.log2) * 30103 / 100000
  if powerAtMost (guess + 1) num den then guess + 1
  else if powerAtMost guess num den then guess
  else guess - 1

namespace Interval

def holds (i : Interval) (n : Nat) (power : Int) : Bool :=
  let x := n * tenTo power.toNat * i.den
  let s := tenTo (-power).toNat
  if i.closed then i.low * s ≤ x && x ≤ i.high * s else i.low * s < x && x < i.high * s

/-- The value's better neighbour on the grid of multiples of `10 ^ power`, if one is held. -/
def onGrid (i : Interval) (tie : Tie) (power : Int) : Option Decimal :=
  let num := i.value * tenTo (-power).toNat
  let den := i.den * tenTo power.toNat
  let d := num / den
  let upper :=
    match compare (2 * (num % den)) den with
    | .lt => false
    | .gt => true
    | .eq => match tie with
      | .up => true
      | .even => d % 2 = 1
  let first := if upper then d + 1 else d
  let second := if upper then d else d + 1
  if i.holds first power then some ⟨first, power⟩
  else if i.holds second power then some ⟨second, power⟩
  else none

def search (i : Interval) (tie : Tie) (power : Int) : Nat → Decimal
  | 0 => ⟨i.value * tenTo (-power).toNat / (i.den * tenTo power.toNat), power⟩
  | fuel + 1 =>
    match i.onGrid tie power with
    | some d => d
    | none => i.search tie (power - 1) fuel

end Interval

/-- Shortest decimal of a finite positive magnitude. Seventeen digits always suffice for 64 bits. -/
def Format.shortest (f : Format) (tie : Tie) (bits : Nat) : Decimal :=
  let i := f.interval bits
  i.search tie (leadingPower i.value i.den) 17

end BoundSql.Binary
