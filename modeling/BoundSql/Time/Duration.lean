namespace BoundSql

structure Duration where
  seconds : Nat
  nanos : Nat
  seconds_lt : seconds < 18446744073709551616 := by omega
  nanos_lt : nanos < 1000000000 := by omega
  deriving DecidableEq

namespace Duration

/-- So many seconds and nanoseconds together, unless that is too long. -/
def of? (seconds nanos : Nat) : Option Duration :=
  if h : seconds + nanos / 1000000000 < 18446744073709551616 then
    some ⟨seconds + nanos / 1000000000, nanos % 1000000000, h, by omega⟩
  else none

def ofMillis (n : UInt64) : Duration :=
  { seconds := n.toNat / 1000
    nanos := n.toNat % 1000 * 1000000
    seconds_lt := by have := n.toNat_lt; omega
    nanos_lt := by omega }

def toMillis (d : Duration) : Nat := d.seconds * 1000 + d.nanos / 1000000

def toMicros (d : Duration) : Nat := d.seconds * 1000000 + d.nanos / 1000

/-- The digits of a fraction below one, given in units of `10 ^ (-width)`, without zeros at the
end. -/
def fractionDigits (width n : Nat) : List Char :=
  let digits := Nat.toDigits 10 n
  let padded := List.replicate (width - digits.length) '0' ++ digits
  (padded.reverse.dropWhile (· == '0')).reverse

def decimalText (whole width fraction : Nat) : String :=
  if fraction = 0 then toString whole
  else toString whole ++ "." ++ String.ofList (fractionDigits width fraction)

/-- The length in the largest unit not above it. -/
def text (d : Duration) : String :=
  if d.seconds ≠ 0 then decimalText d.seconds 9 d.nanos ++ "s"
  else if 1000000 ≤ d.nanos then decimalText (d.nanos / 1000000) 6 (d.nanos % 1000000) ++ "ms"
  else if 1000 ≤ d.nanos then decimalText (d.nanos / 1000) 3 (d.nanos % 1000) ++ "µs"
  else decimalText d.nanos 0 0 ++ "ns"

end Duration

/-- A signed length of time: seconds, and nanoseconds added to them. -/
structure TimeDelta where
  seconds : Int
  nanos : Nat
  nanos_lt : nanos < 1000000000 := by omega
  deriving DecidableEq

namespace TimeDelta

def of? (seconds : Int) (nanos : Nat) : Option TimeDelta :=
  if h : nanos < 1000000000 then some ⟨seconds, nanos, h⟩ else none

def toNanos (d : TimeDelta) : Int := d.seconds * 1000000000 + d.nanos

/-- Whole microseconds, a fraction dropped toward zero. -/
def toMicros (d : TimeDelta) : Int := d.toNanos.tdiv 1000

def isNegative (d : TimeDelta) : Bool := d.seconds < 0

end TimeDelta

end BoundSql
