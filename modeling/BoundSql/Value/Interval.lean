import BoundSql.Time.Duration

namespace BoundSql

structure Interval where
  months : Int32
  days : Int32
  microseconds : Int64
  deriving DecidableEq

namespace Interval

def ofMicroseconds (n : Int64) : Interval := ⟨0, 0, n⟩

/-- A whole number in 64 bits, none if it does not fit. -/
def word? (n : Int) : Option Int64 :=
  if -9223372036854775808 ≤ n ∧ n ≤ 9223372036854775807 then some (Int64.ofInt n) else none

def ofDuration (d : Duration) : Interval :=
  ofMicroseconds ((word? d.toMicros).getD Int64.maxValue)

/-- What is too long for 64 bits ends at the bound on its side of zero. -/
def ofDelta (d : TimeDelta) : Interval :=
  ofMicroseconds ((word? d.toMicros).getD
    (if d.isNegative then Int64.minValue else Int64.maxValue))

end Interval

end BoundSql
