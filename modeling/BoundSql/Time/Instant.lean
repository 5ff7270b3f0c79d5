namespace BoundSql

/-- A point in time: whole seconds since 1970, and nanoseconds on top of them, in a leap second more
than fit into one. The seconds stay within the years -262143 to 262142. -/
structure Instant where
  seconds : Int
  nanos : Nat
  seconds_ge : -8334601228800 ≤ seconds := by omega
  seconds_le : seconds ≤ 8210266876799 := by omega
  nanos_lt : nanos < 2000000000 := by omega

namespace Instant

instance : DecidableEq Instant
  | ⟨s, n, _, _, _⟩, ⟨s₁, n₁, _, _, _⟩ =>
    if h : s = s₁ ∧ n = n₁ then isTrue (by obtain ⟨rfl, rfl⟩ := h; rfl)
    else isFalse fun e => h (by injection e; exact ⟨‹_›, ‹_›⟩)

/-- An instant outside leap seconds. -/
def of? (seconds : Int) (nanos : Nat) : Option Instant :=
  if h : -8334601228800 ≤ seconds ∧ seconds ≤ 8210266876799 ∧ nanos < 1000000000 then
    some ⟨seconds, nanos, h.1, h.2.1, by omega⟩
  else none

/-- Seconds from 1970 to 2000. -/
def epochSeconds : Int := 946684800

/-- Whole microseconds since 2000, a fraction dropped toward 2000. -/
def microsSince2000 (t : Instant) : Int :=
  ((t.seconds - epochSeconds) * 1000000000 + t.nanos).tdiv 1000

/-- Year, month and day, in the proleptic Gregorian calendar, of a day counted from 1970-01-01.
Years begin in March here, so that the leap day is the last of its year; `era` counts periods of
400 years. -/
def civil (day : Int) : Int × Nat × Nat :=
  let shifted := day + 719468
  let era := shifted.fdiv 146097
  let dayOfEra := (shifted.fmod 146097).toNat
  let yearOfEra := (dayOfEra - dayOfEra / 1460 + dayOfEra / 36524 - dayOfEra / 146096) / 365
  let dayOfYear := dayOfEra - (365 * yearOfEra + yearOfEra / 4 - yearOfEra / 100)
  let m := (5 * dayOfYear + 2) / 153
  let month := if m < 10 then m + 3 else m - 9
  let year := (yearOfEra : Int) + era * 400 + (if month ≤ 2 then 1 else 0)
  (year, month, dayOfYear - (153 * m + 2) / 5 + 1)

def padded (width n : Nat) : String :=
  let digits := Nat.toDigits 10 n
  String.ofList (List.replicate (width - digits.length) '0' ++ digits)

/-- Four digits, with a sign outside the years 0 to 9999. -/
def yearText (year : Int) : String :=
  if 0 ≤ year ∧ year ≤ 9999 then padded 4 year.toNat
  else (if year < 0 then "-" else "+") ++ padded 4 year.natAbs

/-- The fraction of a second in 0, 3, 6 or 9 digits, whichever is exact. -/
def fractionText (nanos : Nat) : String :=
  if nanos = 0 then ""
  else if nanos % 1000000 = 0 then "." ++ padded 3 (nanos / 1000000)
  else if nanos % 1000 = 0 then "." ++ padded 6 (nanos / 1000)
  else "." ++ padded 9 nanos

/-- A leap second is the one behind the last of its minute. -/
def text (t : Instant) : String :=
  let (year, month, day) := civil (t.seconds.fdiv 86400)
  let second := (t.seconds.fmod 86400).toNat
  yearText year ++ "-" ++ padded 2 month ++ "-" ++ padded 2 day ++ "T" ++
    padded 2 (second / 3600) ++ ":" ++ padded 2 (second / 60 % 60) ++ ":" ++
    padded 2 (second % 60 + t.nanos / 1000000000) ++ fractionText (t.nanos % 1000000000) ++ "Z"

end Instant

end BoundSql
