import Mathlib.Algebra.Order.Ring.Int
import BoundSql.Value.Interval

namespace BoundSql

/-- So many nanoseconds have so many whole microseconds, a fraction dropped toward zero. -/
structure Truncates (nanos micros : Int) : Prop where
  nonneg : 0 ≤ nanos → 0 ≤ micros
  nonpos : nanos ≤ 0 → micros ≤ 0
  le : 1000 * micros.natAbs ≤ nanos.natAbs
  lt : nanos.natAbs < 1000 * (micros.natAbs + 1)

theorem truncates_tdiv (n : Int) : Truncates n (n.tdiv 1000) := by
  have habs : (n.tdiv 1000).natAbs = n.natAbs / 1000 := Int.natAbs_tdiv n 1000
  refine ⟨fun h => Int.tdiv_nonneg h (by decide), fun h => ?_, by omega, by omega⟩
  have hle := Int.tdiv_le_tdiv (c := 1000) (by decide) h
  rwa [Int.zero_tdiv] at hle

/-- The number of nanoseconds in a length. -/
def Duration.toNanos (d : Duration) : Nat := d.seconds * 1000000000 + d.nanos

theorem Duration.toMicros_eq (d : Duration) : d.toMicros = (d.toNanos : Int).tdiv 1000 := by
  have hdiv : d.toMicros = d.toNanos / 1000 := by
    rw [toMicros, toNanos]
    omega
  rw [hdiv, Int.ofNat_tdiv]
  rfl

theorem TimeDelta.isNegative_iff (d : TimeDelta) : d.isNegative = true ↔ d.toNanos < 0 := by
  have hnanos := d.nanos_lt
  rw [isNegative, decide_eq_true_eq, toNanos]
  omega

namespace Interval

/-- A whole number, or the nearest one of 64 bits if it does not fit. -/
def held (n : Int) : Int := max (-2 ^ 63) (min n (2 ^ 63 - 1))

theorem held_mono {m n : Int} (h : m ≤ n) : held m ≤ held n := by
  rw [held, held]
  omega

/-- Opposite numbers are held as opposites strictly between the bounds, and nowhere else. -/
theorem held_neg_iff (n : Int) : held (-n) = -held n ↔ -2 ^ 63 < n ∧ n < 2 ^ 63 := by
  rw [held, held]
  omega

theorem toInt_getD_word? (n : Int) {bound : Int64}
    (hlow : n < -2 ^ 63 → bound = Int64.minValue) (hhigh : 2 ^ 63 ≤ n → bound = Int64.maxValue) :
    ((word? n).getD bound).toInt = held n := by
  rw [word?, held]
  split
  case isTrue hfits =>
    rw [Option.getD_some, Int64.toInt_ofInt_of_le (by omega) (by omega)]
    omega
  case isFalse hfits =>
    -- what does not fit lies beyond the bound on its side of zero
    rw [Option.getD_none]
    rcases Int.lt_or_le n 0 with hneg | hpos
    · rw [hlow (by omega), Int64.toInt_minValue]
      omega
    · rw [hhigh (by omega), Int64.toInt_maxValue]
      omega

theorem toInt_microseconds_ofDuration (d : Duration) :
    (ofDuration d).microseconds.toInt = held ((d.toNanos : Int).tdiv 1000) := by
  rw [← d.toMicros_eq]
  exact toInt_getD_word? _ (by omega) fun _ => rfl

theorem toInt_microseconds_ofDelta (d : TimeDelta) :
    (ofDelta d).microseconds.toInt = held (d.toNanos.tdiv 1000) := by
  have htruncates : Truncates d.toNanos d.toMicros := truncates_tdiv d.toNanos
  refine toInt_getD_word? d.toMicros (fun hlow => if_pos ?_) (fun hhigh => if_neg ?_)
  · rw [d.isNegative_iff]
    rcases Int.lt_or_le d.toNanos 0 with hneg | hpos
    · exact hneg
    · have := htruncates.nonneg hpos
      omega
  · rw [d.isNegative_iff]
    intro hneg
    have := htruncates.nonpos (Int.le_of_lt hneg)
    omega

theorem eq_of_toInt_eq {i j : Interval} (hi : i = ofMicroseconds i.microseconds)
    (hj : j = ofMicroseconds j.microseconds) (h : i.microseconds.toInt = j.microseconds.toInt) :
    i = j := by
  rw [hi, hj, Int64.toInt_inj.mp h]

/-- The whole microseconds of a length are kept where 64 bits hold them, and the bound on their side
where they do not. So a longer length gives no fewer, opposite lengths give opposite numbers unless
one of them does not fit, and a length that has both forms gives one interval. -/
theorem lengths_held :
    (∀ d : Duration, (ofDuration d).months = 0 ∧ (ofDuration d).days = 0 ∧
      (ofDuration d).microseconds.toInt =
        max (-2 ^ 63) (min ((d.toNanos : Int).tdiv 1000) (2 ^ 63 - 1))) ∧
    (∀ d : TimeDelta, (ofDelta d).months = 0 ∧ (ofDelta d).days = 0 ∧
      (ofDelta d).microseconds.toInt =
        max (-2 ^ 63) (min (d.toNanos.tdiv 1000) (2 ^ 63 - 1))) ∧
    (∀ d d' : Duration, d.toNanos ≤ d'.toNanos →
      (ofDuration d).microseconds ≤ (ofDuration d').microseconds) ∧
    (∀ d d' : TimeDelta, d.toNanos ≤ d'.toNanos →
      (ofDelta d).microseconds ≤ (ofDelta d').microseconds) ∧
    (∀ d d' : TimeDelta, d'.toNanos = -d.toNanos →
      ((ofDelta d').microseconds.toInt = -(ofDelta d).microseconds.toInt ↔
        -2 ^ 63 < d.toNanos.tdiv 1000 ∧ d.toNanos.tdiv 1000 < 2 ^ 63)) ∧
    ∀ (d : Duration) (d' : TimeDelta), d'.toNanos = d.toNanos → ofDelta d' = ofDuration d := by
  refine ⟨fun d => ⟨rfl, rfl, toInt_microseconds_ofDuration d⟩,
    fun d => ⟨rfl, rfl, toInt_microseconds_ofDelta d⟩, fun d d' h => ?_, fun d d' h => ?_,
    fun d d' h => ?_, fun d d' h => ?_⟩
  · rw [Int64.le_iff_toInt_le, toInt_microseconds_ofDuration, toInt_microseconds_ofDuration]
    exact held_mono (Int.tdiv_le_tdiv (by decide) (Int.ofNat_le.mpr h))
  · rw [Int64.le_iff_toInt_le, toInt_microseconds_ofDelta, toInt_microseconds_ofDelta]
    exact held_mono (Int.tdiv_le_tdiv (by decide) h)
  · rw [toInt_microseconds_ofDelta, toInt_microseconds_ofDelta, h, Int.neg_tdiv]
    exact held_neg_iff _
  · refine eq_of_toInt_eq rfl rfl ?_
    rw [toInt_microseconds_ofDelta, toInt_microseconds_ofDuration, h]

/-- The longest length before zero of which no whole microsecond is lost. -/
def leastDelta : TimeDelta := ⟨-9223372036855, 224191001, by decide⟩

/-- Its opposite, by one microsecond too long. -/
def oppositeDelta : TimeDelta := ⟨9223372036854, 775808999, by decide⟩

theorem leastDelta_held :
    (ofDelta leastDelta).microseconds.toInt = -2 ^ 63 ∧
      (ofDelta leastDelta).microseconds ≤ (ofDelta oppositeDelta).microseconds ∧
      (ofDuration ⟨1, 0, by decide, by decide⟩).microseconds ≤
        (ofDuration ⟨9223372036854, 775808999, by decide, by decide⟩).microseconds ∧
      (ofDelta oppositeDelta).microseconds.toInt ≠ -(ofDelta leastDelta).microseconds.toInt ∧
      ofDelta oppositeDelta = ofDuration ⟨9223372036854, 775808999, by decide, by decide⟩ := by
  obtain ⟨-, hdelta, hduration, hmono, hneg, hboth⟩ := lengths_held
  refine ⟨(hdelta leastDelta).2.2, hmono _ _ (by decide), hduration _ _ (by decide), ?_,
    hboth _ _ rfl⟩
  rw [Ne, hneg leastDelta oppositeDelta rfl]
  decide

end Interval

end BoundSql
