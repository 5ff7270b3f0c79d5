import Mathlib.Algebra.Order.Field.Rat
import Mathlib.Algebra.Order.Field.Basic
import Mathlib.Order.CompletePartialOrder
import Mathlib.Order.Interval.Set.Basic
import Mathlib.Tactic.FieldSimp
import Mathlib.Tactic.LinearCombination
import Mathlib.Tactic.Positivity
import Mathlib.Tactic.Ring
import BoundSql.Binary.Shortest
/-!
The reals that round to a magnitude are an interval, and these intervals follow each other without
gaps: counted in quarters of the least positive number, the interval of a magnitude ends where that
of the next begins.
-/

namespace BoundSql.Binary

theorem twoTo_pos (n : Nat) : 0 < twoTo n := Nat.pow_pos (by decide)

theorem twoTo_succ (n : Nat) : twoTo (n + 1) = 2 * twoTo n := Nat.pow_succ'

theorem tenTo_pos (n : Nat) : 0 < tenTo n := Nat.pow_pos (by decide)

/-- The number that a decimal stands for. -/
def Decimal.toRat (d : Decimal) : ℚ := d.digits * 10 ^ d.power

theorem ten_zpow (p : Int) : (10 : ℚ) ^ p = tenTo p.toNat / tenTo (-p).toNat := by
  obtain ⟨n, rfl | rfl⟩ := p.eq_nat_or_neg
  · simp [tenTo]
  · simp [tenTo]

namespace Interval

/-- The numbers that round to the value of an interval. -/
def points (i : Interval) : Set ℚ :=
  if i.closed then Set.Icc (i.low / i.den) (i.high / i.den)
  else Set.Ioo (i.low / i.den) (i.high / i.den)

theorem holds_iff {i : Interval} (hi : 0 < i.den) (d : Decimal) :
    i.holds d.digits d.power = true ↔ d.toRat ∈ i.points := by
  have hden : (0 : ℚ) < i.den := by exact_mod_cast hi
  have hten : (0 : ℚ) < tenTo (-d.power).toNat := by exact_mod_cast tenTo_pos _
  have hrat : d.toRat = (d.digits * tenTo d.power.toNat : ℕ) / tenTo (-d.power).toNat := by
    rw [Decimal.toRat, ten_zpow]
    push_cast
    ring
  rw [points, holds, hrat]
  split
  · rw [Set.mem_Icc, div_le_div_iff₀ hden hten, div_le_div_iff₀ hten hden, Bool.and_eq_true,
      decide_eq_true_eq, decide_eq_true_eq]
    norm_cast
  · rw [Set.mem_Ioo, div_lt_div_iff₀ hden hten, div_lt_div_iff₀ hten hden, Bool.and_eq_true,
      decide_eq_true_eq, decide_eq_true_eq]
    norm_cast

theorem le_of_mem_points {i : Interval} {x : ℚ} (h : x ∈ i.points) :
    (i.low / i.den : ℚ) ≤ x ∧ x ≤ i.high / i.den := by
  rw [points] at h
  split at h
  · exact h
  · exact ⟨h.1.le, h.2.le⟩

theorem lt_of_mem_points {i : Interval} {x : ℚ} (hi : i.closed ≠ true) (h : x ∈ i.points) :
    (i.low / i.den : ℚ) < x ∧ x < i.high / i.den := by
  rwa [points, if_neg hi] at h

end Interval

namespace Format

variable {f : Format} {bits : Nat}

/-- The unit of the significand, as a power of two and in units of the least positive number. -/
def scale (f : Format) (bits : Nat) : Nat := Nat.max (f.exponentField bits) 1 - 1

/-- Where the interval of a magnitude begins, in quarters of the least positive number. -/
def lowEnd (f : Format) (bits : Nat) : Nat :=
  let below := if f.fractionField bits = 0 ∧ 1 < f.exponentField bits then 1 else 2
  (4 * f.significand bits - below) * twoTo (f.scale bits)

def highEnd (f : Format) (bits : Nat) : Nat :=
  (4 * f.significand bits + 2) * twoTo (f.scale bits)

theorem scale_ratio (f : Format) (bits : Nat) :
    twoTo (f.unitExponent bits).toNat * twoTo f.depth =
      twoTo (f.scale bits) * twoTo (-f.unitExponent bits).toNat := by
  have hq : f.unitExponent bits = f.scale bits - (f.depth : Int) := rfl
  rw [hq]
  simp only [twoTo, Nat.pow_eq, ← pow_add]
  congr 1
  omega

theorem interval_den_pos (f : Format) (bits : Nat) : 0 < (f.interval bits).den :=
  Nat.mul_pos (by decide) (twoTo_pos _)

theorem div_den (f : Format) (bits n : Nat) :
    ((n * twoTo (f.unitExponent bits).toNat : ℕ) : ℚ) / (f.interval bits).den =
      (n * twoTo (f.scale bits) : ℕ) / (4 * twoTo f.depth : ℕ) := by
  have hden : ((f.interval bits).den : ℚ) ≠ 0 := by exact_mod_cast (interval_den_pos f bits).ne'
  have hdepth : ((4 * twoTo f.depth : ℕ) : ℚ) ≠ 0 := by
    exact_mod_cast (Nat.mul_pos (by decide) (twoTo_pos _)).ne'
  have hscale := congrArg (Nat.cast (R := ℚ)) (scale_ratio f bits)
  push_cast at hscale
  rw [div_eq_div_iff hden hdepth, interval]
  push_cast
  linear_combination 4 * (n : ℚ) * hscale

theorem low_div_den (f : Format) (bits : Nat) :
    ((f.interval bits).low : ℚ) / (f.interval bits).den =
      f.lowEnd bits / (4 * twoTo f.depth : ℕ) := div_den f bits _

theorem high_div_den (f : Format) (bits : Nat) :
    ((f.interval bits).high : ℚ) / (f.interval bits).den =
      f.highEnd bits / (4 * twoTo f.depth : ℕ) := div_den f bits _

theorem lowEnd_lt_highEnd (f : Format) (bits : Nat) : f.lowEnd bits < f.highEnd bits := by
  rw [lowEnd, highEnd]
  exact Nat.mul_lt_mul_of_pos_right (by omega) (twoTo_pos _)

theorem exponentField_of_lt (h : bits < f.signBit) :
    f.exponentField bits = bits / twoTo f.fractionBits := by
  rw [exponentField, Nat.mod_eq_of_lt]
  rw [Nat.div_lt_iff_lt_mul (twoTo_pos _), twoTo, twoTo, Nat.pow_eq, Nat.pow_eq, ← pow_add]
  rwa [signBit, twoTo, Nat.pow_eq, Nat.add_comm] at h

/-- What follows has the next fraction, or else no fraction and the next exponent. -/
theorem fields_succ (h : bits + 1 < f.signBit) :
    f.fractionField bits + 1 < twoTo f.fractionBits ∧
        f.exponentField (bits + 1) = f.exponentField bits ∧
        f.fractionField (bits + 1) = f.fractionField bits + 1 ∨
      f.fractionField bits + 1 = twoTo f.fractionBits ∧
        f.exponentField (bits + 1) = f.exponentField bits + 1 ∧
        f.fractionField (bits + 1) = 0 := by
  have hpos := twoTo_pos f.fractionBits
  have hsplit : bits + 1 = twoTo f.fractionBits * (bits / twoTo f.fractionBits) +
      (bits % twoTo f.fractionBits + 1) := by
    rw [← Nat.add_assoc, Nat.div_add_mod]
  have hlt := Nat.mod_lt bits hpos
  rw [exponentField_of_lt h, exponentField_of_lt (Nat.lt_of_succ_lt h), fractionField,
    fractionField]
  generalize bits / twoTo f.fractionBits = e, bits % twoTo f.fractionBits = t at *
  rcases Nat.lt_or_eq_of_le (Nat.succ_le_of_lt hlt) with hin | hcarry
  · refine .inl ⟨hin, ?_, ?_⟩
    · rw [hsplit, Nat.mul_add_div hpos, Nat.div_eq_of_lt hin, Nat.add_zero]
    · rw [hsplit, Nat.mul_add_mod, Nat.mod_eq_of_lt hin]
  · refine .inr ⟨hcarry, ?_, ?_⟩
    · rw [hsplit, Nat.mul_add_div hpos, ← hcarry, Nat.div_self (Nat.succ_pos t)]
    · rw [hsplit, Nat.mul_add_mod, ← hcarry, Nat.mod_self]

/-- No number lies between the intervals of two magnitudes that follow each other. -/
theorem highEnd_eq_lowEnd_succ (h : bits + 1 < f.signBit) :
    f.highEnd bits = f.lowEnd (bits + 1) := by
  rcases fields_succ h with ⟨-, he, ht⟩ | ⟨hB, he, ht⟩
  · have hm : f.significand (bits + 1) = f.significand bits + 1 := by
      simp only [significand, he, ht]
      split <;> omega
    have hs : f.scale (bits + 1) = f.scale bits := by rw [scale, scale, he]
    rw [highEnd, lowEnd, hm, hs, if_neg (by omega)]
    congr 1
  · have hm : f.significand (bits + 1) = twoTo f.fractionBits := by
      rw [significand, he, ht, if_neg (Nat.succ_ne_zero _), Nat.add_zero]
    by_cases hzero : f.exponentField bits = 0
    · have hs : f.scale (bits + 1) = f.scale bits := by simp [scale, he, hzero]
      rw [highEnd, lowEnd, hm, hs, he, hzero, if_neg (by omega), significand, if_pos hzero]
      congr 1
      omega
    · have hs : f.scale (bits + 1) = f.scale bits + 1 := by
        simp only [scale, he, Nat.max_def]
        split <;> split <;> omega
      rw [highEnd, lowEnd, hm, hs, he, ht, if_pos (by omega), significand, if_neg hzero,
        twoTo_succ, ← Nat.mul_assoc]
      congr 1
      omega

theorem lowEnd_lt_lowEnd {a b : Nat} (hab : a < b) (hb : b < f.signBit) :
    f.lowEnd a < f.lowEnd b := by
  induction b, hab using Nat.le_induction with
  | base => exact highEnd_eq_lowEnd_succ hb ▸ f.lowEnd_lt_highEnd a
  | succ b _ ih =>
    calc f.lowEnd a < f.lowEnd b := ih (Nat.lt_of_succ_lt hb)
      _ < f.highEnd b := f.lowEnd_lt_highEnd b
      _ = f.lowEnd (b + 1) := highEnd_eq_lowEnd_succ hb

theorem closed_iff (hf : 0 < f.fractionBits) :
    (f.interval bits).closed = true ↔ bits % 2 = 0 := by
  have heven : 2 ∣ twoTo f.fractionBits := dvd_pow_self 2 hf.ne'
  have ht : f.fractionField bits % 2 = bits % 2 := Nat.mod_mod_of_dvd _ heven
  have hm : f.significand bits % 2 = bits % 2 := by
    rw [significand]
    split <;> omega
  rw [interval, decide_eq_true_eq, hm]

/-- No number rounds to two magnitudes. Where one interval ends and the next begins, only the even
one of the two has its end. -/
theorem points_disjoint (hf : 0 < f.fractionBits) {a b : Nat} (hab : a < b) (hb : b < f.signBit) :
    Disjoint (f.interval a).points (f.interval b).points := by
  rw [Set.disjoint_left]
  intro x ha hx
  have hunit : (0 : ℚ) < (4 * twoTo f.depth : ℕ) := by
    exact_mod_cast Nat.mul_pos (by decide) (twoTo_pos _)
  have ha' := Interval.le_of_mem_points ha
  have hb' := Interval.le_of_mem_points hx
  have hle : f.lowEnd b ≤ f.highEnd a := by
    have h := hb'.1.trans ha'.2
    rw [low_div_den, high_div_den, div_le_div_iff_of_pos_right hunit] at h
    exact_mod_cast h
  have hnext : b = a + 1 := by
    by_contra hne
    have hlt := lowEnd_lt_lowEnd (f := f) (a := a + 1) (b := b) (by omega) hb
    rw [← highEnd_eq_lowEnd_succ (by omega)] at hlt
    omega
  subst hnext
  have hend : ((f.interval a).high : ℚ) / (f.interval a).den =
      (f.interval (a + 1)).low / (f.interval (a + 1)).den := by
    rw [low_div_den, high_div_den, highEnd_eq_lowEnd_succ hb]
  rcases Nat.mod_two_eq_zero_or_one a with heven | hodd
  · have hopen : (f.interval (a + 1)).closed ≠ true := by rw [Ne, closed_iff hf]; omega
    exact absurd (Interval.lt_of_mem_points hopen hx).1 (hend ▸ ha'.2).not_gt
  · have hopen : (f.interval a).closed ≠ true := by rw [Ne, closed_iff hf]; omega
    exact absurd (Interval.lt_of_mem_points hopen ha).2 (hend ▸ hb'.1).not_gt

theorem points_injective (hf : 0 < f.fractionBits) {a b : Nat} (ha : a < f.signBit)
    (hb : b < f.signBit) {x : ℚ} (hax : x ∈ (f.interval a).points)
    (hbx : x ∈ (f.interval b).points) : a = b := by
  by_contra hne
  rcases Nat.lt_or_gt_of_ne hne with hlt | hlt
  · exact Set.disjoint_left.mp (points_disjoint hf hlt hb) hax hbx
  · exact Set.disjoint_left.mp (points_disjoint hf hlt ha) hbx hax

theorem significand_eq_zero_iff : f.significand bits = 0 ↔ f.isZero bits = true := by
  have hpos := twoTo_pos f.fractionBits
  rw [significand, isZero, Bool.and_eq_true, beq_iff_eq, beq_iff_eq]
  split <;> omega

theorem zero_mem_points (hzero : f.isZero bits = true) : (0 : ℚ) ∈ (f.interval bits).points := by
  have hm := significand_eq_zero_iff.mpr hzero
  have hclosed : (f.interval bits).closed = true := by simp [interval, hm]
  have hlow : (f.interval bits).low = 0 := by simp [interval, hm]
  rw [Interval.points, if_pos hclosed, hlow, Nat.cast_zero, zero_div]
  exact ⟨le_rfl, by positivity⟩

theorem exponentField_mod (f : Format) (bits : Nat) :
    f.exponentField (bits % f.signBit) = f.exponentField bits := by
  have hbit : f.signBit = twoTo f.fractionBits * twoTo f.exponentBits := Nat.pow_add ..
  rw [exponentField, exponentField, hbit, Nat.mod_mul_right_div_self, Nat.mod_mod]

theorem fractionField_mod (f : Format) (bits : Nat) :
    f.fractionField (bits % f.signBit) = f.fractionField bits := by
  have hbit : f.signBit = twoTo f.fractionBits * twoTo f.exponentBits := Nat.pow_add ..
  rw [fractionField, fractionField, hbit, Nat.mod_mul_right_mod]

theorem significand_mod (f : Format) (bits : Nat) :
    f.significand (bits % f.signBit) = f.significand bits := by
  rw [significand, significand, exponentField_mod, fractionField_mod]

theorem unitExponent_mod (f : Format) (bits : Nat) :
    f.unitExponent (bits % f.signBit) = f.unitExponent bits := by
  rw [unitExponent, unitExponent, exponentField_mod]

/-- The sign has no part in the interval. -/
theorem interval_mod (f : Format) (bits : Nat) :
    f.interval (bits % f.signBit) = f.interval bits := by
  rw [interval, interval, significand_mod, unitExponent_mod, exponentField_mod, fractionField_mod]

end Format

end BoundSql.Binary
