import Mathlib.Algebra.Order.Field.Power
import Mathlib.Tactic.Linarith
import BoundSql.Proofs.Binary.Rounding
/-!
The search for the shortest decimal begins at a power of ten no greater than the number. Sixteen
powers below, the grid is so fine that the neighbour nearest to the number is in its interval.
-/

namespace BoundSql.Binary

theorem powerAtMost_iff {num den : Nat} (p : Int) :
    powerAtMost p num den = true ↔ (10 : ℚ) ^ p * den ≤ num := by
  have hten : (0 : ℚ) < tenTo (-p).toNat := by exact_mod_cast tenTo_pos _
  rw [powerAtMost, decide_eq_true_eq, ten_zpow, div_mul_eq_mul_div, div_le_iff₀ hten]
  norm_cast

/-- Powers of ten and two compare as their exponents do under an approximation of `log 2`, one from
below if they are positive and one from above if not. -/
theorem ten_zpow_le_two_zpow {a b : Nat} {m n : Int} (hb : b ≠ 0)
    (h : ((10 : ℚ) ^ a) ^ n ≤ (2 ^ b) ^ n) (hmn : m * b ≤ a * n) : (10 : ℚ) ^ m ≤ 2 ^ n := by
  rw [← pow_le_pow_iff_left₀ (by positivity) (by positivity) hb]
  calc ((10 : ℚ) ^ m) ^ b = 10 ^ (m * b) := by rw [zpow_mul, zpow_natCast]
    _ ≤ 10 ^ (a * n) := zpow_le_zpow_right₀ (by norm_num) hmn
    _ = (10 ^ a) ^ n := by rw [zpow_mul, zpow_natCast]
    _ ≤ (2 ^ b) ^ n := h
    _ = (2 ^ n) ^ b := by rw [← zpow_natCast, ← zpow_natCast, ← zpow_mul, ← zpow_mul, mul_comm]

/-- The guess is at most one too high: `log 2` is between `59 / 196` and `28 / 93`. -/
theorem guess_le {n : Int} (hn : -15000 ≤ n ∧ n ≤ 15000) :
    (10 : ℚ) ^ (n * 30103 / 100000 - 1) ≤ 2 ^ (n - 1) := by
  rcases le_or_gt 1 n with hpos | hneg
  · refine ten_zpow_le_two_zpow (a := 59) (b := 196) (by decide) ?_ (by omega)
    exact zpow_le_zpow_left₀ (by omega) (by positivity) (by norm_num)
  · refine ten_zpow_le_two_zpow (a := 28) (b := 93) (by decide) ?_ (by omega)
    have hneg' : n - 1 = -(1 - n) := by omega
    rw [hneg', zpow_neg, zpow_neg]
    refine inv_anti₀ (by positivity) (zpow_le_zpow_left₀ (by omega) (by positivity) ?_)
    norm_num

theorem two_zpow_log2_le {num den : Nat} (hnum : num ≠ 0) :
    (2 : ℚ) ^ ((num.log2 : Int) - den.log2 - 1) * den ≤ num := by
  have hlow : ((2 ^ num.log2 : ℕ) : ℚ) ≤ num := by exact_mod_cast Nat.log2_self_le hnum
  have hhigh : (den : ℚ) ≤ (2 ^ (den.log2 + 1) : ℕ) := by exact_mod_cast Nat.lt_log2_self.le
  push_cast at hlow hhigh
  calc (2 : ℚ) ^ ((num.log2 : Int) - den.log2 - 1) * den
      ≤ 2 ^ ((num.log2 : Int) - den.log2 - 1) * 2 ^ (den.log2 + 1) := by gcongr
    _ = 2 ^ num.log2 := by
      rw [← zpow_natCast, ← zpow_natCast, ← zpow_add₀ (by norm_num)]
      congr 1
      push_cast
      ring
    _ ≤ num := hlow

theorem leadingPower_le {num den : Nat} (hnum : num ≠ 0) (hnum' : num.log2 ≤ 15000)
    (hden : den.log2 ≤ 15000) : (10 : ℚ) ^ leadingPower num den * den ≤ num := by
  simp only [leadingPower]
  split
  case isTrue h => exact (powerAtMost_iff _).mp h
  split
  case isTrue h => exact (powerAtMost_iff _).mp h
  calc _ ≤ (2 : ℚ) ^ ((num.log2 : Int) - den.log2 - 1) * den :=
        mul_le_mul_of_nonneg_right (guess_le (by omega)) (Nat.cast_nonneg _)
    _ ≤ num := two_zpow_log2_le hnum

namespace Interval

variable {i : Interval}

/-- The interval reaches to both sides of the value by one part in `2 ^ 54` at least. -/
structure Wide (i : Interval) : Prop where
  den_pos : 0 < i.den
  below : 2 ^ 54 * i.low + i.value ≤ 2 ^ 54 * i.value
  above : 2 ^ 54 * i.value + i.value ≤ 2 ^ 54 * i.high

/-- The grid of multiples of `10 ^ power` is so fine that a wide interval holds a point of it. -/
def Fine (i : Interval) (power : Int) : Prop := (10 : ℚ) ^ power * i.den * 2 ^ 53 < i.value

theorem fine_iff (i : Interval) (power : Int) :
    i.Fine power ↔ i.den * tenTo power.toNat * 2 ^ 53 < i.value * tenTo (-power).toNat := by
  have hten : (0 : ℚ) < tenTo (-power).toNat := by exact_mod_cast tenTo_pos _
  rw [Fine, ten_zpow, div_mul_eq_mul_div, div_mul_eq_mul_div, div_lt_iff₀ hten,
    mul_comm (tenTo _ : ℚ)]
  norm_cast

/-- No more than half a step of the grid lies between a point of it and the value. -/
def Near (i : Interval) (n : Nat) (power : Int) : Prop :=
  2 * (n * (i.den * tenTo power.toNat)) ≤
      2 * (i.value * tenTo (-power).toNat) + i.den * tenTo power.toNat ∧
    2 * (i.value * tenTo (-power).toNat) ≤
      2 * (n * (i.den * tenTo power.toNat)) + i.den * tenTo power.toNat

/-- Half a step of a fine grid is less than the interval reaches to either side. -/
theorem holds_of_near (hi : i.Wide) {power : Int} (hp : i.Fine power) {n : Nat}
    (hn : i.Near n power) : i.holds n power = true := by
  rw [fine_iff] at hp
  obtain ⟨hle, hge⟩ := hn
  have hbelow := Nat.mul_le_mul_right (tenTo (-power).toNat) hi.below
  have habove := Nat.mul_le_mul_right (tenTo (-power).toNat) hi.above
  have hx : n * tenTo power.toNat * i.den = n * (i.den * tenTo power.toNat) := by ring
  simp only [holds, hx]
  rw [Nat.add_mul, Nat.mul_assoc, Nat.mul_assoc] at hbelow habove
  generalize n * (i.den * tenTo power.toNat) = x at *
  generalize i.den * tenTo power.toNat = unit at *
  generalize i.value * tenTo (-power).toNat = value at *
  generalize i.low * tenTo (-power).toNat = low at *
  generalize i.high * tenTo (-power).toNat = high at *
  have hlow : low < x := by omega
  have hhigh : x < high := by omega
  split <;> simp [hlow, hhigh, hlow.le, hhigh.le]

theorem near_of_mod (hi : 0 < i.den) {power : Int} (up : Bool)
    (hup : up = true → i.den * tenTo power.toNat ≤
      2 * (i.value * tenTo (-power).toNat % (i.den * tenTo power.toNat)))
    (hdown : up = false →
      2 * (i.value * tenTo (-power).toNat % (i.den * tenTo power.toNat)) ≤
        i.den * tenTo power.toNat) :
    i.Near (if up then i.value * tenTo (-power).toNat / (i.den * tenTo power.toNat) + 1
      else i.value * tenTo (-power).toNat / (i.den * tenTo power.toNat)) power := by
  have hunit : 0 < i.den * tenTo power.toNat := Nat.mul_pos hi (tenTo_pos _)
  rw [Near]
  generalize i.den * tenTo power.toNat = unit at *
  generalize i.value * tenTo (-power).toNat = value at *
  have hsplit := Nat.div_add_mod' value unit
  have hlt := Nat.mod_lt value hunit
  cases up with
  | true =>
    have hhalf := hup rfl
    rw [if_pos rfl, Nat.succ_mul (value / unit)]
    omega
  | false =>
    have hhalf := hdown rfl
    rw [if_neg Bool.false_ne_true]
    omega

/-- The neighbour that is tried first is the nearer one. -/
theorem onGrid_eq (hi : 0 < i.den) (tie : Tie) (power : Int) :
    ∃ first second : Nat,
      i.onGrid tie power =
        (if i.holds first power then some ⟨first, power⟩
        else if i.holds second power then some ⟨second, power⟩ else none) ∧
      i.Near first power := by
  refine ⟨_, _, rfl, near_of_mod hi _ (fun h => ?_) (fun h => ?_)⟩
  · split at h
    case h_1 => cases h
    case h_2 hc => exact (Nat.compare_eq_gt.mp hc).le
    case h_3 hc => exact (Nat.compare_eq_eq.mp hc).ge
  · split at h
    case h_1 hc => exact (Nat.compare_eq_lt.mp hc).le
    case h_2 => cases h
    case h_3 hc => exact (Nat.compare_eq_eq.mp hc).le

theorem holds_onGrid (hi : 0 < i.den) {tie : Tie} {power : Int} {d : Decimal}
    (h : i.onGrid tie power = some d) : i.holds d.digits d.power = true := by
  obtain ⟨first, second, heq, -⟩ := onGrid_eq hi tie power
  rw [heq] at h
  split at h
  case isTrue hfirst => exact Option.some.inj h ▸ hfirst
  split at h
  case isTrue hsecond => exact Option.some.inj h ▸ hsecond
  cases h

theorem onGrid_ne_none (hi : i.Wide) {power : Int} (hp : i.Fine power) (tie : Tie) :
    i.onGrid tie power ≠ none := by
  obtain ⟨first, second, heq, hnear⟩ := onGrid_eq hi.den_pos tie power
  rw [heq, if_pos (holds_of_near hi hp hnear)]
  exact Option.some_ne_none _

/-- A search that comes down to a fine grid ends there at the latest. -/
theorem holds_search (hi : i.Wide) (tie : Tie) {fuel : Nat} {power : Int}
    (hp : i.Fine (power - fuel)) :
    i.holds (i.search tie power (fuel + 1)).digits (i.search tie power (fuel + 1)).power =
      true := by
  induction fuel generalizing power with
  | zero =>
    rw [search]
    cases hgrid : i.onGrid tie power with
    | none =>
      rw [Int.natCast_zero, Int.sub_zero] at hp
      exact absurd hgrid (onGrid_ne_none hi hp tie)
    | some d => exact holds_onGrid hi.den_pos hgrid
  | succ fuel ih =>
    rw [search]
    cases hgrid : i.onGrid tie power with
    | none => exact ih (by rwa [Int.sub_sub, Int.add_comm, ← Int.natCast_succ])
    | some d => exact holds_onGrid hi.den_pos hgrid

end Interval

namespace Format

variable {f : Format} {bits : Nat}

/-- Formats of no more than 64 bits. -/
structure Narrow (f : Format) : Prop where
  fractionBits_pos : 0 < f.fractionBits
  fractionBits_le : f.fractionBits ≤ 52
  exponentBits_le : f.exponentBits ≤ 11

theorem narrow_binary64 : binary64.Narrow := ⟨by decide, by decide, by decide⟩

theorem twoTo_le_twoTo {m n : Nat} (h : m ≤ n) : twoTo m ≤ twoTo n :=
  Nat.pow_le_pow_right (by decide) h

theorem significand_lt_twoTo (f : Format) (bits : Nat) :
    f.significand bits < 2 * twoTo f.fractionBits := by
  have ht : f.fractionField bits < twoTo f.fractionBits := Nat.mod_lt _ (twoTo_pos _)
  rw [significand]
  split <;> omega

theorem significand_lt (hf : f.Narrow) (bits : Nat) : f.significand bits < 2 ^ 53 := by
  have hB : twoTo f.fractionBits ≤ twoTo 52 := twoTo_le_twoTo hf.fractionBits_le
  have h52 : twoTo 52 = 2 ^ 52 := rfl
  have hlt := f.significand_lt_twoTo bits
  omega

theorem wide_interval (hf : f.Narrow) (bits : Nat) : (f.interval bits).Wide where
  den_pos := f.interval_den_pos bits
  below := by
    have hm := significand_lt hf bits
    simp only [interval, ← Nat.mul_assoc, ← Nat.add_mul]
    refine Nat.mul_le_mul_right _ ?_
    split
    case isTrue h =>
      have he : f.exponentField bits ≠ 0 := by omega
      have hB : twoTo f.fractionBits ≤ twoTo 52 := twoTo_le_twoTo hf.fractionBits_le
      have h52 : twoTo 52 = 2 ^ 52 := rfl
      have hpow : f.significand bits = twoTo f.fractionBits := by
        rw [significand, if_neg he, h.1, Nat.add_zero]
      omega
    case isFalse => omega
  above := by
    have hm := significand_lt hf bits
    simp only [interval, ← Nat.mul_assoc, ← Nat.add_mul]
    refine Nat.mul_le_mul_right _ ?_
    omega

theorem depth_le (hf : f.Narrow) : f.depth ≤ 1074 := by
  have h : twoTo (f.exponentBits - 1) ≤ twoTo 10 :=
    twoTo_le_twoTo (by have := hf.exponentBits_le; omega)
  have h10 : twoTo 10 = 1024 := rfl
  have := hf.fractionBits_le
  rw [depth]
  omega

theorem scale_le (hf : f.Narrow) (bits : Nat) : f.scale bits ≤ 2046 := by
  have h : twoTo f.exponentBits ≤ twoTo 11 := twoTo_le_twoTo hf.exponentBits_le
  have h11 : twoTo 11 = 2048 := rfl
  have he : f.exponentField bits < twoTo f.exponentBits := Nat.mod_lt _ (twoTo_pos _)
  have hmax : Nat.max (f.exponentField bits) 1 ≤ 2047 := Nat.max_le.mpr ⟨by omega, by omega⟩
  rw [scale]
  omega

theorem log2_den_le (hf : f.Narrow) (bits : Nat) : (f.interval bits).den.log2 ≤ 15000 := by
  have hden : (f.interval bits).den = 2 ^ (2 + (-f.unitExponent bits).toNat) := by
    rw [pow_add]
    rfl
  have hdepth := depth_le hf
  have hq : f.unitExponent bits = f.scale bits - (f.depth : Int) := rfl
  rw [hden, Nat.log2_two_pow]
  omega

theorem log2_value_le (hf : f.Narrow) (bits : Nat) : (f.interval bits).value.log2 ≤ 15000 := by
  by_cases hzero : (f.interval bits).value = 0
  · rw [hzero, Nat.log2_zero]
    exact Nat.zero_le _
  have hm := significand_lt hf bits
  have hscale := scale_le hf bits
  have hq : f.unitExponent bits = f.scale bits - (f.depth : Int) := rfl
  have hvalue : (f.interval bits).value < 2 ^ (55 + (f.unitExponent bits).toNat) := by
    rw [pow_add]
    exact Nat.mul_lt_mul_of_pos_right (by omega) (twoTo_pos _)
  have := (Nat.log2_lt hzero).mpr hvalue
  omega

theorem value_ne_zero (hzero : f.isZero bits = false) : (f.interval bits).value ≠ 0 := by
  have hm : f.significand bits ≠ 0 := by simp [significand_eq_zero_iff, hzero]
  exact Nat.mul_ne_zero (Nat.mul_ne_zero (by decide) hm) (twoTo_pos _).ne'

/-- The shortest decimal of a number rounds to it. -/
theorem shortest_mem_points (hf : f.Narrow) (hzero : f.isZero bits = false) (tie : Tie) :
    (f.shortest tie bits).toRat ∈ (f.interval bits).points := by
  have hwide := wide_interval hf bits
  have hvalue := value_ne_zero hzero
  rw [← Interval.holds_iff hwide.den_pos]
  refine Interval.holds_search hwide tie ?_
  have hlead := leadingPower_le hvalue (log2_value_le hf bits) (log2_den_le hf bits)
  have hpos : (0 : ℚ) < (f.interval bits).value := by exact_mod_cast Nat.pos_of_ne_zero hvalue
  rw [Interval.Fine, zpow_sub₀ (by norm_num), zpow_natCast]
  calc _ = (10 : ℚ) ^ leadingPower (f.interval bits).value (f.interval bits).den *
        (f.interval bits).den * (2 ^ 53 / 10 ^ 16) := by ring
    _ ≤ (f.interval bits).value * (2 ^ 53 / 10 ^ 16) := by gcongr
    _ < (f.interval bits).value := by linarith

end Format

end BoundSql.Binary
