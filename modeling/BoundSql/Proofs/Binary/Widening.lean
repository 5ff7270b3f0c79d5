import BoundSql.Proofs.Binary.Shortest

namespace BoundSql.Binary

theorem twoTo_add (m n : Nat) : twoTo (m + n) = twoTo m * twoTo n := Nat.pow_add ..

theorem cast_twoTo (n : Nat) : (twoTo n : ℚ) = 2 ^ (n : Int) := by
  rw [twoTo, Nat.pow_eq, Nat.cast_pow, zpow_natCast]
  rfl

theorem log2_twoTo (n : Nat) : (twoTo n).log2 = n := Nat.log2_two_pow

theorem twoTo_log2_le {n : Nat} (h : n ≠ 0) : twoTo n.log2 ≤ n := Nat.log2_self_le h

theorem lt_twoTo_log2 (n : Nat) : n < twoTo (n.log2 + 1) := Nat.lt_log2_self

theorem log2_mul_twoTo {n : Nat} (h : n ≠ 0) (a : Nat) : (n * twoTo a).log2 = n.log2 + a := by
  rw [Nat.log2_eq_iff (Nat.mul_ne_zero h (twoTo_pos a).ne')]
  have hlow := Nat.mul_le_mul_right (twoTo a) (twoTo_log2_le h)
  have hhigh := Nat.mul_lt_mul_of_pos_right (lt_twoTo_log2 n) (twoTo_pos a)
  rw [← twoTo_add] at hlow hhigh
  rw [Nat.add_right_comm] at hhigh
  exact ⟨hlow, hhigh⟩

/-- There is nothing to round where the division is exact. -/
theorem roundDiv_mul (n : Nat) {d : Nat} (hd : 0 < d) : roundDiv (n * d) d = n := by
  rw [roundDiv, Nat.mul_div_cancel n hd, Nat.mul_mod_left]
  exact if_pos hd

namespace Format

variable {f : Format} {bits : Nat}

/-- The size of a finite number. -/
def magnitude (f : Format) (bits : Nat) : ℚ := f.significand bits * 2 ^ f.unitExponent bits

theorem infinity_lt_signBit (f : Format) : f.infinity < f.signBit := by
  have hbit : f.signBit = twoTo f.exponentBits * twoTo f.fractionBits := by
    rw [signBit, twoTo_add, Nat.mul_comm]
  have hpos := twoTo_pos f.exponentBits
  rw [infinity, hbit, topExponent]
  exact Nat.mul_lt_mul_of_pos_right (by omega) (twoTo_pos _)

/-- The fields of a pattern without a sign that is put together from them. -/
theorem fields_of_parts {e t : Nat} (he : e < twoTo f.exponentBits)
    (ht : t < twoTo f.fractionBits) :
    f.exponentField (e * twoTo f.fractionBits + t) = e ∧
      f.fractionField (e * twoTo f.fractionBits + t) = t := by
  have hpos := twoTo_pos f.fractionBits
  rw [exponentField, fractionField, Nat.mul_comm e, Nat.mul_add_div hpos, Nat.mul_add_mod,
    Nat.div_eq_of_lt ht, Nat.add_zero, Nat.mod_eq_of_lt he, Nat.mod_eq_of_lt ht]
  exact ⟨rfl, rfl⟩

/-- A significand of full width, or any significand in the least unit, is read back together with
its unit: the leading bit of the significand adds one to the exponent. -/
theorem read_packed {k m : Nat} (hm : m < 2 * twoTo f.fractionBits)
    (hk : k = 0 ∨ twoTo f.fractionBits ≤ m) (htop : k + 2 ≤ f.topExponent) :
    f.significand (k * twoTo f.fractionBits + m) = m ∧
      f.unitExponent (k * twoTo f.fractionBits + m) = k - (f.depth : Int) := by
  have htop' : k + 1 < twoTo f.exponentBits := by
    rw [topExponent] at htop
    omega
  rcases Nat.lt_or_ge m (twoTo f.fractionBits) with hsmall | hfull
  -- a significand without the leading bit is in the least unit, and its exponent field is zero
  · obtain rfl : k = 0 := hk.resolve_right (Nat.not_le.mpr hsmall)
    obtain ⟨he, ht⟩ := f.fields_of_parts (e := 0) (t := m) (by omega) hsmall
    rw [significand, unitExponent, he, ht]
    exact ⟨if_pos rfl, rfl⟩
  · obtain ⟨t, rfl⟩ := Nat.exists_eq_add_of_le hfull
    have hsplit : k * twoTo f.fractionBits + (twoTo f.fractionBits + t) =
        (k + 1) * twoTo f.fractionBits + t := by
      rw [Nat.succ_mul, Nat.add_assoc]
    obtain ⟨he, ht⟩ := f.fields_of_parts (e := k + 1) (t := t) htop' (by omega)
    rw [hsplit, significand, unitExponent, he, ht]
    have hmax : Nat.max (k + 1) 1 = k + 1 := Nat.max_eq_left (by omega)
    rw [hmax, Nat.add_sub_cancel]
    exact ⟨if_neg k.succ_ne_zero, rfl⟩

/-- The unit in which `s` times a power of two is written. -/
def unitFor (f : Format) (s : Nat) (q : Int) : Int :=
  max (s.log2 + q - f.fractionBits) (-(f.depth : Int))

/-- The significand that it has in that unit. -/
def scaled (f : Format) (s : Nat) (q : Int) : Nat := s * twoTo (q - f.unitFor s q).toNat

section Scaled

variable {s : Nat} {q : Int}

theorem unitFor_le (hfits : s.log2 ≤ f.fractionBits) (hlow : -(f.depth : Int) ≤ q) :
    f.unitFor s q ≤ q := by
  rw [unitFor]
  omega

theorem scaled_lt (hunit : f.unitFor s q ≤ q) : f.scaled s q < 2 * twoTo f.fractionBits := by
  have hbits : s.log2 + q - f.fractionBits ≤ f.unitFor s q := le_max_left _ _
  rw [← twoTo_succ]
  calc f.scaled s q
      < twoTo (s.log2 + 1) * twoTo (q - f.unitFor s q).toNat :=
        Nat.mul_lt_mul_of_pos_right (lt_twoTo_log2 s) (twoTo_pos _)
    _ = twoTo (s.log2 + 1 + (q - f.unitFor s q).toNat) := (twoTo_add _ _).symm
    _ ≤ twoTo (f.fractionBits + 1) := twoTo_le_twoTo (by omega)

/-- Above the least unit the significand has its full width. -/
theorem scaled_full (hs : s ≠ 0) (hunit : f.unitFor s q ≤ q) :
    (f.unitFor s q + f.depth).toNat = 0 ∨ twoTo f.fractionBits ≤ f.scaled s q := by
  have hdepth : -(f.depth : Int) ≤ f.unitFor s q := le_max_right _ _
  rcases hdepth.eq_or_lt with heq | hlt
  · exact .inl (by omega)
  · have heq : f.unitFor s q = s.log2 + q - f.fractionBits := by
      rw [unitFor] at hlt ⊢
      omega
    refine .inr ?_
    calc twoTo f.fractionBits
        = twoTo s.log2 * twoTo (q - f.unitFor s q).toNat := by
          rw [← twoTo_add]
          congr 1
          omega
      _ ≤ f.scaled s q := Nat.mul_le_mul_right _ (twoTo_log2_le hs)

theorem cast_scaled (hunit : f.unitFor s q ≤ q) :
    (f.scaled s q : ℚ) * 2 ^ f.unitFor s q = s * 2 ^ q := by
  rw [scaled, Nat.cast_mul, cast_twoTo, mul_assoc, ← zpow_add₀ (by norm_num)]
  congr 2
  omega

/-- A significand that has a bit for each of its digits is written without rounding. -/
theorem ofRatio_twoTo (hs : s ≠ 0) {a b : Nat} (hq : q = a - b) (hunit : f.unitFor s q ≤ q) :
    f.ofRatio (s * twoTo a) (twoTo b) =
      min ((f.unitFor s q + f.depth).toNat * twoTo f.fractionBits + f.scaled s q) f.infinity := by
  -- the leading bit is that of `s`, so that the first guess of its exponent stands
  have habove : ((s.log2 + a : Nat) : Int) - b = s.log2 + q := by omega
  have hleading : ¬ s * twoTo a * twoTo (-((s.log2 : Int) + q)).toNat <
      twoTo b * twoTo ((s.log2 : Int) + q).toNat := by
    rw [Nat.not_lt, Nat.mul_assoc, ← twoTo_add, ← twoTo_add]
    calc twoTo (b + ((s.log2 : Int) + q).toNat)
        = twoTo (s.log2 + (a + (-((s.log2 : Int) + q)).toNat)) := by congr 1; omega
      _ ≤ s * twoTo (a + (-((s.log2 : Int) + q)).toNat) := by
        rw [twoTo_add]
        exact Nat.mul_le_mul_right _ (twoTo_log2_le hs)
  have hquot : s * twoTo a * twoTo (-f.unitFor s q).toNat =
      f.scaled s q * (twoTo b * twoTo (f.unitFor s q).toNat) := by
    rw [scaled, Nat.mul_assoc, Nat.mul_assoc, ← twoTo_add, ← twoTo_add, ← twoTo_add]
    congr 2
    omega
  have hpos := Nat.mul_pos (twoTo_pos b) (twoTo_pos (f.unitFor s q).toNat)
  simp only [ofRatio, if_neg (Nat.mul_ne_zero hs (twoTo_pos a).ne'), log2_mul_twoTo hs, log2_twoTo,
    habove, if_neg hleading]
  rw [← unitFor, hquot, roundDiv_mul _ hpos]

/-- A ratio whose significand fits and whose exponent is in range is written exactly. -/
theorem magnitude_ofRatio (hs : s ≠ 0) {a b : Nat} (hq : q = a - b)
    (hfits : s.log2 ≤ f.fractionBits) (hlow : -(f.depth : Int) ≤ q)
    (htop : (f.unitFor s q + f.depth).toNat + 2 ≤ f.topExponent) :
    f.ofRatio (s * twoTo a) (twoTo b) < f.infinity ∧
      f.magnitude (f.ofRatio (s * twoTo a) (twoTo b)) = s * 2 ^ q := by
  have hunit := unitFor_le hfits hlow
  have hlt := scaled_lt hunit
  have hfinite : (f.unitFor s q + f.depth).toNat * twoTo f.fractionBits + f.scaled s q <
      f.infinity :=
    calc _ < (f.unitFor s q + f.depth).toNat * twoTo f.fractionBits + 2 * twoTo f.fractionBits :=
          Nat.add_lt_add_left hlt _
      _ = ((f.unitFor s q + f.depth).toNat + 2) * twoTo f.fractionBits := (Nat.add_mul _ _ _).symm
      _ ≤ f.topExponent * twoTo f.fractionBits := Nat.mul_le_mul_right _ htop
  rw [ofRatio_twoTo hs hq hunit, Nat.min_eq_left hfinite.le]
  obtain ⟨hsignificand, hexponent⟩ := read_packed hlt (scaled_full hs hunit) htop
  have hdepth : -(f.depth : Int) ≤ f.unitFor s q := le_max_right _ _
  have hback : ((f.unitFor s q + f.depth).toNat : Int) - f.depth = f.unitFor s q := by omega
  refine ⟨hfinite, ?_⟩
  rw [magnitude, hsignificand, hexponent, hback, cast_scaled hunit]

end Scaled

theorem log2_significand_le (f : Format) (bits : Nat) :
    (f.significand bits).log2 ≤ f.fractionBits := by
  have hlt := f.significand_lt_twoTo bits
  rw [← twoTo_succ] at hlt
  rcases Nat.eq_zero_or_pos (f.significand bits) with hzero | hpos
  · rw [hzero]
    exact Nat.zero_le _
  · exact Nat.lt_succ_iff.mp ((Nat.log2_lt hpos.ne').mpr hlt)

theorem magnitude_mod (f : Format) (bits : Nat) :
    f.magnitude (bits % f.signBit) = f.magnitude bits := by
  rw [magnitude, magnitude, significand_mod, unitExponent_mod]

theorem isNaN_mod (f : Format) (bits : Nat) : f.isNaN (bits % f.signBit) = f.isNaN bits := by
  rw [isNaN, isNaN, exponentField_mod, fractionField_mod]

theorem isFinite_mod (f : Format) (bits : Nat) :
    f.isFinite (bits % f.signBit) = f.isFinite bits := by
  rw [isFinite, isFinite, exponentField_mod]

theorem isNaN_of_isFinite (h : f.isFinite bits = true) : f.isNaN bits = false := by
  rw [isFinite, bne_iff_ne] at h
  rw [isNaN, beq_eq_false_iff_ne.mpr h, Bool.false_and]

theorem isFinite_of_lt (h : bits < f.infinity) : f.isFinite bits = true := by
  have hfield := exponentField_of_lt (h.trans f.infinity_lt_signBit)
  have hlt : bits / twoTo f.fractionBits < f.topExponent :=
    (Nat.div_lt_iff_lt_mul (twoTo_pos _)).mpr h
  rw [isFinite, bne_iff_ne, hfield]
  exact hlt.ne

/-- Patterns from infinity on have the greatest exponent, and only infinity has no fraction. -/
theorem read_beyond {p : Nat} (hp : p < twoTo f.fractionBits) :
    f.isFinite (f.infinity + p) = false ∧ f.isNaN (f.infinity + p) = (p != 0) := by
  have htop : f.topExponent < twoTo f.exponentBits := Nat.sub_lt (twoTo_pos _) Nat.one_pos
  obtain ⟨he, ht⟩ := f.fields_of_parts htop hp
  rw [isFinite, isNaN, infinity, he, ht, bne_self_eq_false, beq_self_eq_true, Bool.true_and]
  exact ⟨rfl, rfl⟩

theorem add_infinity_lt {p : Nat} (hp : p < twoTo f.fractionBits) :
    f.infinity + p < f.signBit := by
  have hbit : f.signBit = (f.topExponent + 1) * twoTo f.fractionBits := by
    have htop : f.topExponent + 1 = twoTo f.exponentBits := Nat.succ_pred (twoTo_pos _).ne'
    rw [htop, signBit, twoTo_add, Nat.mul_comm]
  rw [hbit, Nat.succ_mul]
  exact Nat.add_lt_add_left hp _

/-- A sign in front of a pattern that has none. -/
theorem isNegative_add {m : Nat} (hm : m < f.signBit) (s : Bool) :
    f.isNegative ((if s then f.signBit else 0) + m) = s ∧
      ((if s then f.signBit else 0) + m) % f.signBit = m := by
  have hpos : 0 < f.signBit := twoTo_pos _
  have hquot (n : Nat) : f.isNegative n = (n / f.signBit % 2 == 1) := rfl
  cases s with
  | false =>
    rw [hquot, if_neg Bool.false_ne_true, Nat.zero_add, Nat.div_eq_of_lt hm, Nat.mod_eq_of_lt hm]
    exact ⟨rfl, rfl⟩
  | true =>
    rw [hquot, if_pos rfl, Nat.add_div_left m hpos, Nat.div_eq_of_lt hm, Nat.add_mod_left,
      Nat.mod_eq_of_lt hm]
    exact ⟨rfl, rfl⟩

end Format


namespace Binary32

variable {a : Binary32}

/-- The same number in both formats: of one sign, and either no number in both, or infinite in both,
or finite in both and of one size. -/
structure Same (a : Binary32) (b : Binary64) : Prop where
  isNegative : binary64.isNegative b.bits.toNat = binary32.isNegative a.bits.toNat
  isNaN : binary64.isNaN b.bits.toNat = binary32.isNaN a.bits.toNat
  isFinite : binary64.isFinite b.bits.toNat = binary32.isFinite a.bits.toNat
  magnitude : binary32.isFinite a.bits.toNat = true →
    binary64.magnitude b.bits.toNat = binary32.magnitude a.bits.toNat

/-- The wider number without its sign. -/
def widened (a : Binary32) : Nat :=
  if binary32.isNaN a.bits.toNat then
    binary64.infinity + (twoTo 51 ||| binary32.fractionField a.bits.toNat * twoTo 29)
  else if binary32.isFinite a.bits.toNat then
    binary64.ofRatio (binary32.ratio a.bits.toNat).1 (binary32.ratio a.bits.toNat).2
  else binary64.infinity

theorem unitExponent_bounds (h : binary32.isFinite a.bits.toNat = true) :
    -149 ≤ binary32.unitExponent a.bits.toNat ∧ binary32.unitExponent a.bits.toNat ≤ 104 := by
  have htop : binary32.topExponent = 255 := by decide
  have hdepth : binary32.depth = 149 := by decide
  have hlt : binary32.exponentField a.bits.toNat < 256 := Nat.mod_lt _ (by decide)
  rw [Format.isFinite, bne_iff_ne, htop] at h
  have hmax : Nat.max (binary32.exponentField a.bits.toNat) 1 ≤ 254 :=
    Nat.max_le.mpr ⟨by omega, by omega⟩
  rw [Format.unitExponent, hdepth]
  omega

theorem widened_of_isFinite (h : binary32.isFinite a.bits.toNat = true) :
    a.widened < binary64.infinity ∧
      binary64.magnitude a.widened = binary32.magnitude a.bits.toNat := by
  have hnan : ¬ binary32.isNaN a.bits.toNat = true := by
    rw [Format.isNaN_of_isFinite h]
    exact Bool.false_ne_true
  obtain ⟨hlow, hhigh⟩ := unitExponent_bounds h
  have hlog := binary32.log2_significand_le a.bits.toNat
  have hratio : binary32.ratio a.bits.toNat =
      (binary32.significand a.bits.toNat * twoTo (binary32.unitExponent a.bits.toNat).toNat,
        twoTo (-binary32.unitExponent a.bits.toNat).toNat) := rfl
  have hsize : binary32.magnitude a.bits.toNat =
      binary32.significand a.bits.toNat * 2 ^ binary32.unitExponent a.bits.toNat := rfl
  rw [widened, if_neg hnan, if_pos h, hratio, hsize]
  generalize binary32.unitExponent a.bits.toNat = q at *
  generalize binary32.significand a.bits.toNat = s at *
  rcases Nat.eq_zero_or_pos s with rfl | hpos
  · have hzero : binary64.ofRatio (0 * twoTo q.toNat) (twoTo (-q).toNat) = 0 := by
      rw [Nat.zero_mul, Format.ofRatio, if_pos rfl]
    have hnone : binary64.significand 0 = 0 := by decide
    rw [hzero, Format.magnitude, hnone, Nat.cast_zero, zero_mul, zero_mul]
    exact ⟨by decide, rfl⟩
  · have hq : q = (q.toNat : Int) - (-q).toNat := by omega
    have hdepth : binary64.depth = 1074 := by decide
    have htop : binary64.topExponent = 2047 := by decide
    have hwidth : binary32.fractionBits = 23 ∧ binary64.fractionBits = 52 := ⟨rfl, rfl⟩
    have hunit : binary64.unitFor s q ≤ 75 := by
      rw [Format.unitFor]
      omega
    exact Format.magnitude_ofRatio hpos.ne' hq (by omega) (by omega) (by omega)

theorem widened_of_isNaN (h : binary32.isNaN a.bits.toNat = true) :
    ∃ p, p ≠ 0 ∧ p < twoTo binary64.fractionBits ∧ a.widened = binary64.infinity + p := by
  have ht : binary32.fractionField a.bits.toNat < twoTo 23 := Nat.mod_lt _ (twoTo_pos _)
  have hpayload : binary32.fractionField a.bits.toNat * twoTo 29 < 2 ^ 52 :=
    Nat.mul_lt_mul_of_pos_right ht (twoTo_pos 29)
  have hquiet : twoTo 51 ≤ twoTo 51 ||| binary32.fractionField a.bits.toNat * twoTo 29 :=
    Nat.left_le_or
  refine ⟨twoTo 51 ||| binary32.fractionField a.bits.toNat * twoTo 29,
    ((twoTo_pos 51).trans_le hquiet).ne', Nat.or_lt_two_pow (by decide) hpayload, ?_⟩
  rw [widened, if_pos h]

theorem widened_of_infinite (hnan : ¬ binary32.isNaN a.bits.toNat = true)
    (h : ¬ binary32.isFinite a.bits.toNat = true) : a.widened = binary64.infinity := by
  rw [widened, if_neg hnan, if_neg h]

/-- What the wider pattern is, read without its sign. -/
theorem read_widened (a : Binary32) :
    a.widened < binary64.signBit ∧
      binary64.isNaN a.widened = binary32.isNaN a.bits.toNat ∧
      binary64.isFinite a.widened = binary32.isFinite a.bits.toNat := by
  cases hfinite : binary32.isFinite a.bits.toNat with
  | true =>
    have hlt := (widened_of_isFinite hfinite).1
    have hwide := Format.isFinite_of_lt hlt
    exact ⟨hlt.trans binary64.infinity_lt_signBit,
      by rw [Format.isNaN_of_isFinite hwide, Format.isNaN_of_isFinite hfinite], hwide⟩
  | false =>
    cases hnan : binary32.isNaN a.bits.toNat with
    | true =>
      obtain ⟨p, hne, hp, hwidened⟩ := widened_of_isNaN hnan
      obtain ⟨hwide, hwideNaN⟩ := Format.read_beyond hp
      rw [hwidened, hwide, hwideNaN]
      exact ⟨Format.add_infinity_lt hp, bne_iff_ne.mpr hne, rfl⟩
    | false =>
      rw [widened_of_infinite (by rw [hnan]; nofun) (by rw [hfinite]; nofun)]
      exact ⟨binary64.infinity_lt_signBit, Format.read_beyond (twoTo_pos _) |>.symm⟩

theorem toNat_widen (a : Binary32) :
    a.widen.bits.toNat =
      (if binary32.isNegative a.bits.toNat then binary64.signBit else 0) + a.widened := by
  have hlt := a.read_widened.1
  have hbit : binary64.signBit = 2 ^ 63 := by decide
  have hwiden : a.widen.bits = UInt64.ofNat
      ((if binary32.isNegative a.bits.toNat then binary64.signBit else 0) + a.widened) := rfl
  rw [hwiden, UInt64.toNat_ofNat']
  refine Nat.mod_eq_of_lt ?_
  split <;> omega

/-- To widen a number takes nothing from it. -/
theorem same_widen (a : Binary32) : a.Same a.widen := by
  obtain ⟨hlt, hnan, hfinite⟩ := a.read_widened
  obtain ⟨hsign, hmod⟩ := Format.isNegative_add hlt (binary32.isNegative a.bits.toNat)
  rw [← toNat_widen] at hsign hmod
  refine ⟨hsign, ?_, ?_, fun h => ?_⟩
  · rw [← hnan, ← hmod, Format.isNaN_mod]
  · rw [← hfinite, ← hmod, Format.isFinite_mod]
  · rw [← (widened_of_isFinite h).2, ← hmod, Format.magnitude_mod]

/-- The least positive number of 32 bits has its leading bit in the significand once it is wider. -/
example : (⟨1⟩ : Binary32).widen = ⟨0x36A0000000000000⟩ := by decide

end Binary32

end BoundSql.Binary
