import Mathlib.Data.List.TakeWhile
import BoundSql.Binary.Layout
import BoundSql.Proofs.Binary.Shortest
import BoundSql.Proofs.Text.Digits
/-!
Every layout writes a decimal in one of two forms, with a point or with an exponent, and either form
tells the number it stands for.
-/

namespace BoundSql.Binary

open Digits

theorem forall_ne {c : Char} {cs : List Char} (h : c ∉ cs) : ∀ d ∈ cs, decide (d ≠ c) = true :=
  fun _ hd => decide_eq_true (ne_of_mem_of_not_mem hd h)

/-- Up to its first mark a text is what comes before the mark, and behind that the rest. -/
theorem takeWhile_ne {c : Char} {cs : List Char} (h : c ∉ cs) (ds : List Char) :
    (cs ++ c :: ds).takeWhile (· ≠ c) = cs ∧ (cs ++ c :: ds).dropWhile (· ≠ c) = c :: ds := by
  rw [List.takeWhile_append_of_pos (forall_ne h), List.dropWhile_append_of_pos (forall_ne h)]
  simp

theorem takeWhile_ne_self {c : Char} {cs : List Char} (h : c ∉ cs) :
    cs.takeWhile (· ≠ c) = cs ∧ cs.dropWhile (· ≠ c) = [] :=
  ⟨List.takeWhile_eq_self_iff.mpr (forall_ne h), List.dropWhile_eq_nil_iff.mpr (forall_ne h)⟩

def readInt : List Char → Int
  | '-' :: ds => -Nat.ofDigitChars 10 ds 0
  | '+' :: ds => Nat.ofDigitChars 10 ds 0
  | ds => Nat.ofDigitChars 10 ds 0

def readMantissa (cs : List Char) : ℚ :=
  let fraction := (cs.dropWhile (· ≠ '.')).tail
  Nat.ofDigitChars 10 (cs.takeWhile (· ≠ '.') ++ fraction) 0 / 10 ^ fraction.length

/-- The number that a text without a sign in front stands for. -/
def read (cs : List Char) : ℚ :=
  readMantissa (cs.takeWhile (· ≠ 'e')) * 10 ^ readInt (cs.dropWhile (· ≠ 'e')).tail

theorem readInt_toDigits (n : Nat) : readInt (Nat.toDigits 10 n) = n := by
  have hvalue := Nat.ofDigitChars_ten_toDigits (n := n)
  cases hd : Nat.toDigits 10 n with
  | nil => exact absurd hd Nat.toDigits_ne_nil
  | cons d ds =>
    have hdigit : d.isDigit = true := isDigit_toDigits (n := n) d (by simp [hd])
    rw [hd] at hvalue
    rw [readInt, hvalue]
    · rintro ds' ⟨⟩
      cases hdigit
    · rintro ds' ⟨⟩
      cases hdigit

theorem readInt_toString (n : Int) : readInt (toString n).toList = n := by
  cases n with
  | ofNat n =>
    rw [toList_toString_ofNat]
    exact readInt_toDigits n
  | negSucc n =>
    rw [toList_toString_negSucc]
    exact congrArg (fun m : Nat => -(m : Int)) Nat.ofDigitChars_ten_toDigits

theorem readMantissa_point {whole fraction : List Char} (hw : Only whole) :
    readMantissa (whole ++ '.' :: fraction) =
      Nat.ofDigitChars 10 (whole ++ fraction) 0 / 10 ^ fraction.length := by
  obtain ⟨htake, hdrop⟩ := takeWhile_ne (hw.notMem (c := '.') rfl) fraction
  simp only [readMantissa, htake, hdrop, List.tail_cons]

theorem readMantissa_whole {whole : List Char} (hw : Only whole) :
    readMantissa whole = Nat.ofDigitChars 10 whole 0 := by
  obtain ⟨htake, hdrop⟩ := takeWhile_ne_self (hw.notMem (c := '.') rfl)
  simp only [readMantissa, htake, hdrop, List.tail_nil, List.append_nil, List.length_nil, pow_zero,
    div_one]

/-- Layouts that mark an exponent that is not negative with a plus sign, or not at all. -/
def Layout.Signed (l : Layout) : Prop := l.plusSign = "" ∨ l.plusSign = "+"

theorem signed_jsonLayout : jsonLayout.Signed := .inr rfl

theorem toList_exponent (l : Layout) (lead : Int) :
    (l.exponent lead).toList = 'e' :: (l.exponent lead).toList.tail := by
  simp [Layout.exponent]

theorem readInt_exponent {l : Layout} (hl : l.Signed) (lead : Int) :
    readInt (l.exponent lead).toList.tail = lead := by
  rw [Layout.exponent, String.toList_append, String.toList_append]
  split
  case isTrue => exact readInt_toString lead
  case isFalse hpos =>
    rcases hl with hp | hp
    · rw [hp]
      exact readInt_toString lead
    · rw [hp]
      obtain ⟨n, rfl⟩ := Int.eq_ofNat_of_zero_le (Int.not_lt.mp hpos)
      change readInt ('+' :: (toString (Int.ofNat n)).toList) = n
      rw [toList_toString_ofNat]
      exact congrArg Int.ofNat Nat.ofDigitChars_ten_toDigits

/-- How a number that is not negative is written: with a point, or with an exponent behind its
first digit and the others. -/
inductive Written (l : Layout) : List Char → ℚ → Prop
  | positional (whole fraction : List Char) (hne : whole ≠ []) (hw : Only whole)
      (hf : Only fraction) :
      Written l (whole ++ '.' :: fraction)
        (Nat.ofDigitChars 10 (whole ++ fraction) 0 / 10 ^ fraction.length)
  | scientific {d : Char} {fraction : List Char} (hd : d.isDigit = true) (hf : Only fraction)
      (lead : Int) :
      Written l (d :: (if fraction = [] then [] else '.' :: fraction) ++ (l.exponent lead).toList)
        (Nat.ofDigitChars 10 (d :: fraction) 0 / 10 ^ fraction.length * 10 ^ lead)

theorem Written.read_eq {l : Layout} (hl : l.Signed) {cs : List Char} {x : ℚ}
    (h : Written l cs x) : read cs = x := by
  cases h with
  | positional whole fraction hne hw hf =>
    have he : 'e' ∉ whole ++ '.' :: fraction := by
      simp [hw.notMem (c := 'e') rfl, hf.notMem (c := 'e') rfl]
    obtain ⟨htake, hdrop⟩ := takeWhile_ne_self he
    rw [read, htake, hdrop, readMantissa_point hw]
    simp [readInt]
  | @scientific d fraction hd hf lead =>
    have he : 'e' ∉ d :: (if fraction = [] then [] else '.' :: fraction) := by
      have hde : 'e' ≠ d := by rintro rfl; cases hd
      split <;> simp [hde, hf.notMem (c := 'e') rfl]
    rw [toList_exponent]
    obtain ⟨htake, hdrop⟩ := takeWhile_ne he (l.exponent lead).toList.tail
    rw [read, htake, hdrop, List.tail_cons, readInt_exponent hl]
    congr 1
    have hwhole : Only [d] := by simpa [Only] using hd
    split
    case isTrue hnil => simp [hnil, readMantissa_whole hwhole]
    case isFalse => exact readMantissa_point hwhole

/-- A digit comes first, so that a sign in front can be told apart. -/
theorem Written.head?_ne {l : Layout} {cs : List Char} {x : ℚ} (h : Written l cs x) :
    cs.head? ≠ some '-' := by
  cases h with
  | positional whole fraction hne hw hf =>
    rw [List.head?_append_of_ne_nil _ hne]
    exact fun hhead => hw.notMem rfl (List.mem_of_head? hhead)
  | @scientific d fraction hd hf lead =>
    rintro ⟨⟩
    cases hd

/-- No whole number is written so. -/
theorem Written.marked {l : Layout} {cs : List Char} {x : ℚ} (h : Written l cs x) :
    '.' ∈ cs ∨ 'e' ∈ cs := by
  cases h with
  | positional => exact .inl (by simp)
  | scientific hd hf lead =>
    rw [toList_exponent]
    exact .inr (by simp)

/-- Digits, signs, the point and the mark of an exponent. -/
def InNumber (c : Char) : Prop := c.isDigit = true ∨ c ∈ ['-', '+', '.', 'e']

instance (c : Char) : Decidable (InNumber c) := inferInstanceAs (Decidable (_ ∨ _))

theorem inNumber_of_only {cs : List Char} (h : Only cs) : ∀ c ∈ cs, InNumber c :=
  fun c hc => .inl (h c hc)

theorem inNumber_toString (n : Int) : ∀ c ∈ (toString n).toList, InNumber c := by
  cases n with
  | ofNat n =>
    rw [toList_toString_ofNat]
    exact inNumber_of_only isDigit_toDigits
  | negSucc n =>
    rw [toList_toString_negSucc, List.forall_mem_cons]
    exact ⟨by decide, inNumber_of_only isDigit_toDigits⟩

theorem inNumber_exponent {l : Layout} (hl : l.Signed) (lead : Int) :
    ∀ c ∈ (l.exponent lead).toList, InNumber c := by
  have hplus : ∀ c ∈ l.plusSign.toList, InNumber c := by
    rcases hl with hp | hp <;> simp [hp, InNumber]
  rw [Layout.exponent, String.toList_append, String.toList_append, List.forall_mem_append,
    List.forall_mem_append]
  refine ⟨⟨by simp [InNumber], ?_⟩, inNumber_toString lead⟩
  split
  · simp
  · exact hplus

theorem Written.inNumber {l : Layout} (hl : l.Signed) {cs : List Char} {x : ℚ}
    (h : Written l cs x) : ∀ c ∈ cs, InNumber c := by
  have hpoint : InNumber '.' := by decide
  cases h with
  | positional whole fraction hne hw hf =>
    rw [List.forall_mem_append, List.forall_mem_cons]
    exact ⟨inNumber_of_only hw, hpoint, inNumber_of_only hf⟩
  | scientific hd hf lead =>
    rw [List.forall_mem_append, List.forall_mem_cons]
    refine ⟨⟨.inl hd, ?_⟩, inNumber_exponent hl lead⟩
    split
    · simp
    · exact List.forall_mem_cons.mpr ⟨hpoint, inNumber_of_only hf⟩

theorem toRat_stripZeros (fuel : Nat) (d : Decimal) : (stripZeros fuel d).toRat = d.toRat := by
  induction fuel generalizing d with
  | zero => rfl
  | succ fuel ih =>
    rw [stripZeros]
    split
    case isTrue h =>
      have hdigits : (d.digits : ℚ) = 10 * (d.digits / 10 : ℕ) := by
        exact_mod_cast (Nat.mul_div_cancel' (Nat.dvd_of_mod_eq_zero h.2)).symm
      rw [ih, Decimal.toRat, Decimal.toRat, zpow_add_one₀ (by norm_num), hdigits]
      ring
    case isFalse => rfl

theorem ten_zpow_eq {e : Int} {m n : Nat} (h : e = m - n) : (10 : ℚ) ^ e = 10 ^ m / 10 ^ n := by
  rw [h, zpow_sub₀ (by norm_num), zpow_natCast, zpow_natCast]

theorem toList_zeros (n : Nat) : (zeros n).toList = List.replicate n '0' := String.toList_ofList

section

variable (l : Layout) {digits : List Char} (hne : digits ≠ []) (hd : Only digits) (lead : Int)
include hne hd

theorem written_positional :
    Written l (positional digits lead).toList
      (Nat.ofDigitChars 10 digits 0 * 10 ^ (lead + 1 - digits.length)) := by
  simp only [positional]
  split
  case isTrue hneg =>
    have h := Written.positional (l := l) ['0'] (List.replicate (-lead - 1).toNat '0' ++ digits)
      (by simp) (only_zeros 1) ((only_zeros _).append hd)
    have hvalue := ofDigitChars_zeros_append (1 + (-lead - 1).toNat) digits
    rw [List.replicate_add, List.replicate_one, List.append_assoc] at hvalue
    convert h using 1
    · simp [toList_zeros]
    · rw [hvalue, ten_zpow_eq (m := 0)
        (n := (List.replicate (-lead - 1).toNat '0' ++ digits).length)]
      · ring
      · simp
        omega
  split
  case isTrue hpos hle =>
    have h := Written.positional (l := l)
      (digits ++ List.replicate (lead.toNat + 1 - digits.length) '0') ['0'] (by simp [hne])
      (hd.append (only_zeros _)) (only_zeros 1)
    have hvalue := ofDigitChars_append_zeros (lead.toNat + 1 - digits.length + 1) digits
    rw [List.replicate_add, List.replicate_one, ← List.append_assoc] at hvalue
    convert h using 1
    · simp [toList_zeros]
    · rw [hvalue, ten_zpow_eq (m := lead.toNat + 1 - digits.length + 1) (n := 1) (by omega)]
      push_cast
      rw [List.length_singleton]
      ring
  case isFalse hpos hlt =>
    have h := Written.positional (l := l) (digits.take (lead.toNat + 1))
      (digits.drop (lead.toNat + 1)) (by simp [hne])
      (fun c hc => hd c (List.mem_of_mem_take hc)) (fun c hc => hd c (List.mem_of_mem_drop hc))
    convert h using 1
    · simp
    · rw [List.take_append_drop, ten_zpow_eq (m := 0)
        (n := (digits.drop (lead.toNat + 1)).length)]
      · ring
      · simp
        omega

theorem written_scientific :
    Written l (l.scientific digits lead).toList
      (Nat.ofDigitChars 10 digits 0 * 10 ^ (lead + 1 - digits.length)) := by
  cases digits with
  | nil => exact absurd rfl hne
  | cons d ds =>
    obtain ⟨hfirst, hrest⟩ := List.forall_mem_cons.mp hd
    have h := Written.scientific (l := l) hfirst hrest lead
    convert h using 1
    · cases ds <;> simp [Layout.scientific]
    · have hlead : lead + 1 - (d :: ds).length = lead - ds.length := by simp
      rw [hlead, zpow_sub₀ (by norm_num), zpow_natCast]
      ring

end

theorem written_magnitude (l : Layout) (d : Decimal) :
    Written l (l.magnitude d).toList d.toRat := by
  have hne := Nat.toDigits_ne_nil (b := 10) (n := (stripZeros 20 d).digits)
  have hvalue : (stripZeros 20 d).toRat =
      Nat.ofDigitChars 10 (Nat.toDigits 10 (stripZeros 20 d).digits) 0 *
        10 ^ ((stripZeros 20 d).power + (Nat.toDigits 10 (stripZeros 20 d).digits).length - 1 + 1 -
          (Nat.toDigits 10 (stripZeros 20 d).digits).length) := by
    rw [Decimal.toRat, Nat.ofDigitChars_ten_toDigits]
    congr 2
    omega
  rw [← toRat_stripZeros 20 d, hvalue]
  simp only [Layout.magnitude]
  split
  · exact written_positional l hne isDigit_toDigits _
  · exact written_scientific l hne isDigit_toDigits _

/-- Behind its sign the text of a finite number writes a number that rounds to it. -/
theorem written_text {f : Format} (hf : f.Narrow) (l : Layout) {bits : Nat}
    (hfinite : f.isFinite bits = true) :
    ∃ cs x, (l.text f bits).toList = (if f.isNegative bits then '-' :: cs else cs) ∧
      Written l cs x ∧ x ∈ (f.interval bits).points := by
  have hnan : f.isNaN bits = false := by
    rw [Format.isFinite, bne_iff_ne] at hfinite
    simp [Format.isNaN, hfinite]
  cases hzero : f.isZero bits with
  | true =>
    refine ⟨['0', '.', '0'], _, ?_, .positional ['0'] ['0'] (by simp) (only_zeros 1)
      (only_zeros 1), ?_⟩
    · cases hs : f.isNegative bits <;> simp [Layout.text, hnan, hfinite, hzero, hs]
    · simpa [Nat.ofDigitChars] using Format.zero_mem_points hzero
  | false =>
    refine ⟨_, _, ?_, written_magnitude l (f.shortest l.tie bits),
      Format.shortest_mem_points hf hzero l.tie⟩
    cases hs : f.isNegative bits <;> simp [Layout.text, hnan, hfinite, hzero, hs]

theorem sign_injective {s t : Bool} {cs ds : List Char} (hc : cs.head? ≠ some '-')
    (hd : ds.head? ≠ some '-')
    (h : (if s then '-' :: cs else cs) = if t then '-' :: ds else ds) : s = t ∧ cs = ds := by
  cases s <;> cases t
  case false.false => exact ⟨rfl, h⟩
  case false.true => exact absurd (congrArg List.head? h) hc
  case true.false => exact absurd (congrArg List.head? h).symm hd
  case true.true => exact ⟨rfl, List.tail_eq_of_cons_eq h⟩

/-- The text of a finite number tells its bits. -/
theorem Layout.text_injective {f : Format} (hf : f.Narrow) {l : Layout} (hl : l.Signed)
    {a b : Nat} (ha : a < 2 * f.signBit) (hb : b < 2 * f.signBit)
    (hafinite : f.isFinite a = true) (hbfinite : f.isFinite b = true)
    (h : l.text f a = l.text f b) : a = b := by
  obtain ⟨cs, x, hatext, hx, hax⟩ := written_text hf l hafinite
  obtain ⟨ds, y, hbtext, hy, hby⟩ := written_text hf l hbfinite
  rw [h, hbtext] at hatext
  obtain ⟨hsign, rfl⟩ := sign_injective hy.head?_ne hx.head?_ne hatext
  have hxy : x = y := (hx.read_eq hl).symm.trans (hy.read_eq hl)
  -- the sign bit has no part in the intervals, so these tell the other bits only
  rw [← f.interval_mod] at hax hby
  have hmod : a % f.signBit = b % f.signBit :=
    Format.points_injective hf.fractionBits_pos (Nat.mod_lt _ (twoTo_pos _))
      (Nat.mod_lt _ (twoTo_pos _)) hax (hxy ▸ hby)
  have hdiv : a / f.signBit = b / f.signBit := by
    have hbit : ∀ s < 2, ∀ t < 2, (t % 2 == 1) = (s % 2 == 1) → s = t := by decide
    exact hbit _ ((Nat.div_lt_iff_lt_mul (twoTo_pos _)).mpr ha) _
      ((Nat.div_lt_iff_lt_mul (twoTo_pos _)).mpr hb) hsign
  rw [← Nat.div_add_mod a f.signBit, hdiv, hmod, Nat.div_add_mod]

end BoundSql.Binary
