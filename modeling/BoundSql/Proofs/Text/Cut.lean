import BoundSql.Event

namespace BoundSql

namespace Cut

/-- `r` is the longest beginning of `s` in whole characters that takes at most `limit` bytes. -/
structure LongestBeginning (limit : Nat) (s r : String) : Prop where
  begins : r.toList <+: s.toList
  fits : r.utf8ByteSize ≤ limit
  longest : ∀ t : String, t.toList <+: s.toList → t.utf8ByteSize ≤ limit → t.toList <+: r.toList

variable {s t r : String} {i j limit : Nat}

theorem toList_prefix_iff : t.toList <+: s.toList ↔ ∃ rest, s = t ++ rest := by
  constructor
  · rintro ⟨rest, h⟩
    refine ⟨String.ofList rest, String.toList_inj.mp ?_⟩
    rw [String.toList_append, String.toList_ofList, h]
  · rintro ⟨rest, rfl⟩
    exact ⟨rest.toList, String.toList_append.symm⟩

theorem isBoundary_iff :
    isBoundary s i = true ↔ ∃ t rest, s = t ++ rest ∧ t.utf8ByteSize = i := by
  rw [isBoundary, String.Pos.Raw.isValid_eq_true_iff, String.Pos.Raw.isValid_iff_exists_append]
  simp only [String.Pos.Raw.ext_iff, String.byteIdx_rawEndPos, eq_comm]

theorem before?_append (t rest : String) : before? (t ++ rest) t.utf8ByteSize = some t := by
  have h : isBoundary (t ++ rest) t.utf8ByteSize = true := isBoundary_iff.mpr ⟨t, rest, rfl, rfl⟩
  rw [before?, dif_pos h, Option.some_inj]
  exact String.copy_sliceTo_eq_iff_exists_splits.mpr ⟨rest, rfl, rfl⟩

theorem backOff_le (s : String) (i : Nat) : backOff s i ≤ i := by
  induction i with
  | zero => exact Nat.le_refl 0
  | succ i ih =>
    rw [backOff]
    split
    next => exact Nat.le_refl (i + 1)
    next => omega

theorem le_backOff (hj : isBoundary s j = true) (hji : j ≤ i) : j ≤ backOff s i := by
  induction i with
  | zero => exact hji
  | succ i ih =>
    rw [backOff]
    split
    next => exact hji
    next hi =>
      have hne : j ≠ i + 1 := fun e => hi (e ▸ hj)
      exact ih (by omega)

/-- One character stands between a boundary and the next. -/
theorem exists_next_boundary (hi : isBoundary s i = true) (hlt : i < s.utf8ByteSize) :
    ∃ j, i < j ∧ j ≤ i + 4 ∧ isBoundary s j = true := by
  obtain ⟨t, rest, rfl, rfl⟩ := isBoundary_iff.mp hi
  cases hrest : rest.toList with
  | nil =>
    rw [String.toList_eq_nil_iff.mp hrest, String.append_empty] at hlt
    omega
  | cons c cs =>
    have hnext : t ++ rest = t.push c ++ String.ofList cs := by
      rw [← String.toList_inj]
      simp [hrest]
    have hsize : (t.push c).utf8ByteSize = t.utf8ByteSize + c.utf8Size := String.utf8ByteSize_push
    have hpos := c.utf8Size_pos
    have hfour := c.utf8Size_le_four
    exact ⟨_, by omega, by omega, isBoundary_iff.mpr ⟨t.push c, _, hnext, rfl⟩⟩

theorem le_backOff_add_three (hi : i < s.utf8ByteSize) : i ≤ backOff s i + 3 := by
  have hle := backOff_le s i
  obtain ⟨j, hlt, hj, hb⟩ := exists_next_boundary (isBoundary_backOff s i) (by omega)
  have hbehind : ¬j ≤ i := fun hji => Nat.not_le_of_lt hlt (le_backOff hb hji)
  omega

/-- Of two beginnings of a text, the one with fewer bytes is a beginning of the other. -/
theorem prefix_of_size_le (ht : t.toList <+: s.toList) (hr : r.toList <+: s.toList)
    (hle : t.utf8ByteSize ≤ r.utf8ByteSize) : t.toList <+: r.toList := by
  rcases List.prefix_or_prefix_of_prefix ht hr with h | h
  · exact h
  · obtain ⟨rest, rfl⟩ := toList_prefix_iff.mp h
    rw [String.utf8ByteSize_append] at hle
    have hrest : rest = "" := String.utf8ByteSize_eq_zero_iff.mp (by omega)
    simp [hrest]

theorem longestBeginning_self (h : s.utf8ByteSize ≤ limit) : LongestBeginning limit s s :=
  ⟨List.prefix_rfl, h, fun _ ht _ => ht⟩

theorem cut?_of_le (h : s.utf8ByteSize ≤ limit) : cut? limit s = some s := if_pos h

/-- What is left of a text that is too long ends where backing off from the limit does. -/
theorem cut?_of_lt (h : limit < s.utf8ByteSize) :
    ∃ r, cut? limit s = some r ∧ r.utf8ByteSize = backOff s limit ∧
      LongestBeginning limit s r := by
  obtain ⟨r, rest, hs, hr⟩ := isBoundary_iff.mp (isBoundary_backOff s limit)
  have hbegins : r.toList <+: s.toList := toList_prefix_iff.mpr ⟨rest, hs⟩
  refine ⟨r, ?_, hr, hbegins, hr ▸ backOff_le s limit, fun t ht hfits => ?_⟩
  · rw [cut?, if_neg (Nat.not_le_of_lt h), ← hr, hs, before?_append]
  · obtain ⟨more, hmore⟩ := toList_prefix_iff.mp ht
    have hle := le_backOff (isBoundary_iff.mpr ⟨t, more, hmore, rfl⟩) hfits
    exact prefix_of_size_le ht hbegins (hr ▸ hle)

theorem size_lt_iff (h : cut? limit s = some r) :
    r.utf8ByteSize < s.utf8ByteSize ↔ limit < s.utf8ByteSize := by
  rcases Nat.lt_or_ge limit s.utf8ByteSize with hlt | hle
  · obtain ⟨t, ht, -, hlongest⟩ := cut?_of_lt hlt
    obtain rfl : t = r := Option.some.inj (ht.symm.trans h)
    have hfits := hlongest.fits
    omega
  · obtain rfl : s = r := Option.some.inj ((cut?_of_le hle).symm.trans h)
    omega

/-- Backing off ends at a boundary, so that there is always a result, and a text that is too long
is cut there. The result is the longest beginning that fits, at most three bytes below the limit and
shorter than the text exactly if that exceeds the limit, which is when a statement is reported as
truncated. -/
theorem cut_longest_beginning (s : String) :
    (∀ limit, isBoundary s (backOff s limit) = true ∧
        ∃ r, cut? limit s = some r ∧ LongestBeginning limit s r ∧
          min limit s.utf8ByteSize ≤ r.utf8ByteSize + 3 ∧
          (r.utf8ByteSize < s.utf8ByteSize ↔ limit < s.utf8ByteSize) ∧
          (limit < s.utf8ByteSize → r.utf8ByteSize = backOff s limit)) ∧
      cut? Event.shownLimit s = some (Event.shown s) ∧
      (Event.isTruncated s = true ↔ Event.shownLimit < s.utf8ByteSize) := by
  have hshown : cut? Event.shownLimit s = some (Event.shown s) := (Option.some_get _).symm
  refine ⟨fun limit => ⟨isBoundary_backOff s limit, ?_⟩, hshown, ?_⟩
  · rcases Nat.lt_or_ge limit s.utf8ByteSize with hlt | hle
    · obtain ⟨r, hr, hsize, hlongest⟩ := cut?_of_lt hlt
      have hnear := le_backOff_add_three hlt
      exact ⟨r, hr, hlongest, by omega, size_lt_iff hr, fun _ => hsize⟩
    · have hs := cut?_of_le hle
      exact ⟨s, hs, longestBeginning_self hle, by omega, size_lt_iff hs,
        fun hlt => absurd hle (Nat.not_le_of_lt hlt)⟩
  · rw [Event.isTruncated, decide_eq_true_eq, size_lt_iff hshown]

/-- Inside a character of four bytes. -/
example : cut? 4 "a😀é" = some "a" ∧ cut? 5 "a😀é" = some "a😀" := by decide

end Cut

end BoundSql
