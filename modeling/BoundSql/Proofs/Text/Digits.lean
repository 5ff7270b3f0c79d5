import Mathlib.Algebra.Group.Nat.Defs
import Mathlib.Data.List.Basic
import Mathlib.Data.Nat.Init

namespace BoundSql.Digits

/-- No digit comes first. -/
def Apart (cs : List Char) : Prop := ∀ c ∈ cs.head?, c.isDigit = false

theorem isDigit_toDigits {n : Nat} : ∀ c ∈ Nat.toDigits 10 n, c.isDigit = true :=
  fun _ hc => Nat.isDigit_of_mem_toDigits (by decide) (by decide) hc

/-- The digits of a number are read to their end. -/
theorem takeWhile_toDigits (n : Nat) {cs : List Char} (hcs : Apart cs) :
    (Nat.toDigits 10 n ++ cs).takeWhile Char.isDigit = Nat.toDigits 10 n := by
  rw [List.takeWhile_append_of_pos isDigit_toDigits]
  cases cs with
  | nil => simp
  | cons c cs => simp [hcs c rfl]

theorem dropWhile_toDigits (n : Nat) {cs : List Char} (hcs : Apart cs) :
    (Nat.toDigits 10 n ++ cs).dropWhile Char.isDigit = cs := by
  rw [List.dropWhile_append_of_pos isDigit_toDigits]
  cases cs with
  | nil => rfl
  | cons c cs => exact List.dropWhile_cons_of_neg (by simp [hcs c rfl])

/-- Decimal digits alone. -/
def Only (cs : List Char) : Prop := ∀ c ∈ cs, c.isDigit = true

theorem Only.append {cs ds : List Char} (hc : Only cs) (hd : Only ds) : Only (cs ++ ds) :=
  List.forall_mem_append.mpr ⟨hc, hd⟩

theorem Only.notMem {cs : List Char} (h : Only cs) {c : Char} (hc : c.isDigit = false) : c ∉ cs :=
  fun hmem => by simp [h c hmem] at hc

theorem only_zeros (n : Nat) : Only (List.replicate n '0') := by
  intro c hc
  rw [List.eq_of_mem_replicate hc]
  rfl

theorem ofDigitChars_zeros_append (n : Nat) (cs : List Char) :
    Nat.ofDigitChars 10 (List.replicate n '0' ++ cs) 0 = Nat.ofDigitChars 10 cs 0 := by
  rw [Nat.ofDigitChars_append, Nat.ofDigitChars_replicate_zero, Nat.mul_zero]

theorem ofDigitChars_append_zeros (n : Nat) (cs : List Char) :
    Nat.ofDigitChars 10 (cs ++ List.replicate n '0') 0 = 10 ^ n * Nat.ofDigitChars 10 cs 0 := by
  rw [Nat.ofDigitChars_append, Nat.ofDigitChars_replicate_zero]

theorem toList_toString_ofNat (n : Nat) : (toString (Int.ofNat n)).toList = Nat.toDigits 10 n :=
  Nat.toList_repr

theorem toList_toString_negSucc (n : Nat) :
    (toString (Int.negSucc n)).toList = '-' :: Nat.toDigits 10 (n + 1) := by
  rw [← Nat.toList_repr]
  exact String.toList_append

end BoundSql.Digits
