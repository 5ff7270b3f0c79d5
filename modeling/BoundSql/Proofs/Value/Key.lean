import BoundSql.Proofs.Json.Text
import BoundSql.Value.Key

namespace BoundSql

namespace Bytes

@[simp] theorem length_little (width n : Nat) : (little width n).length = width := by
  induction width generalizing n with
  | zero => rfl
  | succ width ih => rw [little, List.length_cons, ih]

theorem ofLittle_little (width n : Nat) : ofLittle (little width n) = n % 256 ^ width := by
  induction width generalizing n with
  | zero => rw [Nat.pow_zero, Nat.mod_one]; rfl
  | succ width ih => rw [little, ofLittle, ih, Nat.pow_succ', Nat.mod_mul]; rfl

theorem little_injective {width m n : Nat} (hm : m < 256 ^ width) (hn : n < 256 ^ width)
    (h : little width m = little width n) : m = n := by
  have hread := congrArg ofLittle h
  rwa [ofLittle_little, ofLittle_little, Nat.mod_eq_of_lt hm, Nat.mod_eq_of_lt hn] at hread

/-- Two numbers of fixed widths in a row. -/
theorem append_injective {width m n : Nat} {as bs : List UInt8}
    (h : little width m ++ as = little width n ++ bs) : little width m = little width n ∧ as = bs :=
  List.append_inj h (by rw [length_little, length_little])

theorem ofText_injective {s t : String} (h : ofText s = ofText t) : s = t := by
  have hbytes : s.toUTF8 = t.toUTF8 := ByteArray.ext (Array.toList_inj.mp h)
  rw [String.toUTF8_eq_toByteArray, String.toUTF8_eq_toByteArray] at hbytes
  exact String.toByteArray_inj.mp hbytes

theorem bits_injective {w width : Nat} (hw : 2 ^ w ≤ 256 ^ width) {m n : BitVec w}
    (h : little width m.toNat = little width n.toNat) : m = n :=
  BitVec.toNat_inj.mp
    (little_injective (m.isLt.trans_le hw) (n.isLt.trans_le hw) h)

end Bytes

open Bytes

theorem Instant.toInt_seconds (t : Instant) : (Int64.ofInt t.seconds).toInt = t.seconds :=
  Int64.toInt_ofInt_of_le (by have := t.seconds_ge; omega) (by have := t.seconds_le; omega)

theorem Instant.bytes_injective {s t : Instant}
    (h : little 8 (Int64.ofInt s.seconds).toBitVec.toNat ++ little 4 s.nanos =
      little 8 (Int64.ofInt t.seconds).toBitVec.toNat ++ little 4 t.nanos) : s = t := by
  obtain ⟨hseconds, hnanos⟩ := append_injective h
  have hs : s.seconds = t.seconds := by
    have hword := Int64.toBitVec_inj.mp (bits_injective (by decide) hseconds)
    rw [← s.toInt_seconds, hword, t.toInt_seconds]
  have hn : s.nanos = t.nanos :=
    little_injective (s.nanos_lt.trans (by decide)) (t.nanos_lt.trans (by decide)) hnanos
  obtain ⟨_, _, _, _, _⟩ := s
  obtain ⟨_, _, _, _, _⟩ := t
  obtain rfl := hs
  obtain rfl := hn
  rfl

theorem Interval.bytes_injective {i j : Interval}
    (h : little 8 i.microseconds.toBitVec.toNat ++ little 4 i.days.toBitVec.toNat ++
        little 4 i.months.toBitVec.toNat =
      little 8 j.microseconds.toBitVec.toNat ++ little 4 j.days.toBitVec.toNat ++
        little 4 j.months.toBitVec.toNat) : i = j := by
  rw [List.append_assoc, List.append_assoc] at h
  obtain ⟨hmicros, h⟩ := append_injective h
  obtain ⟨hdays, hmonths⟩ := append_injective h
  obtain ⟨_, _, _⟩ := i
  obtain ⟨_, _, _⟩ := j
  obtain rfl := Int32.toBitVec_inj.mp (bits_injective (by decide) hmonths)
  obtain rfl := Int32.toBitVec_inj.mp (bits_injective (by decide) hdays)
  obtain rfl := Int64.toBitVec_inj.mp (bits_injective (by decide) hmicros)
  rfl

theorem Number.key_injective {m n : Number} (h : m.key = n.key) : m = n := by
  have hbytes := congrArg Key.bytes h
  cases m <;> cases n
  case smallInt.smallInt =>
    exact congrArg smallInt (Int16.toBitVec_inj.mp (bits_injective (by decide) hbytes))
  case int.int =>
    exact congrArg int (Int32.toBitVec_inj.mp (bits_injective (by decide) hbytes))
  case bigInt.bigInt =>
    exact congrArg bigInt (Int64.toBitVec_inj.mp (bits_injective (by decide) hbytes))
  case real.real x y =>
    obtain ⟨a⟩ := x
    obtain ⟨b⟩ := y
    obtain rfl : a = b := UInt32.toBitVec_inj.mp (bits_injective (by decide) hbytes)
    rfl
  case double.double x y =>
    obtain ⟨a⟩ := x
    obtain ⟨b⟩ := y
    obtain rfl : a = b := UInt64.toBitVec_inj.mp (bits_injective (by decide) hbytes)
    rfl
  case timestamp.timestamp => exact congrArg timestamp (Instant.bytes_injective hbytes)
  case interval.interval => exact congrArg interval (Interval.bytes_injective hbytes)
  all_goals exact absurd (congrArg Key.tag h) (by simp [key])

theorem Number.tag_bounds (n : Number) : 1 < n.key.tag ∧ n.key.tag < 9 := by
  cases n <;> simp [key]

theorem Number.key_ne (n : Number) {k : Key} (hk : ¬ (1 < k.tag ∧ k.tag < 9)) : n.key ≠ k :=
  fun h => hk (h ▸ n.tag_bounds)

theorem Value.key_injective {v w : Value} (h : v.key = w.key) : v = w := by
  have hbytes := congrArg Key.bytes h
  cases v <;> cases w
  case text.text => exact congrArg text (ofText_injective hbytes)
  case number.number => exact congrArg number (Number.key_injective h)
  case boolean.boolean a b =>
    cases a <;> cases b
    case true.false | false.true => cases hbytes
    all_goals rfl
  case bytes.bytes => exact congrArg bytes hbytes
  case uuid.uuid u u' =>
    obtain ⟨_, _⟩ := u
    obtain ⟨_, _⟩ := u'
    obtain rfl := hbytes
    rfl
  case json.json => exact congrArg json (Json.text_injective (ofText_injective hbytes))
  case number.text n _ | number.boolean n _ | number.bytes n _ | number.uuid n _ |
      number.json n _ => exact absurd h (n.key_ne (by simp [key]))
  case text.number n | boolean.number n | bytes.number n | uuid.number n | json.number n =>
    exact absurd h.symm (n.key_ne (by simp [key]))
  all_goals exact absurd (congrArg Key.tag h) (by simp [key])

end BoundSql
