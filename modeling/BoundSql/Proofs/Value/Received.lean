import BoundSql.Proofs.Binary.Widening
import BoundSql.Proofs.Value.Interval
import BoundSql.Proofs.Value.Key
import BoundSql.Value.Wire

namespace BoundSql

open Binary

/-- A parameter as a server has it. Instants are microseconds since 2000, JSON is kept as text. -/
inductive Datum where
  | boolean (b : Bool)
  | bytes (bs : List UInt8)
  | text (s : String)
  | integer (n : Int)
  | single (x : Binary32)
  | double (x : Binary64)
  | instant (micros : Int)
  | interval (i : Interval)
  | uuid (u : Uuid)
  | json (text : String)

namespace Bytes

def text? (bs : List UInt8) : Option String := String.fromUTF8? ⟨bs.toArray⟩

/-- A whole number in two's complement, most significant byte first. -/
def signed (bs : List UInt8) : Int := (ofBig bs : Int).bmod (256 ^ bs.length)

/-- What stands behind a version byte. -/
def versioned? : List UInt8 → Option (List UInt8)
  | 1 :: bs => some bs
  | _ => none

theorem length_big (width n : Nat) : (big width n).length = width := by
  rw [big, List.length_reverse, length_little]

theorem ofBig_big (width n : Nat) : ofBig (big width n) = n % 256 ^ width := by
  rw [ofBig, big, List.reverse_reverse, ofLittle_little]

theorem signed_big {w width : Nat} (hw : 2 ^ w = 256 ^ width) (n : BitVec w) :
    signed (big width n.toNat) = n.toInt := by
  rw [signed, ofBig_big, length_big, ← hw, Nat.mod_eq_of_lt n.isLt, BitVec.toInt_eq_toNat_bmod]

theorem text?_ofText (s : String) : text? (ofText s) = some s := by
  have hbytes : (⟨(ofText s).toArray⟩ : ByteArray) = s.toByteArray := by
    rw [ofText, Array.toArray_toList, String.toUTF8_eq_toByteArray]
  rw [text?, hbytes, String.fromUTF8?, dif_pos s.isValidUTF8]
  rfl

end Bytes

open Bytes

/-- Microseconds in front, then days, then months. -/
def Interval.ofWire (bs : List UInt8) : Interval :=
  ⟨Int32.ofInt (signed (bs.drop 12)), Int32.ofInt (signed ((bs.drop 8).take 4)),
    Int64.ofInt (signed (bs.take 8))⟩

namespace WireType

/-- The number of bytes in a value, for types that have a fixed one. -/
def width? : WireType → Option Nat
  | bool => some 1
  | int2 => some 2
  | int4 | float4 => some 4
  | int8 | float8 | timestamptz => some 8
  | interval | uuid => some 16
  | _ => none

def content? : WireType → List UInt8 → Option Datum
  | bool, bs => some (.boolean (bs != [0]))
  | bytea, bs => some (.bytes bs)
  | int2, bs | int4, bs | int8, bs => some (.integer (signed bs))
  | float4, bs => some (.single ⟨UInt32.ofNat (ofBig bs)⟩)
  | float8, bs => some (.double ⟨UInt64.ofNat (ofBig bs)⟩)
  | timestamptz, bs => some (.instant (signed bs))
  | interval, bs => some (.interval (Interval.ofWire bs))
  | uuid, bs => (Uuid.ofBytes? bs).map .uuid
  | json, bs => (text? bs).map .json
  | jsonb, bs => (versioned? bs).bind fun bs => (text? bs).map .json
  | type, bs =>
    if type.isTextual then (text? bs).map .text
    else if type.isPath then (versioned? bs).bind fun bs => (text? bs).map .text
    else none

/-- Reads the bytes of a value. A value of the wrong width is none, and so is one that is not made
as its type has it. -/
def read? (type : WireType) (bs : List UInt8) : Option Datum :=
  if ∀ width ∈ type.width?, bs.length = width then type.content? bs else none

end WireType

def Instant.nanosSince2000 (t : Instant) : Int :=
  (t.seconds - epochSeconds) * 1000000000 + t.nanos

namespace Value

/-- What a server has of a literal. Text for a binary type is there as its bytes. -/
inductive ReceivedAs : Value → Datum → Prop
  | text (s : String) : ReceivedAs (text s) (.text s)
  | raw (s : String) : ReceivedAs (text s) (.bytes (ofText s))
  | smallInt (n : Int16) : ReceivedAs (number (.smallInt n)) (.integer n.toInt)
  | int (n : Int32) : ReceivedAs (number (.int n)) (.integer n.toInt)
  | bigInt (n : Int64) : ReceivedAs (number (.bigInt n)) (.integer n.toInt)
  | real (x : Binary32) : ReceivedAs (number (.real x)) (.single x)
  | widened {x : Binary32} {y : Binary64} (same : x.Same y) :
      ReceivedAs (number (.real x)) (.double y)
  | double (x : Binary64) : ReceivedAs (number (.double x)) (.double x)
  | timestamp {t : Instant} {micros : Int} (truncates : Truncates t.nanosSince2000 micros) :
      ReceivedAs (number (.timestamp t)) (.instant micros)
  | interval (i : Interval) : ReceivedAs (number (.interval i)) (.interval i)
  | boolean (b : Bool) : ReceivedAs (boolean b) (.boolean b)
  | bytes (bs : List UInt8) : ReceivedAs (bytes bs) (.bytes bs)
  | uuid (u : Uuid) : ReceivedAs (uuid u) (.uuid u)
  | json (j : Json) : ReceivedAs (json j) (.json j.text)

/-- Bytes that a server reads as a literal; they have the width of their type. -/
structure Arrives (v : Value) (type : WireType) (bs : List UInt8) : Prop where
  received : ∃ d, type.read? bs = some d ∧ v.ReceivedAs d
  width : ∀ width, type.width? = some width → bs.length = width

variable {v : Value} {type : WireType} {bs : List UInt8} {d : Datum} {width : Nat}

theorem arrives_of_content (hwidth : ∀ width ∈ type.width?, bs.length = width)
    (hd : type.content? bs = some d) (hv : v.ReceivedAs d) : v.Arrives type bs where
  received := ⟨d, (if_pos hwidth).trans hd, hv⟩
  width := hwidth

theorem arrives_of_width (hwidth : type.width? = some width) (hlength : bs.length = width)
    (hd : type.content? bs = some d) (hv : v.ReceivedAs d) : v.Arrives type bs := by
  refine arrives_of_content (fun w hw => ?_) hd hv
  rw [hlength]
  exact Option.some.inj (hwidth.symm.trans hw)

theorem arrives_unbounded (hwidth : type.width? = none) (hd : type.content? bs = some d)
    (hv : v.ReceivedAs d) : v.Arrives type bs := by
  refine arrives_of_content (fun w hw => ?_) hd hv
  rw [hwidth] at hw
  cases hw

/-- An integer is read with its sign from as many bytes as it has. -/
theorem arrives_integer {w : Nat} (hwidth : type.width? = some width)
    (hcontent : ∀ bs, type.content? bs = some (.integer (signed bs))) (hw : 2 ^ w = 256 ^ width)
    (n : BitVec w) (hv : v.ReceivedAs (.integer n.toInt)) :
    v.Arrives type (big width n.toNat) := by
  refine arrives_of_width hwidth (length_big _ _) (hcontent _) ?_
  rwa [signed_big hw]

theorem ofNat_ofBig_bits32 (x : UInt32) : UInt32.ofNat (ofBig (big 4 x.toNat)) = x := by
  have hlt : x.toNat < 256 ^ 4 := x.toNat_lt
  rw [ofBig_big, Nat.mod_eq_of_lt hlt, UInt32.ofNat_toNat]

theorem ofNat_ofBig_bits64 (x : UInt64) : UInt64.ofNat (ofBig (big 8 x.toNat)) = x := by
  have hlt : x.toNat < 256 ^ 8 := x.toNat_lt
  rw [ofBig_big, Nat.mod_eq_of_lt hlt, UInt64.ofNat_toNat]

theorem arrives_single {x : Binary32} (hv : v.ReceivedAs (.single x)) :
    v.Arrives .float4 (big 4 x.bits.toNat) := by
  refine arrives_of_width rfl (length_big _ _) rfl ?_
  rwa [ofNat_ofBig_bits32]

theorem arrives_double {x : Binary64} (hv : v.ReceivedAs (.double x)) :
    v.Arrives .float8 (big 8 x.bits.toNat) := by
  refine arrives_of_width rfl (length_big _ _) rfl ?_
  rwa [ofNat_ofBig_bits64]

end Value

namespace Instant

/-- The microseconds of every instant fit into 64 bits. -/
theorem toInt_microsSince2000 (t : Instant) :
    (Int64.ofInt t.microsSince2000).toInt = t.microsSince2000 := by
  have hlow := t.seconds_ge
  have hhigh := t.seconds_le
  have hnanos := t.nanos_lt
  have hle : 1000 * t.microsSince2000.natAbs ≤ t.nanosSince2000.natAbs :=
    (truncates_tdiv t.nanosSince2000).le
  have hepoch : epochSeconds = 946684800 := rfl
  rw [nanosSince2000, hepoch] at hle
  exact Int64.toInt_ofInt_of_le (by omega) (by omega)

theorem arrives_wire (t : Instant) :
    (Value.number (.timestamp t)).Arrives .timestamptz t.wire := by
  refine Value.arrives_of_width rfl (length_big _ _) rfl ?_
  rw [wire, signed_big rfl, Int64.toInt_toBitVec, toInt_microsSince2000]
  exact .timestamp (truncates_tdiv t.nanosSince2000)

end Instant

namespace Interval

theorem ofWire_wire (i : Interval) : ofWire i.wire = i := by
  have hmicros : i.wire.take 8 = big 8 i.microseconds.toBitVec.toNat := by
    rw [wire, List.append_assoc, List.take_left' (length_big 8 _)]
  have hrest : i.wire.drop 8 =
      big 4 i.days.toBitVec.toNat ++ big 4 i.months.toBitVec.toNat := by
    rw [wire, List.append_assoc, List.drop_left' (length_big 8 _)]
  have hdays : (i.wire.drop 8).take 4 = big 4 i.days.toBitVec.toNat := by
    rw [hrest, List.take_left' (length_big 4 _)]
  have hmonths : i.wire.drop 12 = big 4 i.months.toBitVec.toNat := by
    rw [← List.drop_drop (i := 4) (j := 8), hrest, List.drop_left' (length_big 4 _)]
  rw [ofWire, hmicros, hdays, hmonths, signed_big rfl, signed_big rfl, signed_big rfl,
    Int32.toInt_toBitVec, Int32.toInt_toBitVec, Int64.toInt_toBitVec, Int32.ofInt_toInt,
    Int32.ofInt_toInt, Int64.ofInt_toInt]

theorem arrives_wire (i : Interval) : (Value.number (.interval i)).Arrives .interval i.wire := by
  refine Value.arrives_of_width rfl ?_ rfl ?_
  · rw [wire, List.length_append, List.length_append, length_big, length_big, length_big]
  · rw [ofWire_wire]
    exact .interval i

end Interval

namespace Number

/-- The types that a number is sent for, that of its own width first. -/
def types : Number → List WireType
  | smallInt _ => [.int2, .int4, .int8]
  | int _ => [.int4, .int8]
  | bigInt _ => [.int8]
  | real _ => [.float4, .float8]
  | double _ => [.float8]
  | timestamp _ => [.timestamptz]
  | interval _ => [.interval]

theorem wire?_eq_none_iff (n : Number) (type : WireType) :
    n.wire? type = none ↔ type ∉ n.types := by
  cases n <;> cases type <;> simp [wire?, types]

theorem mem_types_of_wire? {n : Number} {type : WireType} {bs : List UInt8}
    (h : n.wire? type = some bs) : type ∈ n.types := by
  by_contra hmem
  rw [(wire?_eq_none_iff n type).mpr hmem] at h
  cases h

/-- A number arrives for every type that it is sent for: as it is, or widened. -/
theorem arrives {n : Number} {type : WireType} {bs : List UInt8} (h : n.wire? type = some bs) :
    (Value.number n).Arrives type bs := by
  have hmem := mem_types_of_wire? h
  -- a widened integer is written as that of the wider width with the same value
  cases n with
  | smallInt n =>
    simp only [types, List.mem_cons, List.not_mem_nil, or_false] at hmem
    rcases hmem with rfl | rfl | rfl <;> obtain rfl := Option.some.inj h
    · exact Value.arrives_integer rfl (fun _ => rfl) rfl n.toBitVec (.smallInt n)
    · refine Value.arrives_integer rfl (fun _ => rfl) rfl n.toInt32.toBitVec ?_
      rw [Int32.toInt_toBitVec, Int16.toInt_toInt32]
      exact .smallInt n
    · refine Value.arrives_integer rfl (fun _ => rfl) rfl n.toInt64.toBitVec ?_
      rw [Int64.toInt_toBitVec, Int16.toInt_toInt64]
      exact .smallInt n
  | int n =>
    simp only [types, List.mem_cons, List.not_mem_nil, or_false] at hmem
    rcases hmem with rfl | rfl <;> obtain rfl := Option.some.inj h
    · exact Value.arrives_integer rfl (fun _ => rfl) rfl n.toBitVec (.int n)
    · refine Value.arrives_integer rfl (fun _ => rfl) rfl n.toInt64.toBitVec ?_
      rw [Int64.toInt_toBitVec, Int32.toInt_toInt64]
      exact .int n
  | bigInt n =>
    obtain rfl := List.mem_singleton.mp hmem
    obtain rfl := Option.some.inj h
    exact Value.arrives_integer rfl (fun _ => rfl) rfl n.toBitVec (.bigInt n)
  | real x =>
    simp only [types, List.mem_cons, List.not_mem_nil, or_false] at hmem
    rcases hmem with rfl | rfl <;> obtain rfl := Option.some.inj h
    · exact Value.arrives_single (.real x)
    · exact Value.arrives_double (.widened x.same_widen)
  | double x =>
    obtain rfl := List.mem_singleton.mp hmem
    obtain rfl := Option.some.inj h
    exact Value.arrives_double (.double x)
  | timestamp t =>
    obtain rfl := List.mem_singleton.mp hmem
    obtain rfl := Option.some.inj h
    exact t.arrives_wire
  | interval i =>
    obtain rfl := List.mem_singleton.mp hmem
    obtain rfl := Option.some.inj h
    exact i.arrives_wire

end Number

namespace Value

/-- The types that a literal is sent for. -/
def Fits : Value → WireType → Prop
  | text _, type => type.isTextual = true ∨ type.isPath = true ∨ type = .bytea
  | number n, type => type ∈ n.types
  | boolean _, type => type = .bool
  | bytes _, type => type = .bytea
  | uuid _, type => type = .uuid
  | json _, type => type = .json ∨ type = .jsonb

/-- The checked form is the unchecked one behind a check of the type. -/
theorem checked?_eq_some_iff {v : Value} {type : WireType} {bs : List UInt8} :
    v.checked? type = some bs ↔ v.Fits type ∧ v.unchecked? type = some bs := by
  cases v with
  | text s =>
    rw [checked?, unchecked?, Option.ite_none_right_eq_some, Bool.or_eq_true, Bool.or_eq_true,
      beq_iff_eq, or_assoc]
    rfl
  | number n => exact ⟨fun h => ⟨Number.mem_types_of_wire? h, h⟩, And.right⟩
  | boolean _ | bytes _ | uuid _ =>
    rw [checked?, unchecked?, Option.ite_none_right_eq_some, beq_iff_eq]
    rfl
  | json j =>
    rw [checked?, unchecked?, Option.ite_none_right_eq_some, Bool.or_eq_true, beq_iff_eq,
      beq_iff_eq]
    rfl

/-- The unchecked form refuses numbers only, and those for the types that do not fit. -/
theorem unchecked?_eq_none_iff {v : Value} {type : WireType} :
    v.unchecked? type = none ↔ ∃ n, v = number n ∧ ¬ v.Fits type := by
  cases v with
  | number n =>
    rw [unchecked?, n.wire?_eq_none_iff]
    exact ⟨fun h => ⟨n, rfl, h⟩, fun ⟨_, _, h⟩ => h⟩
  | _ =>
    refine ⟨fun h => ?_, ?_⟩
    · cases h
    · rintro ⟨n, hn, -⟩
      cases hn

theorem checked?_eq_none_iff (v : Value) (type : WireType) :
    v.checked? type = none ↔ ¬ v.Fits type := by
  refine ⟨fun h hfits => ?_, fun hfits => ?_⟩
  · cases hsent : v.unchecked? type with
    | none =>
      obtain ⟨_, _, hnot⟩ := unchecked?_eq_none_iff.mp hsent
      exact hnot hfits
    | some bs =>
      rw [checked?_eq_some_iff.mpr ⟨hfits, hsent⟩] at h
      cases h
  · cases h : v.checked? type with
    | none => rfl
    | some bs => exact absurd (checked?_eq_some_iff.mp h).1 hfits

theorem arrives_text_of_isTextual {type : WireType} (h : type.isTextual = true) (s : String) :
    (text s).Arrives type (textWire s type) := by
  have hpath : ¬ type.isPath = true := by
    cases type with
    | other s =>
      obtain rfl : s = "citext" := beq_iff_eq.mp h
      decide
    | _ => exact Bool.false_ne_true
  have hwidth : type.width? = none := by cases type <;> first | rfl | cases h
  have hcontent (bs : List UInt8) : type.content? bs = (text? bs).map .text := by
    cases type <;> first | rfl | exact if_pos h
  rw [textWire, if_neg hpath]
  refine arrives_unbounded hwidth ?_ (.text s)
  rw [hcontent, text?_ofText, Option.map_some]

theorem arrives_text_of_isPath {type : WireType} (h : type.isPath = true) (s : String) :
    (text s).Arrives type (textWire s type) := by
  cases type with
  | other name =>
    have htextual : ¬ (WireType.other name).isTextual = true := by
      intro hname
      obtain rfl : name = "citext" := beq_iff_eq.mp hname
      exact absurd h (by decide)
    have hcontent : (WireType.other name).content? (1 :: ofText s) = (text? (ofText s)).map .text :=
      (if_neg htextual).trans (if_pos h)
    rw [textWire, if_pos h]
    refine arrives_unbounded rfl ?_ (.text s)
    rw [hcontent, text?_ofText, Option.map_some]
  | _ => cases h

theorem arrives_json (j : Json) {type : WireType} (h : type = .json ∨ type = .jsonb) :
    (json j).Arrives type (j.wire type) := by
  have hread : (text? (ofText j.text)).map Datum.json = some (.json j.text) := by
    rw [text?_ofText, Option.map_some]
  rcases h with rfl | rfl
  · exact arrives_unbounded rfl hread (.json j)
  · exact arrives_unbounded rfl hread (.json j)

theorem arrives_of_checked? {v : Value} {type : WireType} {bs : List UInt8}
    (h : v.checked? type = some bs) : v.Arrives type bs := by
  obtain ⟨hfits, hsent⟩ := checked?_eq_some_iff.mp h
  cases v with
  | number n => exact n.arrives h
  | text s =>
    obtain rfl := Option.some.inj hsent
    rcases hfits with htextual | hpath | rfl
    · exact arrives_text_of_isTextual htextual s
    · exact arrives_text_of_isPath hpath s
    · exact arrives_unbounded rfl rfl (.raw s)
  | boolean b =>
    obtain rfl : type = .bool := hfits
    obtain rfl := Option.some.inj hsent
    exact arrives_of_width rfl rfl (by cases b <;> rfl) (.boolean b)
  | bytes bytes =>
    obtain rfl : type = .bytea := hfits
    obtain rfl := Option.some.inj hsent
    exact arrives_unbounded rfl rfl (.bytes bytes)
  | uuid u =>
    obtain rfl : type = .uuid := hfits
    obtain rfl := Option.some.inj hsent
    refine arrives_of_width rfl u.length_eq ?_ (.uuid u)
    rw [WireType.content?, Uuid.ofBytes?, dif_pos u.length_eq, Option.map_some]
  | json j =>
    obtain rfl := Option.some.inj hsent
    exact arrives_json j hfits

/-- A literal is sent for the types that fit it and for no other, and what is sent is read back as
the literal, whatever its kind; types of a fixed width are given just that many bytes. -/
theorem sent_reads_back (v : Value) (type : WireType) :
    (v.checked? type = none ↔ ¬ v.Fits type) ∧
      ∀ bs, v.checked? type = some bs →
        (∃ d, type.read? bs = some d ∧ v.ReceivedAs d) ∧
          ∀ width, type.width? = some width → bs.length = width := by
  refine ⟨v.checked?_eq_none_iff type, fun bs h => ?_⟩
  have harrives := arrives_of_checked? h
  exact ⟨harrives.received, harrives.width⟩

/-- A negative number in more bytes than its own, and an instant a nanosecond before 2000, of which
no whole microsecond is left. -/
theorem negative_read_back :
    (number (.smallInt (-2))).checked? .int8 = some [255, 255, 255, 255, 255, 255, 255, 254] ∧
      (∃ d, WireType.int8.read? [255, 255, 255, 255, 255, 255, 255, 254] = some d ∧
        (number (.smallInt (-2))).ReceivedAs d) ∧
      ∃ bs, (number (.timestamp ⟨946684799, 999999999, by decide, by decide, by decide⟩)).checked?
          .timestamptz = some bs ∧
        (∃ d, WireType.timestamptz.read? bs = some d ∧
          (number (.timestamp ⟨946684799, 999999999, by decide, by decide, by decide⟩)).ReceivedAs
            d) ∧
        bs.length = 8 ∧ bs = [0, 0, 0, 0, 0, 0, 0, 0] := by
  have hshort : (number (.smallInt (-2))).checked? .int8 =
      some [255, 255, 255, 255, 255, 255, 255, 254] := by decide
  have hinstant : (number (.timestamp ⟨946684799, 999999999, by decide, by decide, by
      decide⟩)).checked? .timestamptz = some [0, 0, 0, 0, 0, 0, 0, 0] := by decide
  obtain ⟨hread, -⟩ := (sent_reads_back _ _).2 _ hshort
  obtain ⟨hread', hwidth⟩ := (sent_reads_back _ _).2 _ hinstant
  exact ⟨hshort, hread, _, hinstant, hread', hwidth 8 rfl, rfl⟩

end Value

end BoundSql
