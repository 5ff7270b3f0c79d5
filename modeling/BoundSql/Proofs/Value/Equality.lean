import Mathlib.Tactic.Tauto
import BoundSql.Change.Agreement
import BoundSql.Proofs.Statement.Relabelling
/-!
Equality of literals forgets the sign of a zero, and a NaN equals nothing; equal literals are the
same in all else.
-/

namespace BoundSql

namespace Binary

/-- To exchange all zeros for one of them makes zeros the same, and nothing else. -/
theorem unsigned_eq_iff {α : Type} {isZero : α → Bool} {zero : α} (hzero : isZero zero = true)
    {a b : α} :
    (if isZero a then zero else a) = (if isZero b then zero else b) ↔
      a = b ∨ isZero a = true ∧ isZero b = true := by
  by_cases ha : isZero a = true <;> by_cases hb : isZero b = true
  · simp [ha, hb]
  · have hne : zero ≠ b := fun h => hb (h ▸ hzero)
    have hne' : a ≠ b := fun h => hb (h ▸ ha)
    simp [ha, hb, hne, hne']
  · have hne : a ≠ zero := fun h => ha (h ▸ hzero)
    have hne' : a ≠ b := fun h => ha (h ▸ hb)
    simp [ha, hb, hne, hne']
  · simp [ha, hb]

theorem Format.eq_iff {f : Format} {a b : Nat} :
    f.eq a b = true ↔ (a = b ∨ f.isZero a = true ∧ f.isZero b = true) ∧
      f.isNaN a = false ∧ f.isNaN b = false := by
  simp [eq, and_assoc, and_comm]

namespace Binary32

def isNaN (a : Binary32) : Bool := binary32.isNaN a.bits.toNat

def isZero (a : Binary32) : Bool := binary32.isZero a.bits.toNat

/-- The number itself, but the positive zero for both zeros. -/
def unsigned (a : Binary32) : Binary32 := if a.isZero then ⟨0⟩ else a

theorem toNat_bits_inj {a b : Binary32} : a.bits.toNat = b.bits.toNat ↔ a = b := by
  rw [UInt32.toNat_inj]
  exact ⟨congrArg mk, congrArg bits⟩

theorem eq_iff {a b : Binary32} :
    a.eq b = true ↔ a.unsigned = b.unsigned ∧ a.isNaN = false ∧ b.isNaN = false := by
  rw [eq, Format.eq_iff, toNat_bits_inj, unsigned, unsigned, unsigned_eq_iff (by decide)]
  rfl

end Binary32

namespace Binary64

def isNaN (a : Binary64) : Bool := binary64.isNaN a.bits.toNat

def unsigned (a : Binary64) : Binary64 := if a.isZero then ⟨0⟩ else a

theorem toNat_bits_inj {a b : Binary64} : a.bits.toNat = b.bits.toNat ↔ a = b := by
  rw [UInt64.toNat_inj]
  exact ⟨congrArg mk, congrArg bits⟩

theorem eq_iff {a b : Binary64} :
    a.eq b = true ↔ a.unsigned = b.unsigned ∧ a.isNaN = false ∧ b.isNaN = false := by
  rw [eq, Format.eq_iff, toNat_bits_inj, unsigned, unsigned, unsigned_eq_iff (by decide)]
  rfl

end Binary64

end Binary

open Binary

namespace FiniteDouble

theorem isNaN_value (x : FiniteDouble) : x.value.isNaN = false := by
  have hfinite := x.isFinite
  simp only [Binary64.isFinite, Format.isFinite, bne_iff_ne] at hfinite
  simp [Binary64.isNaN, Format.isNaN, hfinite]

def unsigned (x : FiniteDouble) : FiniteDouble := if x.value.isZero then ⟨⟨0⟩, by decide⟩ else x

theorem value_unsigned (x : FiniteDouble) : x.unsigned.value = x.value.unsigned := by
  unfold unsigned Binary64.unsigned
  split <;> rfl

theorem eq_iff {x y : FiniteDouble} : x.value.eq y.value = true ↔ x.unsigned = y.unsigned := by
  have hvalue : x.unsigned = y.unsigned ↔ x.unsigned.value = y.unsigned.value := by
    refine ⟨congrArg value, fun h => ?_⟩
    cases hx : x.unsigned
    cases hy : y.unsigned
    simpa [hx, hy] using h
  rw [Binary64.eq_iff, hvalue, value_unsigned, value_unsigned]
  simp [isNaN_value]

end FiniteDouble

def JsonNumber.unsigned : JsonNumber → JsonNumber
  | integer n => integer n
  | double x => double x.unsigned

theorem JsonNumber.same_iff {m n : JsonNumber} : m.same n = true ↔ m.unsigned = n.unsigned := by
  cases m <;> cases n <;> simp [same, unsigned, FiniteDouble.eq_iff]

def JsonNumber.isDouble : JsonNumber → Bool
  | integer _ => false
  | double _ => true

theorem JsonNumber.unsigned_of_isDouble {n : JsonNumber} (h : n.isDouble = false) :
    n.unsigned = n := by
  cases n with
  | integer n => rfl
  | double x => cases h

namespace Json

mutual

def unsigned : Json → Json
  | null => null
  | bool b => bool b
  | number n => number n.unsigned
  | string s => string s
  | array items => array (unsignedItems items)
  | object fields => object (unsignedFields fields)

def unsignedItems : List Json → List Json
  | [] => []
  | a :: as => unsigned a :: unsignedItems as

def unsignedFields : List (String × Json) → List (String × Json)
  | [] => []
  | (k, a) :: as => (k, unsigned a) :: unsignedFields as

end

mutual

theorem same_iff : ∀ {a b : Json}, a.same b = true ↔ a.unsigned = b.unsigned
  | null, b | bool _, b | string _, b => by cases b <;> simp [same, unsigned]
  | number m, b => by cases b <;> simp [same, unsigned, JsonNumber.same_iff]
  | array as, b => by cases b <;> simp [same, unsigned, sameItems_iff as]
  | object as, b => by cases b <;> simp [same, unsigned, sameFields_iff as]

theorem sameItems_iff : ∀ as bs : List Json,
    sameItems as bs = true ↔ unsignedItems as = unsignedItems bs
  | [], bs => by cases bs <;> simp [sameItems, unsignedItems]
  | a :: as, bs => by
    cases bs <;> simp [sameItems, unsignedItems, same_iff (a := a), sameItems_iff as]

theorem sameFields_iff : ∀ as bs : List (String × Json),
    sameFields as bs = true ↔ unsignedFields as = unsignedFields bs
  | [], bs => by cases bs <;> simp [sameFields, unsignedFields]
  | (k, a) :: as, bs => by
    cases bs <;>
      simp [sameFields, unsignedFields, and_assoc, same_iff (a := a), sameFields_iff as]

end

mutual

/-- A number that is not an integer is somewhere in a value. -/
def hasDouble : Json → Bool
  | null | bool _ | string _ => false
  | number n => n.isDouble
  | array items => hasDoubleItems items
  | object fields => hasDoubleFields fields

def hasDoubleItems : List Json → Bool
  | [] => false
  | a :: as => hasDouble a || hasDoubleItems as

def hasDoubleFields : List (String × Json) → Bool
  | [] => false
  | (_, a) :: as => hasDouble a || hasDoubleFields as

end

mutual

theorem unsigned_of_hasDouble : ∀ {a : Json}, a.hasDouble = false → a.unsigned = a
  | null, _ | bool _, _ | string _, _ => by simp [unsigned]
  | number _, h => congrArg number (JsonNumber.unsigned_of_isDouble (by simpa [hasDouble] using h))
  | array _, h => congrArg array (unsignedItems_of_hasDouble (by simpa [hasDouble] using h))
  | object _, h => congrArg object (unsignedFields_of_hasDouble (by simpa [hasDouble] using h))

theorem unsignedItems_of_hasDouble : ∀ {as : List Json},
    hasDoubleItems as = false → unsignedItems as = as
  | [], _ => rfl
  | a :: as, h => by
    obtain ⟨ha, has⟩ := Bool.or_eq_false_iff.mp h
    rw [unsignedItems, unsigned_of_hasDouble ha, unsignedItems_of_hasDouble has]

theorem unsignedFields_of_hasDouble : ∀ {as : List (String × Json)},
    hasDoubleFields as = false → unsignedFields as = as
  | [], _ => rfl
  | (k, a) :: as, h => by
    obtain ⟨ha, has⟩ := Bool.or_eq_false_iff.mp h
    rw [unsignedFields, unsigned_of_hasDouble ha, unsignedFields_of_hasDouble has]

end

end Json

namespace Number

def isFloat : Number → Bool
  | real _ | double _ => true
  | _ => false

def isNaN : Number → Bool
  | real x => x.isNaN
  | double x => x.isNaN
  | _ => false

def unsigned : Number → Number
  | real x => real x.unsigned
  | double x => double x.unsigned
  | n => n

theorem same_iff {m n : Number} :
    m.same n = true ↔ m.unsigned = n.unsigned ∧ m.isNaN = false ∧ n.isNaN = false := by
  cases m <;> cases n <;> simp [same, unsigned, isNaN, Binary32.eq_iff, Binary64.eq_iff]

end Number

namespace Value

def isNaN : Value → Bool
  | number n => n.isNaN
  | _ => false

/-- The literal itself, but with the positive zero for both zeros. -/
def unsigned : Value → Value
  | number n => number n.unsigned
  | json j => json j.unsigned
  | v => v

theorem same_iff {v w : Value} :
    v.same w = true ↔ v.unsigned = w.unsigned ∧ v.isNaN = false ∧ w.isNaN = false := by
  cases v <;> cases w <;> simp [same, unsigned, isNaN, Number.same_iff, Json.same_iff]

/-- A float, or a JSON value with one. -/
def hasFloat : Value → Bool
  | number n => n.isFloat
  | json j => j.hasDouble
  | _ => false

theorem unsigned_of_hasFloat {v : Value} (h : v.hasFloat = false) : v.unsigned = v := by
  cases v with
  | number n =>
    cases n with
    | real x | double x => cases h
    | _ => rfl
  | json j => exact congrArg json (Json.unsigned_of_hasDouble h)
  | _ => rfl

/-- No NaN is among the literals. -/
def Definite (vs : List Value) : Prop := ∀ v ∈ vs, v.isNaN = false

@[simp] theorem definite_nil : Definite [] := List.forall_mem_nil _

@[simp] theorem definite_cons {v : Value} {vs : List Value} :
    Definite (v :: vs) ↔ v.isNaN = false ∧ Definite vs := List.forall_mem_cons

@[simp] theorem definite_append {vs ws : List Value} :
    Definite (vs ++ ws) ↔ Definite vs ∧ Definite ws := List.forall_mem_append

end Value

open Value

theorem Arg.same_iff {a b : Arg} :
    a.same b = true ↔ a.relabel unsigned = b.relabel unsigned ∧
      Definite a.fragment.literals ∧ Definite b.fragment.literals := by
  induction a generalizing b with
  | value v => cases b <;> simp [same, relabel, fragment, Value.same_iff]
  | instruction i => cases b <;> simp [same, relabel, fragment]
  | function f inner ih => cases b <;> simp [same, relabel, fragment, ih, and_assoc]
  | coalesce arg fallback iha ihf =>
    cases b <;> simp [same, relabel, fragment, iha, ihf]
    tauto

theorem Column.same_iff {c d : Column} :
    c.same d = true ↔ c.relabel unsigned = d.relabel unsigned ∧
      Definite c.unqualified.literals ∧ Definite d.unqualified.literals := by
  induction c generalizing d with
  | named t n => cases d <;> simp [same, relabel, unqualified]
  | function f inner ih => cases d <;> simp [same, relabel, unqualified, ih, and_assoc]
  | coalesce inner fallback ih =>
    cases d <;> simp [same, relabel, unqualified, ih, Arg.same_iff]
    tauto

namespace Change

theorem literals_pathFragment (path : List String) :
    (pathFragment path).literals = path.map .text := by
  unfold pathFragment
  cases path with
  | nil => rfl
  | cons s path =>
    have hsegments (path : List String) : Fragment.literals
        ((path.map fun s => [.value (.text s)]).flatMap fun g => .text ", " :: g) =
          path.map .text := by
      induction path with
      | nil => rfl
      | cons t path ih => simpa using ih
    simpa [Fragment.join] using hsegments path

/-- A change of the SET list equals one with the same columns and literals, both without a NaN. -/
theorem same_iff_of_plain {x y : Change} (hx : x.isCte = false) :
    x.same y = true ↔ x.relabel unsigned = y.relabel unsigned ∧
      Definite x.fragment.literals ∧ Definite y.fragment.literals := by
  cases x with
  | cte _ _ _ => cases hx
  | set c a =>
    cases y <;> simp [same, relabel, fragment, Column.same_iff, Arg.same_iff]
    tauto
  | increment c source =>
    cases y <;> simp [same, relabel, fragment, Column.same_iff]
    tauto
  | setJson c path value =>
    have htexts (path : List String) : path.map (relabelText unsigned) = path :=
      List.map_id path
    have hdefinite (path : List String) : Definite (path.map .text) := by simp [Definite, isNaN]
    cases y <;> simp [same, relabel, fragment, Column.same_iff, Json.same_iff,
      literals_pathFragment, htexts, hdefinite, isNaN, relabelJson, Value.unsigned]
    tauto

end Change
end BoundSql
