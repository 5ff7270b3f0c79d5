/-!
Arithmetic on floating-point numbers is done exactly on natural numbers and rounded once, to the
nearest value with ties to the even one.
-/

namespace BoundSql.Binary

def twoTo (n : Nat) : Nat := Nat.pow 2 n

def tenTo (n : Nat) : Nat := Nat.pow 10 n

structure Format where
  fractionBits : Nat
  exponentBits : Nat

def binary32 : Format := ⟨23, 8⟩

def binary64 : Format := ⟨52, 11⟩

namespace Format

/-- The greatest value of the exponent field, which marks infinities and NaNs. -/
def topExponent (f : Format) : Nat := twoTo f.exponentBits - 1

/-- The power of two that the last fraction bit of the least normal number stands for, negated. -/
def depth (f : Format) : Nat := twoTo (f.exponentBits - 1) - 2 + f.fractionBits

def exponentField (f : Format) (bits : Nat) : Nat :=
  bits / twoTo f.fractionBits % twoTo f.exponentBits

def fractionField (f : Format) (bits : Nat) : Nat := bits % twoTo f.fractionBits

def isNegative (f : Format) (bits : Nat) : Bool :=
  bits / twoTo (f.fractionBits + f.exponentBits) % 2 == 1

def isFinite (f : Format) (bits : Nat) : Bool := f.exponentField bits != f.topExponent

def isNaN (f : Format) (bits : Nat) : Bool :=
  f.exponentField bits == f.topExponent && f.fractionField bits != 0

def isZero (f : Format) (bits : Nat) : Bool :=
  f.exponentField bits == 0 && f.fractionField bits == 0

def significand (f : Format) (bits : Nat) : Nat :=
  if f.exponentField bits = 0 then f.fractionField bits
  else twoTo f.fractionBits + f.fractionField bits

def unitExponent (f : Format) (bits : Nat) : Int :=
  (Nat.max (f.exponentField bits) 1 - 1 : Nat) - (f.depth : Int)

def ratio (f : Format) (bits : Nat) : Nat × Nat :=
  let q := f.unitExponent bits
  (f.significand bits * twoTo q.toNat, twoTo (-q).toNat)

def infinity (f : Format) : Nat := f.topExponent * twoTo f.fractionBits

def signBit (f : Format) : Nat := twoTo (f.fractionBits + f.exponentBits)

/-- Equality of numbers: a NaN equals nothing and both zeros are equal. -/
def eq (f : Format) (a b : Nat) : Bool :=
  !f.isNaN a && !f.isNaN b && (a == b || (f.isZero a && f.isZero b))

end Format

/-- The quotient rounded to the nearest natural number, ties to the even one. -/
def roundDiv (num den : Nat) : Nat :=
  let d := num / den
  let r := num % den
  if 2 * r < den then d
  else if den < 2 * r then d + 1
  else d + d % 2

/-- Bit pattern of the value nearest to `num / den`; infinity from half a unit above the greatest
finite value on. -/
def Format.ofRatio (f : Format) (num den : Nat) : Nat :=
  if num = 0 then 0
  else
    let above : Int := (num.log2 : Int) - den.log2
    let scale : Int :=
      if num * twoTo (-above).toNat < den * twoTo above.toNat then above - 1 else above
    let q := max (scale - f.fractionBits) (-(f.depth : Int))
    let m := roundDiv (num * twoTo (-q).toNat) (den * twoTo q.toNat)
    min ((q + f.depth).toNat * twoTo f.fractionBits + m) f.infinity

structure Binary32 where
  bits : UInt32
  deriving DecidableEq

structure Binary64 where
  bits : UInt64
  deriving DecidableEq

namespace Binary32

def eq (a b : Binary32) : Bool := binary32.eq a.bits.toNat b.bits.toNat

/-- The same number in 64 bits. A NaN keeps its sign and payload and becomes quiet. -/
def widen (a : Binary32) : Binary64 :=
  let n := a.bits.toNat
  let sign := if binary32.isNegative n then binary64.signBit else 0
  let magnitude :=
    if binary32.isNaN n then
      binary64.infinity + (twoTo 51 ||| binary32.fractionField n * twoTo 29)
    else if binary32.isFinite n then
      let r := binary32.ratio n
      binary64.ofRatio r.1 r.2
    else binary64.infinity
  ⟨UInt64.ofNat (sign + magnitude)⟩

end Binary32

namespace Binary64

def eq (a b : Binary64) : Bool := binary64.eq a.bits.toNat b.bits.toNat

def isFinite (a : Binary64) : Bool := binary64.isFinite a.bits.toNat

def isZero (a : Binary64) : Bool := binary64.isZero a.bits.toNat

def ofRatio (num den : Nat) : Binary64 := ⟨UInt64.ofNat (binary64.ofRatio num den)⟩

def negate (a : Binary64) : Binary64 := ⟨a.bits ^^^ UInt64.ofNat binary64.signBit⟩

def mul (a b : Binary64) : Binary64 :=
  let x := binary64.ratio a.bits.toNat
  let y := binary64.ratio b.bits.toNat
  ofRatio (x.1 * y.1) (x.2 * y.2)

def div (a b : Binary64) : Binary64 :=
  let x := binary64.ratio a.bits.toNat
  let y := binary64.ratio b.bits.toNat
  ofRatio (x.1 * y.2) (x.2 * y.1)

end Binary64

end BoundSql.Binary
