namespace BoundSql.Hex

def digit (n : Nat) : Char :=
  if n < 10 then Char.ofNat (48 + n) else Char.ofNat (87 + n)

def value? (c : Char) : Option Nat :=
  if '0' ≤ c ∧ c ≤ '9' then some (c.toNat - 48)
  else if 'a' ≤ c ∧ c ≤ 'f' then some (c.toNat - 87)
  else if 'A' ≤ c ∧ c ≤ 'F' then some (c.toNat - 55)
  else none

def ofByte (b : UInt8) : List Char := [digit (b.toNat / 16), digit (b.toNat % 16)]

def ofBytes (bs : List UInt8) : String := String.ofList (bs.flatMap ofByte)

def number? : List Char → Option Nat :=
  go 0
where
  go (n : Nat) : List Char → Option Nat
    | [] => some n
    | c :: cs =>
      match value? c with
      | some d => go (16 * n + d) cs
      | none => none

def toBytes? : List Char → Option (List UInt8)
  | [] => some []
  | [_] => none
  | hi :: lo :: cs =>
    match value? hi, value? lo, toBytes? cs with
    | some h, some l, some bs => some (UInt8.ofNat (16 * h + l) :: bs)
    | _, _, _ => none

def ofNat (n : Nat) : String := String.ofList (Nat.toDigits 16 n)

/-- The last `width` hexadecimal digits of a number, the least significant first. -/
def lowDigits : Nat → Nat → List Char
  | 0, _ => []
  | width + 1, n => digit (n % 16) :: lowDigits width (n / 16)

def padded (width n : Nat) : String := String.ofList (lowDigits width n).reverse

end BoundSql.Hex
