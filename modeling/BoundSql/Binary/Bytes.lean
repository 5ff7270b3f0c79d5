namespace BoundSql.Bytes

/-- The low `width` bytes of a number, least significant first. -/
def little : Nat → Nat → List UInt8
  | 0, _ => []
  | width + 1, n => UInt8.ofNat n :: little width (n / 256)

def big (width n : Nat) : List UInt8 := (little width n).reverse

def ofLittle : List UInt8 → Nat
  | [] => 0
  | b :: bs => b.toNat + 256 * ofLittle bs

def ofBig (bs : List UInt8) : Nat := ofLittle bs.reverse

def ofText (s : String) : List UInt8 := s.toUTF8.data.toList

end BoundSql.Bytes
