import BoundSql.Binary.Shortest

namespace BoundSql.Binary

structure Layout where
  /-- Least decimal exponent of the leading digit that is written positionally. -/
  positionalFrom : Int
  /-- Least decimal exponent above that band. -/
  exponentFrom : Int
  plusSign : String
  tie : Tie

/-- JSON texts: positional from 1e-5 up to 1e16, every exponent with its sign, a tie of the last
digit to the even one. -/
def jsonLayout : Layout := ⟨-5, 16, "+", .even⟩

/-- Descriptions of values: positional from 1e-4 up to 1e16, no plus signs, a tie goes up. -/
def descriptiveLayout : Layout := ⟨-4, 16, "", .up⟩

def stripZeros : Nat → Decimal → Decimal
  | 0, d => d
  | fuel + 1, d =>
    if d.digits ≠ 0 ∧ d.digits % 10 = 0 then stripZeros fuel ⟨d.digits / 10, d.power + 1⟩ else d

def zeros (n : Nat) : String := String.ofList (List.replicate n '0')

def positional (digits : List Char) (lead : Int) : String :=
  if lead < 0 then "0." ++ zeros (-lead - 1).toNat ++ String.ofList digits
  else
    let whole := lead.toNat + 1
    if digits.length ≤ whole then
      String.ofList digits ++ zeros (whole - digits.length) ++ ".0"
    else String.ofList (digits.take whole) ++ "." ++ String.ofList (digits.drop whole)

namespace Layout

def exponent (l : Layout) (lead : Int) : String :=
  "e" ++ (if lead < 0 then "" else l.plusSign) ++ toString lead

def scientific (l : Layout) (digits : List Char) (lead : Int) : String :=
  match digits with
  | [] => ""
  | [d] => String.ofList [d] ++ l.exponent lead
  | d :: ds => String.ofList [d] ++ "." ++ String.ofList ds ++ l.exponent lead

def magnitude (l : Layout) (d : Decimal) : String :=
  let d := stripZeros 20 d
  let digits := Nat.toDigits 10 d.digits
  let lead := d.power + digits.length - 1
  if l.positionalFrom ≤ lead ∧ lead < l.exponentFrom then positional digits lead
  else l.scientific digits lead

def text (l : Layout) (f : Format) (bits : Nat) : String :=
  let sign := if f.isNegative bits then "-" else ""
  if f.isNaN bits then "NaN"
  else if !f.isFinite bits then sign ++ "inf"
  else if f.isZero bits then sign ++ "0.0"
  else sign ++ l.magnitude (f.shortest l.tie bits)

end Layout

def Binary32.text (l : Layout) (a : Binary32) : String := l.text binary32 a.bits.toNat

def Binary64.text (l : Layout) (a : Binary64) : String := l.text binary64 a.bits.toNat

end BoundSql.Binary
