import BoundSql.Text.Hex

namespace BoundSql

structure Uuid where
  bytes : List UInt8
  length_eq : bytes.length = 16
  deriving DecidableEq

namespace Uuid

def ofBytes? (bytes : List UInt8) : Option Uuid :=
  if h : bytes.length = 16 then some ⟨bytes, h⟩ else none

def text (u : Uuid) : String :=
  let part (start count : Nat) := Hex.ofBytes ((u.bytes.drop start).take count)
  part 0 4 ++ "-" ++ part 4 2 ++ "-" ++ part 6 2 ++ "-" ++ part 8 2 ++ "-" ++ part 10 6

def ofDigits? (cs : List Char) : Option Uuid :=
  match Hex.toBytes? cs with
  | some bytes => ofBytes? bytes
  | none => none

def ofGroups? (cs : List Char) : Option Uuid :=
  if cs.length = 36 ∧ [8, 13, 18, 23].all (fun i => cs[i]? == some '-') then
    ofDigits? (cs.take 8 ++ (cs.drop 9).take 4 ++ (cs.drop 14).take 4 ++ (cs.drop 19).take 4 ++
      cs.drop 24)
  else none

def urn : List Char := "urn:uuid:".toList

/-- Reads plain digits, groups, groups in braces and groups behind `urn:uuid:` in either case. -/
def read? (s : String) : Option Uuid :=
  let cs := s.toList
  match cs.length with
  | 32 => ofDigits? cs
  | 36 => ofGroups? cs
  | 38 => if cs.head? = some '\x7b' ∧ cs.getLast? = some '\x7d' then
      ofGroups? ((cs.drop 1).take 36) else none
  | 45 => if (cs.take 9).map Char.toLower = urn then ofGroups? (cs.drop 9) else none
  | _ => none

end Uuid

end BoundSql
