import BoundSql.Binary.Bytes
import BoundSql.Json.Writer
import BoundSql.Value.Basic

namespace BoundSql

/-- A tag for the concrete kind of a literal, and its canonical bytes. -/
structure Key where
  tag : UInt8
  bytes : List UInt8
  deriving DecidableEq, Hashable

def Number.key : Number → Key
  | smallInt n => ⟨2, Bytes.little 2 n.toBitVec.toNat⟩
  | int n => ⟨3, Bytes.little 4 n.toBitVec.toNat⟩
  | bigInt n => ⟨4, Bytes.little 8 n.toBitVec.toNat⟩
  | real x => ⟨5, Bytes.little 4 x.bits.toNat⟩
  | double x => ⟨6, Bytes.little 8 x.bits.toNat⟩
  | timestamp t =>
    ⟨7, Bytes.little 8 (Int64.ofInt t.seconds).toBitVec.toNat ++ Bytes.little 4 t.nanos⟩
  | interval i =>
    ⟨8, Bytes.little 8 i.microseconds.toBitVec.toNat ++ Bytes.little 4 i.days.toBitVec.toNat ++
      Bytes.little 4 i.months.toBitVec.toNat⟩

def Value.key : Value → Key
  | text s => ⟨1, Bytes.ofText s⟩
  | number n => n.key
  | boolean b => ⟨9, [if b then 1 else 0]⟩
  | bytes bs => ⟨10, bs⟩
  | uuid u => ⟨11, u.bytes⟩
  | json j => ⟨12, Bytes.ofText j.text⟩

end BoundSql
