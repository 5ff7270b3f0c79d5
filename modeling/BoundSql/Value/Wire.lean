import BoundSql.Binary.Bytes
import BoundSql.Json.Writer
import BoundSql.Value.Basic
/-!
The binary form in which a literal is sent for a parameter of a given type: most significant byte
first, instants as microseconds since 2000, `jsonb` and label paths behind a version byte. The
checked form refuses a type that does not fit the literal; the unchecked one does so for numbers
only.
-/

namespace BoundSql

open Binary

inductive WireType where
  | bool
  | bytea
  | bpchar
  | float4
  | float8
  | int2
  | int4
  | int8
  | interval
  | json
  | jsonb
  | name
  | text
  | timestamptz
  | unknown
  | uuid
  | varchar
  | other (name : String)
  deriving DecidableEq

namespace WireType

def ofName : String → WireType
  | "bool" => bool
  | "bytea" => bytea
  | "bpchar" => bpchar
  | "float4" => float4
  | "float8" => float8
  | "int2" => int2
  | "int4" => int4
  | "int8" => int8
  | "interval" => interval
  | "json" => json
  | "jsonb" => jsonb
  | "name" => name
  | "text" => text
  | "timestamptz" => timestamptz
  | "unknown" => unknown
  | "uuid" => uuid
  | "varchar" => varchar
  | s => other s

/-- Types whose values are sent as plain text; one of them comes with an extension. -/
def isTextual : WireType → Bool
  | text | varchar | bpchar | name | unknown => true
  | other s => s == "citext"
  | _ => false

/-- Label paths and the queries on them, which come with an extension: text behind a version
byte. -/
def isPath : WireType → Bool
  | other s => s == "ltree" || s == "lquery" || s == "ltxtquery"
  | _ => false

end WireType

def Interval.wire (i : Interval) : List UInt8 :=
  Bytes.big 8 i.microseconds.toBitVec.toNat ++ Bytes.big 4 i.days.toBitVec.toNat ++
    Bytes.big 4 i.months.toBitVec.toNat

def Instant.wire (t : Instant) : List UInt8 :=
  Bytes.big 8 (Int64.ofInt t.microsSince2000).toBitVec.toNat

namespace Number

/-- Bytes of a number for a type, none where the type does not fit. -/
def wire? : Number → WireType → Option (List UInt8)
  | smallInt n, .int2 => some (Bytes.big 2 n.toBitVec.toNat)
  | smallInt n, .int4 => some (Bytes.big 4 n.toInt32.toBitVec.toNat)
  | smallInt n, .int8 => some (Bytes.big 8 n.toInt64.toBitVec.toNat)
  | int n, .int4 => some (Bytes.big 4 n.toBitVec.toNat)
  | int n, .int8 => some (Bytes.big 8 n.toInt64.toBitVec.toNat)
  | bigInt n, .int8 => some (Bytes.big 8 n.toBitVec.toNat)
  | real x, .float4 => some (Bytes.big 4 x.bits.toNat)
  | real x, .float8 => some (Bytes.big 8 x.widen.bits.toNat)
  | double x, .float8 => some (Bytes.big 8 x.bits.toNat)
  | timestamp t, .timestamptz => some t.wire
  | interval i, .interval => some i.wire
  | _, _ => none

/-- The type that a server gives a parameter of this kind by itself. -/
def naturalType : Number → WireType
  | smallInt _ => .int2
  | int _ => .int4
  | bigInt _ => .int8
  | real _ => .float4
  | double _ => .float8
  | timestamp _ => .timestamptz
  | interval _ => .interval

end Number

def textWire (s : String) (type : WireType) : List UInt8 :=
  if type.isPath then 1 :: Bytes.ofText s else Bytes.ofText s

def Json.wire (j : Json) (type : WireType) : List UInt8 :=
  match type with
  | .jsonb => 1 :: Bytes.ofText j.text
  | _ => Bytes.ofText j.text

namespace Value

/-- The unchecked form: only numbers look at the type. -/
def unchecked? : Value → WireType → Option (List UInt8)
  | text s, type => some (textWire s type)
  | number n, type => n.wire? type
  | boolean b, _ => some [if b then 1 else 0]
  | bytes bs, _ => some bs
  | uuid u, _ => some u.bytes
  | json j, type => some (j.wire type)

/-- The checked form; text is sent for binary parameters as it is. -/
def checked? : Value → WireType → Option (List UInt8)
  | text s, type =>
    if type.isTextual || type.isPath || type == .bytea then some (textWire s type) else none
  | number n, type => n.wire? type
  | boolean b, type => if type == .bool then some [if b then 1 else 0] else none
  | bytes bs, type => if type == .bytea then some bs else none
  | uuid u, type => if type == .uuid then some u.bytes else none
  | json j, type => if type == .json || type == .jsonb then some (j.wire type) else none

def naturalType : Value → WireType
  | text _ => .text
  | number n => n.naturalType
  | boolean _ => .bool
  | bytes _ => .bytea
  | uuid _ => .uuid
  | json _ => .jsonb

end Value

end BoundSql
