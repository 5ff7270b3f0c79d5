import BoundSql.Binary.Format
import BoundSql.Json.Basic
import BoundSql.Time.Instant
import BoundSql.Value.Interval
import BoundSql.Value.Uuid

namespace BoundSql

open Binary

inductive Family where
  | text
  | number
  | boolean
  | bytes
  deriving DecidableEq

def Family.name : Family → String
  | text => "text"
  | number => "number"
  | boolean => "boolean"
  | bytes => "bytes"

/-- Literals of the number family: integers, floats, instants and lengths of time. -/
inductive Number where
  | smallInt (n : Int16)
  | int (n : Int32)
  | bigInt (n : Int64)
  | real (x : Binary32)
  | double (x : Binary64)
  | timestamp (t : Instant)
  | interval (i : Interval)
  deriving DecidableEq

/-- A literal. Identifiers and JSON can be bound but belong to no family. -/
inductive Value where
  | text (s : String)
  | number (n : Number)
  | boolean (b : Bool)
  | bytes (bs : List UInt8)
  | uuid (u : Uuid)
  | json (j : Json)

def Number.same : Number → Number → Bool
  | smallInt a, smallInt b => a == b
  | int a, int b => a == b
  | bigInt a, bigInt b => a == b
  | real a, real b => a.eq b
  | double a, double b => a.eq b
  | timestamp a, timestamp b => a == b
  | interval a, interval b => a == b
  | _, _ => false

namespace Value

def family : Value → Option Family
  | text _ => some .text
  | number _ => some .number
  | boolean _ => some .boolean
  | bytes _ => some .bytes
  | uuid _ => none
  | json _ => none

/-- Equality of literals of one kind. A NaN equals nothing, and both zeros are equal. -/
def same : Value → Value → Bool
  | text a, text b => a == b
  | number a, number b => a.same b
  | boolean a, boolean b => a == b
  | bytes a, bytes b => a == b
  | uuid a, uuid b => a == b
  | json a, json b => a.same b
  | _, _ => false

end Value

end BoundSql
