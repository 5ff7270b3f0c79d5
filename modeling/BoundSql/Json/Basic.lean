import BoundSql.Binary.Format

namespace BoundSql

open Binary

/-- A floating-point number that is neither infinite nor a NaN. -/
structure FiniteDouble where
  value : Binary64
  isFinite : value.isFinite = true

inductive JsonNumber where
  | integer (n : Int)
  | double (x : FiniteDouble)

inductive Json where
  | null
  | bool (b : Bool)
  | number (n : JsonNumber)
  | string (s : String)
  | array (items : List Json)
  | object (fields : List (String × Json))

namespace JsonNumber

/-- Equality of numbers of one kind; 1 and 1.0 differ. -/
def same : JsonNumber → JsonNumber → Bool
  | integer a, integer b => a == b
  | double a, double b => a.value.eq b.value
  | _, _ => false

end JsonNumber

namespace Json

mutual

def same : Json → Json → Bool
  | null, null => true
  | bool a, bool b => a == b
  | number a, number b => a.same b
  | string a, string b => a == b
  | array a, array b => sameItems a b
  | object a, object b => sameFields a b
  | _, _ => false

def sameItems : List Json → List Json → Bool
  | [], [] => true
  | a :: as, b :: bs => same a b && sameItems as bs
  | _, _ => false

def sameFields : List (String × Json) → List (String × Json) → Bool
  | [], [] => true
  | (k, a) :: as, (l, b) :: bs => k == l && same a b && sameFields as bs
  | _, _ => false

end

/-- Put a field at the place of its key; a field of that key gives way. -/
def insertField (key : String) (value : Json) : List (String × Json) → List (String × Json)
  | [] => [(key, value)]
  | (k, v) :: fields =>
    if key < k then (key, value) :: (k, v) :: fields
    else if key = k then (key, value) :: fields
    else (k, v) :: insertField key value fields

/-- An object of fields given in any order; of two with one key the later counts. -/
def ofFields (fields : List (String × Json)) : Json :=
  object (fields.foldl (fun acc f => insertField f.1 f.2 acc) [])

def field? (key : String) : Json → Option Json
  | object fields => fields.lookup key
  | _ => none

def ofInt (n : Int) : Json := number (.integer n)

def ofNat (n : Nat) : Json := ofInt n

end Json

end BoundSql
