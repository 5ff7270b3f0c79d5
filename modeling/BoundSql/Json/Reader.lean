import BoundSql.Json.Basic
import BoundSql.Text.Hex
/-!
A number without point and exponent is a whole number as long as it fits into 64 bits, signed or
unsigned. Minus zero and every other number is a floating-point number, computed from the leading
digits that fit into 64 bits by one multiplication with, or division by, a power of ten.
-/

namespace BoundSql.Json

open Binary

def skipBlanks : List Char → List Char
  | [] => []
  | c :: cs => if c = ' ' ∨ c = '\n' ∨ c = '\t' ∨ c = '\r' then skipBlanks cs else c :: cs

def isDigit (c : Char) : Bool := '0' ≤ c && c ≤ '9'

def digitValue (c : Char) : Nat := c.toNat - 48

def significandLimit : Nat := UInt64.size - 1

/-- What has been read of a number: the digits kept, the power of ten they are in units of, and
whether a digit of this part, before or behind the point, has been dropped. -/
structure Digits where
  significand : Nat
  power : Int
  full : Bool

namespace Digits

def pushWhole (d : Digits) (c : Char) : Digits :=
  let n := d.significand * 10 + digitValue c
  if d.full || significandLimit < n then { d with power := d.power + 1, full := true }
  else { d with significand := n }

def pushFraction (d : Digits) (c : Char) : Digits :=
  let n := d.significand * 10 + digitValue c
  if d.full || significandLimit < n then { d with full := true }
  else { d with significand := n, power := d.power - 1 }

/-- A floating-point number of these digits, none when it is out of range. Powers of ten beyond
1e308 are divided out in steps. -/
def scale (significand : Nat) (power : Int) : Option Binary64 :=
  if 0 ≤ power then
    if significand = 0 then some (Binary64.ofRatio 0 1)
    else if 308 < power then none
    else
      let x := (Binary64.ofRatio significand 1).mul (Binary64.ofRatio (tenTo power.toNat) 1)
      if x.isFinite then some x else none
  else some (down (-power).toNat (Binary64.ofRatio significand 1) 4)
where
  down (power : Nat) (x : Binary64) : Nat → Binary64
    | 0 => Binary64.ofRatio 0 1
    | fuel + 1 =>
      if power ≤ 308 then x.div (Binary64.ofRatio (tenTo power) 1)
      else if x.isZero then x
      else down (power - 308) (x.div (Binary64.ofRatio (tenTo 308) 1)) fuel

def double (d : Digits) (negative : Bool) : Option JsonNumber :=
  match scale d.significand d.power with
  | none => none
  | some x =>
    let x := if negative then x.negate else x
    if h : x.isFinite = true then some (.double ⟨x, h⟩) else none

def whole (d : Digits) (negative : Bool) : Option JsonNumber :=
  if d.full then d.double negative
  else if !negative then some (.integer d.significand)
  else if d.significand = 0 ∨ 9223372036854775808 < d.significand then d.double negative
  else some (.integer (-d.significand))

end Digits

def takeDigits (push : Digits → Char → Digits) (d : Digits) : List Char → Digits × List Char
  | [] => (d, [])
  | c :: cs => if isDigit c then takeDigits push (push d c) cs else (d, c :: cs)

def exponent? (cs : List Char) : Option (Int × List Char) :=
  let (negative, cs) := match cs with
    | '+' :: cs => (false, cs)
    | '-' :: cs => (true, cs)
    | cs => (false, cs)
  match cs with
  | [] => none
  | c :: _ =>
    if !isDigit c then none
    else
      let digits := cs.takeWhile isDigit
      let n := digits.foldl (fun n c => min (n * 10 + digitValue c) 2147483648) 0
      some (if negative then -n else n, cs.dropWhile isDigit)

def withExponent (d : Digits) (negative : Bool) (cs : List Char) :
    Option (JsonNumber × List Char) :=
  match exponent? cs with
  | none => none
  | some (e, rest) =>
    match { d with power := d.power + e }.double negative with
    | none => none
    | some n => some (n, rest)

def unsigned? (negative : Bool) (cs : List Char) : Option (JsonNumber × List Char) :=
  match cs with
  | [] => none
  | c :: rest =>
    if !isDigit c then none
    else if c = '0' ∧ (rest.head?.any isDigit) then none
    else
      let (d, rest) := takeDigits Digits.pushWhole ⟨0, 0, false⟩ (c :: rest)
      match rest with
      | '.' :: rest =>
        if !rest.head?.any isDigit then none
        else
          let (d, rest) := takeDigits Digits.pushFraction { d with full := false } rest
          match rest with
          | c :: more =>
            if c = 'e' ∨ c = 'E' then withExponent d negative more
            else (d.double negative).map (·, rest)
          | [] => (d.double negative).map (·, rest)
      | c :: more =>
        if c = 'e' ∨ c = 'E' then withExponent d negative more
        else (d.whole negative).map (·, rest)
      | [] => (d.whole negative).map (·, rest)

def number? : List Char → Option (JsonNumber × List Char)
  | '-' :: cs => unsigned? true cs
  | cs => unsigned? false cs

def codeUnit? : List Char → Option (Nat × List Char)
  | a :: b :: c :: d :: cs => (Hex.number? [a, b, c, d]).map (·, cs)
  | _ => none

/-- The character of an escape, behind its backslash. A high surrogate needs its low one. -/
def escaped? : List Char → Option (Char × List Char)
  | [] => none
  | 'u' :: cs =>
    match codeUnit? cs with
    | none => none
    | some (hi, cs) =>
      if 0xD800 ≤ hi ∧ hi < 0xDC00 then
        match cs with
        | '\\' :: 'u' :: cs =>
          match codeUnit? cs with
          | none => none
          | some (lo, cs) =>
            if 0xDC00 ≤ lo ∧ lo < 0xE000 then
              some (Char.ofNat (0x10000 + (hi - 0xD800) * 0x400 + (lo - 0xDC00)), cs)
            else none
        | _ => none
      else if 0xDC00 ≤ hi ∧ hi < 0xE000 then none
      else some (Char.ofNat hi, cs)
  | c :: cs =>
    match c with
    | '"' => some ('"', cs)
    | '\\' => some ('\\', cs)
    | '/' => some ('/', cs)
    | 'b' => some ('\x08', cs)
    | 'f' => some ('\x0c', cs)
    | 'n' => some ('\n', cs)
    | 'r' => some ('\r', cs)
    | 't' => some ('\t', cs)
    | _ => none

/-- The rest of a string behind its opening quote; `acc` holds what was read, reversed. -/
def string? (fuel : Nat) (acc : List Char) (cs : List Char) : Option (String × List Char) :=
  match fuel with
  | 0 => none
  | fuel + 1 =>
    match cs with
    | [] => none
    | '"' :: cs => some (String.ofList acc.reverse, cs)
    | '\\' :: cs =>
      match escaped? cs with
      | none => none
      | some (c, cs) => string? fuel (c :: acc) cs
    | c :: cs => if c.toNat < 0x20 then none else string? fuel (c :: acc) cs

def afterWord? (word : List Char) (cs : List Char) : Option (List Char) :=
  if word.isPrefixOf cs then some (cs.drop word.length) else none

mutual

def value? (fuel : Nat) (cs : List Char) : Option (Json × List Char) :=
  match fuel with
  | 0 => none
  | fuel + 1 =>
    match skipBlanks cs with
    | [] => none
    | '"' :: cs => (string? fuel [] cs).map fun r => (string r.1, r.2)
    | '[' :: cs =>
      match skipBlanks cs with
      | ']' :: cs => some (array [], cs)
      | cs => items? fuel [] cs
    | '\x7b' :: cs =>
      match skipBlanks cs with
      | '\x7d' :: cs => some (object [], cs)
      | cs => fields? fuel [] cs
    | 'n' :: cs => (afterWord? ['u', 'l', 'l'] cs).map (null, ·)
    | 't' :: cs => (afterWord? ['r', 'u', 'e'] cs).map (bool true, ·)
    | 'f' :: cs => (afterWord? ['a', 'l', 's', 'e'] cs).map (bool false, ·)
    | cs => (number? cs).map fun r => (number r.1, r.2)

def items? (fuel : Nat) (acc : List Json) (cs : List Char) : Option (Json × List Char) :=
  match fuel with
  | 0 => none
  | fuel + 1 =>
    match value? fuel cs with
    | none => none
    | some (v, cs) =>
      match skipBlanks cs with
      | ']' :: cs => some (array (v :: acc).reverse, cs)
      | ',' :: cs => items? fuel (v :: acc) cs
      | _ => none

def fields? (fuel : Nat) (acc : List (String × Json)) (cs : List Char) :
    Option (Json × List Char) :=
  match fuel with
  | 0 => none
  | fuel + 1 =>
    match skipBlanks cs with
    | '"' :: cs =>
      match string? fuel [] cs with
      | none => none
      | some (key, cs) =>
        match skipBlanks cs with
        | ':' :: cs =>
          match value? fuel cs with
          | none => none
          | some (v, cs) =>
            let acc := insertField key v acc
            match skipBlanks cs with
            | '\x7d' :: cs => some (object acc, cs)
            | ',' :: cs => fields? fuel acc cs
            | _ => none
        | _ => none
    | _ => none

end

/-- The value that a whole text writes. No character takes more than two units of fuel. -/
def read? (s : String) : Option Json :=
  let cs := s.toList
  match value? (2 * cs.length + 2) cs with
  | some (v, rest) => if skipBlanks rest = [] then some v else none
  | none => none

end BoundSql.Json
