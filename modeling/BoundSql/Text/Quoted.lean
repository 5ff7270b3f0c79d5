import BoundSql.Text.Hex
import BoundSql.Text.Unprintable

namespace BoundSql.Quoted

def escape (c : Char) : String :=
  match c with
  | '"' => "\\\""
  | '\\' => "\\\\"
  | '\n' => "\\n"
  | '\t' => "\\t"
  | '\r' => "\\r"
  | '\x00' => "\\0"
  | c =>
    if Unprintable.isUnprintable c then "\\u\x7b" ++ Hex.ofNat c.toNat ++ "\x7d"
    else c.toString

def quote (s : String) : String := "\"" ++ String.join (s.toList.map escape) ++ "\""

def front? (bs : List UInt8) : Option Char :=
  (ByteArray.mk (bs.take 4).toArray).utf8DecodeChar? 0

def escapeByte (b : UInt8) : String := "\\x" ++ (Hex.padded 2 b.toNat).map Char.toUpper

/-- Characters are escaped whole; `skip` counts the bytes of the last one still to pass. -/
def escapeBytes (skip : Nat) : List UInt8 → String
  | [] => ""
  | b :: bs =>
    match skip with
    | skip + 1 => escapeBytes skip bs
    | 0 =>
      match front? (b :: bs) with
      | some c => escape c ++ escapeBytes (c.utf8Size - 1) bs
      | none => escapeByte b ++ escapeBytes 0 bs

def quoteBytes (bs : List UInt8) : String := "\"" ++ escapeBytes 0 bs ++ "\""

end BoundSql.Quoted
