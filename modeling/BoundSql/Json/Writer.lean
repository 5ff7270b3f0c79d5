import BoundSql.Json.Basic
import BoundSql.Binary.Layout
import BoundSql.Text.Hex

namespace BoundSql

open Binary

def JsonNumber.text : JsonNumber → String
  | .integer n => toString n
  | .double x => x.value.text jsonLayout

namespace Json

def escape (c : Char) : List Char :=
  match c with
  | '"' => ['\\', '"']
  | '\\' => ['\\', '\\']
  | '\x08' => ['\\', 'b']
  | '\x0c' => ['\\', 'f']
  | '\n' => ['\\', 'n']
  | '\r' => ['\\', 'r']
  | '\t' => ['\\', 't']
  | c =>
    if c.toNat < 0x20 then
      ['\\', 'u', '0', '0', Hex.digit (c.toNat / 16), Hex.digit (c.toNat % 16)]
    else [c]

def quote (s : String) : String := "\"" ++ String.ofList (s.toList.flatMap escape) ++ "\""

mutual

def text : Json → String
  | null => "null"
  | bool b => if b then "true" else "false"
  | number n => n.text
  | string s => quote s
  | array items => "[" ++ itemsText items ++ "]"
  | object fields => "\x7b" ++ fieldsText fields ++ "\x7d"

def itemsText : List Json → String
  | [] => ""
  | [a] => text a
  | a :: b :: as => text a ++ "," ++ itemsText (b :: as)

def fieldsText : List (String × Json) → String
  | [] => ""
  | [(k, a)] => quote k ++ ":" ++ text a
  | (k, a) :: b :: as => quote k ++ ":" ++ text a ++ "," ++ fieldsText (b :: as)

end

end Json

end BoundSql
