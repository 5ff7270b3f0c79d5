import BoundSql.Binary.Layout
import BoundSql.Json.Writer
import BoundSql.Text.Quoted
import BoundSql.Value.Basic

namespace BoundSql

open Binary

namespace Json

mutual

def describe : Json → String
  | null => "Null"
  | bool b => "Bool(" ++ toString b ++ ")"
  | number n => "Number(" ++ n.text ++ ")"
  | string s => "String(" ++ Quoted.quote s ++ ")"
  | array items => "Array [" ++ describeItems items ++ "]"
  | object fields => "Object \x7b" ++ describeFields fields ++ "\x7d"

def describeItems : List Json → String
  | [] => ""
  | [a] => describe a
  | a :: b :: as => describe a ++ ", " ++ describeItems (b :: as)

def describeFields : List (String × Json) → String
  | [] => ""
  | [(k, a)] => Quoted.quote k ++ ": " ++ describe a
  | (k, a) :: b :: as => Quoted.quote k ++ ": " ++ describe a ++ ", " ++ describeFields (b :: as)

end

end Json

def Interval.describe (i : Interval) : String :=
  "Interval \x7b months: " ++ toString i.months.toInt ++ ", days: " ++ toString i.days.toInt ++
    ", microseconds: " ++ toString i.microseconds.toInt ++ " \x7d"

def Number.describe : Number → String
  | smallInt n => "SmallInt(" ++ toString n.toInt ++ ")"
  | int n => "Int(" ++ toString n.toInt ++ ")"
  | bigInt n => "BigInt(" ++ toString n.toInt ++ ")"
  | real x => "Real(" ++ x.text descriptiveLayout ++ ")"
  | double x => "Double(" ++ x.text descriptiveLayout ++ ")"
  | timestamp t => "Timestamp(" ++ t.text ++ ")"
  | interval i => "Interval(" ++ i.describe ++ ")"

def Value.describe : Value → String
  | text s => "Text(" ++ Quoted.quote s ++ ")"
  | number n => "Number(" ++ n.describe ++ ")"
  | boolean b => "Boolean(" ++ toString b ++ ")"
  | bytes bs => "Bytes([" ++ ", ".intercalate (bs.map fun b => toString b.toNat) ++ "])"
  | uuid u => "Uuid(" ++ u.text ++ ")"
  | json j => "Json(" ++ j.describe ++ ")"

end BoundSql
