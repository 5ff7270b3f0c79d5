import BoundSql.Value.Description

namespace BoundSql

/-- Functions that wrap columns and arguments alike, so that both sides of a comparison can be
treated the same way. -/
inductive SqlFunction where
  | lower
  | sha256
  deriving DecidableEq

namespace SqlFunction

def name : SqlFunction → String
  | lower => "LOWER"
  | sha256 => "SHA256"

def describe : SqlFunction → String
  | lower => "Lower"
  | sha256 => "Sha256"

end SqlFunction

/-- Words that are never bound. -/
inductive Instruction where
  | now
  | null
  | default
  deriving DecidableEq

namespace Instruction

def sql : Instruction → String
  | now => "NOW()"
  | null => "NULL"
  | default => "DEFAULT"

def describe : Instruction → String
  | now => "Now"
  | null => "Null"
  | default => "Default"

end Instruction

inductive Arg where
  | value (v : Value)
  | instruction (i : Instruction)
  | function (f : SqlFunction) (inner : Arg)
  | coalesce (arg fallback : Arg)

namespace Arg

/-- The family of the first literal that has one. The current time counts as a number. -/
def family : Arg → Option Family
  | value v => v.family
  | instruction .now => some .number
  | instruction _ => none
  | function _ inner => inner.family
  | coalesce arg fallback =>
    match arg.family with
    | some f => some f
    | none => fallback.family

def same : Arg → Arg → Bool
  | value a, value b => a.same b
  | instruction a, instruction b => a == b
  | function f a, function g b => f == g && a.same b
  | coalesce a b, coalesce c d => a.same c && b.same d
  | _, _ => false

def describe : Arg → String
  | value v => "Value(" ++ v.describe ++ ")"
  | instruction i => "Instruction(" ++ i.describe ++ ")"
  | function f inner => "Function(" ++ f.describe ++ ", " ++ inner.describe ++ ")"
  | coalesce arg fallback => "Coalesce(" ++ arg.describe ++ ", " ++ fallback.describe ++ ")"

end Arg

end BoundSql
