import BoundSql.Column

namespace BoundSql

inductive TextOperation where
  | equal
  | notEqual
  | startsWith
  | contains
  | equalIgnoreCase
  | notEqualIgnoreCase
  | startsWithIgnoreCase
  | containsIgnoreCase
  deriving DecidableEq

/-- `atLeast` says that the argument is at least the column, `atMost` that it is at most the
column. -/
inductive NumberOperation where
  | equal
  | notEqual
  | lessThan
  | atLeast
  | greaterThan
  | atMost
  deriving DecidableEq

/-- The bound value alone decides what is matched. -/
inductive BooleanOperation where
  | isTrue
  | isFalse
  deriving DecidableEq

inductive BytesOperation where
  | equal
  | notEqual
  deriving DecidableEq

inductive Operation where
  | text (op : TextOperation)
  | number (op : NumberOperation)
  | boolean (op : BooleanOperation)
  | bytes (op : BytesOperation)
  deriving DecidableEq

namespace TextOperation

def ignoresCase : TextOperation → Bool
  | equalIgnoreCase | notEqualIgnoreCase | startsWithIgnoreCase | containsIgnoreCase => true
  | equal | notEqual | startsWith | contains => false

def infixText : TextOperation → String
  | equal | equalIgnoreCase => " = "
  | notEqual | notEqualIgnoreCase => " <> "
  | startsWith | startsWithIgnoreCase => " LIKE "
  | contains | containsIgnoreCase => " LIKE '%' || "

def suffix : TextOperation → String
  | startsWith | startsWithIgnoreCase | contains | containsIgnoreCase => " || '%'"
  | equal | equalIgnoreCase | notEqual | notEqualIgnoreCase => ""

def describe : TextOperation → String
  | equal => "Equal"
  | notEqual => "NotEqual"
  | startsWith => "StartsWith"
  | contains => "Contains"
  | equalIgnoreCase => "EqualIgnoreCase"
  | notEqualIgnoreCase => "NotEqualIgnoreCase"
  | startsWithIgnoreCase => "StartsWithIgnoreCase"
  | containsIgnoreCase => "ContainsIgnoreCase"

end TextOperation

namespace NumberOperation

def symbol : NumberOperation → String
  | equal => "="
  | notEqual => "<>"
  | lessThan => "<"
  | atLeast => "<="
  | greaterThan => ">"
  | atMost => ">="

def describe : NumberOperation → String
  | equal => "Equal"
  | notEqual => "NotEqual"
  | lessThan => "LessThan"
  | atLeast => "AtLeast"
  | greaterThan => "GreaterThan"
  | atMost => "AtMost"

end NumberOperation

def BooleanOperation.describe : BooleanOperation → String
  | isTrue => "IsTrue"
  | isFalse => "IsFalse"

namespace BytesOperation

def symbol : BytesOperation → String
  | equal => "="
  | notEqual => "<>"

def describe : BytesOperation → String
  | equal => "Equal"
  | notEqual => "NotEqual"

end BytesOperation

namespace Operation

def family : Operation → Family
  | text _ => .text
  | number _ => .number
  | boolean _ => .boolean
  | bytes _ => .bytes

/-- Text operators take bytes too; every other operator takes its own family only. -/
def accepts : Operation → Option Family → Bool
  | text _, some .text | text _, some .bytes => true
  | number _, some .number => true
  | boolean _, some .boolean => true
  | bytes _, some .bytes => true
  | _, _ => false

def isEquality : Operation → Bool
  | text .equal | number .equal | boolean _ | bytes .equal => true
  | _ => false

def describe : Operation → String
  | text op => "Text(" ++ op.describe ++ ")"
  | number op => "Number(" ++ op.describe ++ ")"
  | boolean op => "Boolean(" ++ op.describe ++ ")"
  | bytes op => "Bytes(" ++ op.describe ++ ")"

end Operation

namespace Builder

/-- Write a comparison. An operator that ignores case lowers both sides. -/
def writeTextOperation (b : Builder) (op : TextOperation) (c : Column) (a : Arg) : Builder :=
  if op.ignoresCase then
    b.writeQualified (.function .lower c) |>.writeText op.infixText
      |>.writeArg (.function .lower a) |>.writeText op.suffix
  else b.writeQualified c |>.writeText op.infixText |>.writeArg a |>.writeText op.suffix

def writeComparison (b : Builder) (symbol : String) (c : Column) (a : Arg) : Builder :=
  b.writeQualified c |>.writeText (" " ++ symbol ++ " ") |>.writeArg a

def writeOperation (b : Builder) (op : Operation) (c : Column) (a : Arg) : Builder :=
  match op with
  | .text op => b.writeTextOperation op c a
  | .number op => b.writeComparison op.symbol c a
  | .boolean _ => b.writeComparison "=" c a
  | .bytes op => b.writeComparison op.symbol c a

end Builder

end BoundSql
