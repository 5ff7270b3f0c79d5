import BoundSql.Statement

namespace BoundSql

inductive Column where
  | named (table name : String)
  | function (f : SqlFunction) (inner : Column)
  | coalesce (inner : Column) (fallback : Arg)

namespace Column

def table : Column → String
  | named table _ => table
  | function _ inner => inner.table
  | coalesce inner _ => inner.table

def name : Column → String
  | named _ name => name
  | function _ inner => inner.name
  | coalesce inner _ => inner.name

/-- Equality of shape: a plain column never equals a wrapped one. -/
def same : Column → Column → Bool
  | named t n, named u m => t == u && n == m
  | function f a, function g b => f == g && a.same b
  | coalesce a x, coalesce b y => a.same b && x.same y
  | _, _ => false

def sameAs? (c : Column) : Option Column → Bool
  | some d => c.same d
  | none => false

end Column

def Column.sameOption : Option Column → Option Column → Bool
  | none, none => true
  | some c, d => c.sameAs? d
  | none, some _ => false

abbrev Columns := List Column

namespace Columns

def has (cs : Columns) (c : Column) : Bool := cs.any fun d => d.same c

def same : Columns → Columns → Bool
  | [], [] => true
  | c :: cs, d :: ds => c.same d && same cs ds
  | _, _ => false

end Columns

namespace Builder

/-- Write a column with the qualifier of its innermost name. -/
def writeQualified : Builder → Column → Builder
  | b, .named table name => b.writeText table |>.writeText "." |>.writeText name
  | b, .function f inner => b.writeText (f.name ++ "(") |>.writeQualified inner |>.writeText ")"
  | b, .coalesce inner fallback =>
    b.writeText "COALESCE(" |>.writeQualified inner |>.writeText ", " |>.writeArg fallback
      |>.writeText ")"

def writeUnqualified : Builder → Column → Builder
  | b, .named _ name => b.writeText name
  | b, .function f inner => b.writeText (f.name ++ "(") |>.writeUnqualified inner |>.writeText ")"
  | b, .coalesce inner fallback =>
    b.writeText "COALESCE(" |>.writeUnqualified inner |>.writeText ", " |>.writeArg fallback
      |>.writeText ")"

def writeColumns (b : Builder) (cs : Columns) : Builder := b.writeSeparated writeQualified ", " cs

def writeColumnsUnqualified (b : Builder) (cs : Columns) : Builder :=
  b.writeSeparated writeUnqualified ", " cs

end Builder

end BoundSql
