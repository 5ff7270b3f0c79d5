import BoundSql.Arg
import BoundSql.Value.Key
import Std.Data.HashMap

namespace BoundSql

/-- A text in which placeholders `$1`, `$2`, … stand for the arguments, in that order. -/
structure Statement where
  sql : String
  args : List Value

/-- A statement under construction, with the position of every key bound so far. -/
structure Builder where
  sql : String
  args : List Value
  positions : Std.HashMap Key Nat

namespace Builder

def start (sql : String) : Builder := ⟨sql, [], ∅⟩

def empty : Builder := start ""

def writeText (b : Builder) (s : String) : Builder := { b with sql := b.sql ++ s }

/-- The position of a literal, a new one unless its key has been bound. -/
def bind (b : Builder) (v : Value) : Nat × Builder :=
  match b.positions[v.key]? with
  | some position => (position, b)
  | none =>
    let position := b.args.length + 1
    (position,
      { b with args := b.args ++ [v], positions := b.positions.insert v.key position })

def writeValue (b : Builder) (v : Value) : Builder :=
  let (position, b) := b.bind v
  b.writeText ("$" ++ toString position)

/-- Instructions and the names of functions are written as they are; literals are bound. -/
def writeArg : Builder → Arg → Builder
  | b, .value v => b.writeValue v
  | b, .instruction i => b.writeText i.sql
  | b, .function f inner => b.writeText (f.name ++ "(") |>.writeArg inner |>.writeText ")"
  | b, .coalesce arg fallback =>
    b.writeText "COALESCE(" |>.writeArg arg |>.writeText ", " |>.writeArg fallback
      |>.writeText ")"

def writeSeparated {α : Type} (write : Builder → α → Builder) (separator : String) (b : Builder) :
    List α → Builder
  | [] => b
  | a :: as => as.foldl (fun b a => write (b.writeText separator) a) (write b a)

def writeArgs (b : Builder) (as : List Arg) : Builder := b.writeSeparated writeArg ", " as

def build (b : Builder) : Statement := ⟨b.sql, b.args⟩

end Builder

end BoundSql
