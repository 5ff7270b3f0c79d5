import BoundSql.Error.Basic
import BoundSql.Table.Basic
import Std.Data.HashMap

namespace BoundSql

abbrev ColumnPairs := List (String × String)

structure Joins where
  pairs : Std.HashMap (String × String) ColumnPairs

namespace Joins

def empty : Joins := ⟨∅⟩

/-- The first pair with a column that its table does not declare, the left column first. -/
def undeclared? (left right : Table) : ColumnPairs → Option String
  | [] => none
  | (l, r) :: pairs =>
    if !left.hasColumn l then some (left.name ++ " has no column " ++ l)
    else if !right.hasColumn r then some (right.name ++ " has no column " ++ r)
    else undeclared? left right pairs

/-- Record the pairs for the two tables, and the swapped pairs for the way back. -/
def register (j : Joins) (left right : Table) (pairs : ColumnPairs) : Except Error Joins :=
  match pairs with
  | [] => .error (.invalidJoin left.name right.name "no columns to join on")
  | pairs =>
    match undeclared? left right pairs with
    | some reason => .error (.invalidJoin left.name right.name reason)
    | none =>
      .ok ⟨(j.pairs.insert (left.name, right.name) pairs).insert (right.name, left.name)
        (pairs.map fun p => (p.2, p.1))⟩

def possible? (j : Joins) (left right : Table) : Option ColumnPairs :=
  j.pairs[(left.name, right.name)]?

def on? (j : Joins) (left right : Table) : Option Condition :=
  match j.possible? left right with
  | none => none
  | some pairs =>
    some (.and (pairs.map fun p => .columnsEqual (left.column p.1) (right.column p.2)))

def standard : Except Error Joins :=
  match empty.register .instances .orgs [("id", "instance_id")] with
  | .error e => .error e
  | .ok j => j.register .orgs .users [("instance_id", "instance_id"), ("id", "org_id")]

end Joins

end BoundSql
