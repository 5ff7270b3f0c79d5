import BoundSql.Error.Basic
import BoundSql.Options
import BoundSql.Table.Basic

namespace BoundSql

mutual

/-- A change. `cte` carries the steps that write a statement into the WITH clause, the mark of the
place where they were put together, and the assignment that goes with them. -/
inductive Change where
  | set (c : Column) (a : Arg)
  | increment (c source : Column)
  | setJson (c : Column) (path : List String) (value : Json)
  | cte (body : List Step) (mark : Nat) (assignment : Option Change)

/-- Something that can be written to a builder. A step may have been put together wrongly, which
shows when its turn comes. -/
inductive Step where
  | text (s : String)
  | arg (a : Arg)
  | args (as : List Arg)
  | qualified (c : Column)
  | unqualified (c : Column)
  | columns (cs : Columns)
  | columnsUnqualified (cs : Columns)
  | condition (k : Condition)
  | whereClause (k : Condition)
  | options (o : Options)
  | set (chs : List Change)
  | ctes (chs : List Change)
  | operation (op : Operation) (c : Column) (a : Arg)
  | fromTable (t : Table)
  | wrong (m : Misuse)

end

namespace Change

/-- An absent argument assigns NULL. -/
def ofOption (c : Column) : Option Arg → Change
  | some a => set c a
  | none => set c (.instruction .null)

def toNull (c : Column) : Change := set c (.instruction .null)

mutual

def column? : Change → Option Column
  | set c _ => some c
  | increment c _ => some c
  | setJson c _ _ => some c
  | cte _ _ assignment => optionalColumn? assignment

def optionalColumn? : Option Change → Option Column
  | none => none
  | some ch => column? ch

end

def isCte : Change → Bool
  | cte _ _ _ => true
  | _ => false

mutual

def hasAssignment : Change → Bool
  | cte _ _ assignment => optionalHasAssignment assignment
  | _ => true

def optionalHasAssignment : Option Change → Bool
  | none => false
  | some ch => hasAssignment ch

end

end Change

abbrev Changes := List Change

namespace Changes

def isOn (chs : Changes) (c : Column) : Bool :=
  chs.any fun ch =>
    match ch.column? with
    | some d => d.same c
    | none => false

def requireAny (chs : Changes) : Except Error Unit :=
  if chs.isEmpty then .error .noChanges else .ok ()

def hasCtes (chs : Changes) : Bool := chs.any Change.isCte

end Changes

namespace Builder

def writePath (b : Builder) (path : List String) : Builder :=
  if path.isEmpty then b.writeText "ARRAY[]::TEXT[]"
  else
    b.writeText "ARRAY[" |>.writeArgs (path.map fun s => .value (.text s)) |>.writeText "]"

mutual

/-- Write the assignment as it stands in the SET list, columns without their qualifier. -/
def writeAssignment : Builder → Change → Builder
  | b, .set c a => b.writeUnqualified c |>.writeText " = " |>.writeArg a
  | b, .increment c source =>
    b.writeUnqualified c |>.writeText " = " |>.writeUnqualified source |>.writeText " + 1"
  | b, .setJson c path value =>
    b.writeUnqualified c |>.writeText " = jsonb_set(" |>.writeUnqualified c |>.writeText ", "
      |>.writePath path |>.writeText ", " |>.writeArg (.value (.json value)) |>.writeText ")"
  | b, .cte _ _ assignment => b.writeOptionalAssignment assignment

def writeOptionalAssignment : Builder → Option Change → Builder
  | b, none => b
  | b, some ch => b.writeAssignment ch

end

def writeAssignments (b : Builder) (chs : Changes) : Builder :=
  b.writeSeparated writeAssignment ", " (chs.filter Change.hasAssignment)

end Builder

end BoundSql
