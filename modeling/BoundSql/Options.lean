import BoundSql.Condition

namespace BoundSql

inductive Direction where
  | ascending
  | descending
  deriving DecidableEq

structure OrderBy where
  column : Column
  direction : Direction

inductive JoinKind where
  | inner
  | left
  | right
  | full
  deriving DecidableEq

def JoinKind.sql : JoinKind → String
  | inner => "INNER JOIN"
  | left => "LEFT JOIN"
  | right => "RIGHT JOIN"
  | full => "FULL JOIN"

structure Join where
  kind : JoinKind
  table : String
  on : Condition

/-- Trailing clauses of a SELECT. The permission is kept for the caller and never written. -/
structure Options where
  condition : Option Condition
  joins : List Join
  orderBy : List OrderBy
  groupBy : Columns
  limit : UInt32
  offset : UInt32
  lock : Bool
  permission : Option String

namespace Options

def none : Options := ⟨.none, [], [], [], 0, 0, false, .none⟩

def withCondition (o : Options) (k : Condition) : Options := { o with condition := some k }

def join (o : Options) (j : Join) : Options := { o with joins := o.joins ++ [j] }

def leftJoin (o : Options) (table : String) (on : Condition) : Options :=
  o.join ⟨.left, table, on⟩

def orderByColumn (o : Options) (c : Column) (d : Direction) : Options :=
  { o with orderBy := o.orderBy ++ [⟨c, d⟩] }

def groupByColumn (o : Options) (c : Column) : Options := { o with groupBy := o.groupBy ++ [c] }

def withLimit (o : Options) (n : UInt32) : Options := { o with limit := n }

def withOffset (o : Options) (n : UInt32) : Options := { o with offset := n }

def withLock (o : Options) : Options := { o with lock := true }

def withPermission (o : Options) (permission : String) : Options :=
  { o with permission := some permission }

end Options

namespace Builder

/-- Write a join. A join on an empty condition is on TRUE. -/
def writeJoin (b : Builder) (j : Join) : Builder :=
  let b := b.writeText (" " ++ j.kind.sql ++ " " ++ j.table ++ " ON ")
  if j.on.isEmpty then b.writeText "TRUE" else b.writeCondition j.on

def writeOrderBy (b : Builder) (o : OrderBy) : Builder :=
  match o.direction with
  | .ascending => b.writeQualified o.column
  | .descending => b.writeQualified o.column |>.writeText " DESC"

def writeClause {α : Type} (b : Builder) (keyword : String)
    (write : Builder → List α → Builder) (as : List α) : Builder :=
  if as.isEmpty then b else write (b.writeText keyword) as

/-- Write a count behind its keyword, bound as a 64-bit integer; zero writes nothing. -/
def writeCount (b : Builder) (keyword : String) (n : UInt32) : Builder :=
  if n = 0 then b
  else b.writeText keyword |>.writeArg (.value (.number (.bigInt (Int64.ofNat n.toNat))))

def writeFilter (b : Builder) : Option Condition → Builder
  | some k => b.writeWhere k
  | none => b

def writeLock (b : Builder) (lock : Bool) : Builder :=
  if lock then b.writeText " FOR UPDATE" else b

def writeOptions (b : Builder) (o : Options) : Builder :=
  o.joins.foldl writeJoin b
    |>.writeFilter o.condition
    |>.writeClause " GROUP BY " writeColumns o.groupBy
    |>.writeClause " ORDER BY " (fun b => b.writeSeparated writeOrderBy ", ") o.orderBy
    |>.writeCount " LIMIT " o.limit
    |>.writeCount " OFFSET " o.offset
    |>.writeLock o.lock

end Builder

end BoundSql
