import BoundSql.Options
import BoundSql.Table.Joins

namespace BoundSql

structure Query where
  table : Table
  joins : Joins
  /-- Names of the columns to select; all columns of the table if absent. -/
  select : Option (List String)
  filters : List Condition
  options : Options

namespace Query

def on (table : Table) (joins : Joins) (select : Option (List String)) : Query :=
  ⟨table, joins, select, [], .none⟩

def columns (q : Query) : Columns :=
  match q.select with
  | some names => names.map q.table.column
  | none => q.table.allColumns

def joinWith (q : Query) (kind : JoinKind) (other : Table) : Except Misuse Query :=
  match q.joins.on? q.table other with
  | none => .error (.notJoined q.table.name other.name)
  | some on => .ok { q with options := q.options.join ⟨kind, other.fromClause, on⟩ }

def join (q : Query) (other : Table) : Except Misuse Query := q.joinWith .inner other

def leftJoin (q : Query) (other : Table) : Except Misuse Query := q.joinWith .left other

def filter (q : Query) (k : Condition) : Query := { q with filters := q.filters ++ [k] }

/-- Order by a column of the table; any other column is passed over. -/
def orderBy (q : Query) (c : Column) (d : Direction) : Query :=
  if q.table.owns c then { q with options := q.options.orderByColumn c d } else q

def groupBy (q : Query) (c : Column) : Query := { q with options := q.options.groupByColumn c }

def limit (q : Query) (n : UInt32) : Query := { q with options := q.options.withLimit n }

def offset (q : Query) (n : UInt32) : Query := { q with options := q.options.withOffset n }

def lock (q : Query) : Query := { q with options := q.options.withLock }

/-- The options with all conditions put together, unless they say nothing. -/
def finalOptions (q : Query) : Options :=
  if (Condition.and q.filters).isEmpty then q.options
  else q.options.withCondition (.and q.filters)

/-- A SELECT of columns of any kind. -/
def selecting (q : Query) (columns : Columns) : Statement :=
  Builder.start "SELECT " |>.writeColumns columns
    |>.writeText (" FROM " ++ q.table.fromClause) |>.writeOptions q.finalOptions |>.build

def build (q : Query) : Statement := q.selecting q.columns

end Query

end BoundSql
