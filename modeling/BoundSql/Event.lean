import BoundSql.Text.Cut

namespace BoundSql

inductive Handle where
  | transaction
  | savepoint
  deriving DecidableEq

def Handle.name : Handle → String
  | transaction => "transaction"
  | savepoint => "savepoint"

inductive Event where
  /-- A statement is about to be sent. -/
  | statement (sql : String) (argCount : Nat)
  /-- A transaction takes a step in its life. -/
  | transaction (step sql : String)
  | abandoned (handle : Handle)
  | connectionLost
  deriving DecidableEq

namespace Event

/-- Longest part of a statement that is reported, in bytes. -/
def shownLimit : Nat := 200

/-- What is reported of a statement. The cut never fails. -/
def shown (sql : String) : String := (Cut.cut? shownLimit sql).get (Cut.isSome_cut? shownLimit sql)

def isTruncated (sql : String) : Bool := (shown sql).utf8ByteSize < sql.utf8ByteSize

def warning (h : Handle) : String :=
  h.name ++
    " dropped without commit or rollback; it will be rolled back before the connection is reused"

end Event

end BoundSql
