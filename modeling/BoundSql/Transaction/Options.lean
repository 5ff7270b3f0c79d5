namespace BoundSql

inductive IsolationLevel where
  | serializable
  | repeatableRead
  | readCommitted
  deriving DecidableEq

def IsolationLevel.sql : IsolationLevel → String
  | serializable => "SERIALIZABLE"
  | repeatableRead => "REPEATABLE READ"
  | readCommitted => "READ COMMITTED"

inductive AccessMode where
  | readWrite
  | readOnly
  deriving DecidableEq

def AccessMode.sql : AccessMode → String
  | readWrite => "READ WRITE"
  | readOnly => "READ ONLY"

structure TransactionOptions where
  isolation : IsolationLevel
  access : AccessMode
  deriving DecidableEq

namespace TransactionOptions

def default : TransactionOptions := ⟨.serializable, .readWrite⟩

def beginSql (o : TransactionOptions) : String :=
  "BEGIN ISOLATION LEVEL " ++ o.isolation.sql ++ ", " ++ o.access.sql

end TransactionOptions

end BoundSql
