import BoundSql.Time.Duration

namespace BoundSql

inductive Constraint where
  | check
  | unique
  | foreignKey
  | notNull
  | unknown
  deriving DecidableEq

structure Violation where
  kind : Constraint
  table : String
  constraint : String
  deriving DecidableEq

mutual

/-- What an error goes back to: a failure described by its text and the texts below it, or another
error. -/
inductive Cause where
  | foreign (message : String) (sources : List String)
  | error (e : Error)

inductive Error where
  | noRowFound (cause : Option Cause)
  | multipleRowsFound (count : Option Nat)
  | integrity (violation : Violation) (cause : Option Cause)
  | unknown (cause : Cause)
  | missingCondition (column : String)
  | noChanges
  | savepointActive (name : String)
  | invalidJoin (left right reason : String)
  | rollbackFailed (source rollback : Error)
  | timeout (limit : Duration)
  | cancelled (cause : Cause)
  | decode (column message : String)
  | connection (message : String)
  | config (message : String)
  | pool (message : String)

end

/-- Kinds of errors. `integrityViolation` stands for every violated constraint. -/
inductive ErrorKind where
  | noRowFound
  | multipleRowsFound
  | integrityViolation
  | checkViolation
  | uniqueViolation
  | foreignKeyViolation
  | notNullViolation
  | unknown
  | missingCondition
  | noChanges
  | savepointActive
  | invalidJoin
  | rollbackFailed
  | timeout
  | cancelled
  | decode
  | connection
  | config
  | pool
  deriving DecidableEq

namespace ErrorKind

def all : List ErrorKind :=
  [noRowFound, multipleRowsFound, integrityViolation, checkViolation, uniqueViolation,
    foreignKeyViolation, notNullViolation, unknown, missingCondition, noChanges, savepointActive,
    invalidJoin, rollbackFailed, timeout, cancelled, decode, connection, config, pool]

def name : ErrorKind → String
  | noRowFound => "NoRowFound"
  | multipleRowsFound => "MultipleRowsFound"
  | integrityViolation => "IntegrityViolation"
  | checkViolation => "CheckViolation"
  | uniqueViolation => "UniqueViolation"
  | foreignKeyViolation => "ForeignKeyViolation"
  | notNullViolation => "NotNullViolation"
  | unknown => "Unknown"
  | missingCondition => "MissingCondition"
  | noChanges => "NoChanges"
  | savepointActive => "SavepointActive"
  | invalidJoin => "InvalidJoin"
  | rollbackFailed => "RollbackFailed"
  | timeout => "Timeout"
  | cancelled => "Cancelled"
  | decode => "Decode"
  | connection => "Connection"
  | config => "Config"
  | pool => "Pool"

end ErrorKind

namespace Constraint

def errorKind : Constraint → ErrorKind
  | check => .checkViolation
  | unique => .uniqueViolation
  | foreignKey => .foreignKeyViolation
  | notNull => .notNullViolation
  | unknown => .integrityViolation

end Constraint

namespace Error

def kind : Error → ErrorKind
  | noRowFound _ => .noRowFound
  | multipleRowsFound _ => .multipleRowsFound
  | integrity v _ => v.kind.errorKind
  | unknown _ => .unknown
  | missingCondition _ => .missingCondition
  | noChanges => .noChanges
  | savepointActive _ => .savepointActive
  | invalidJoin _ _ _ => .invalidJoin
  | rollbackFailed _ _ => .rollbackFailed
  | timeout _ => .timeout
  | cancelled _ => .cancelled
  | decode _ _ => .decode
  | connection _ => .connection
  | config _ => .config
  | pool _ => .pool

def is (k : ErrorKind) : Error → Bool
  | integrity v _ => v.kind.errorKind == k || k == .integrityViolation
  | rollbackFailed source rollback => k == .rollbackFailed || is k source || is k rollback
  | e => e.kind == k

def violation? : Error → Option Violation
  | integrity v _ => some v
  | _ => none

def isNotFound (e : Error) : Bool := e.is .noRowFound

def isIntegrityViolation (e : Error) : Bool := e.is .integrityViolation

def isUniqueViolation (e : Error) : Bool := e.is .uniqueViolation

def isTimeout (e : Error) : Bool := e.is .timeout

end Error

end BoundSql
