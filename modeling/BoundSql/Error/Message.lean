import BoundSql.Error.Basic

namespace BoundSql

def Constraint.name : Constraint → String
  | check => "check"
  | unique => "unique"
  | foreignKey => "foreign"
  | notNull => "not-null"
  | unknown => "unknown"

def Violation.message (v : Violation) : String :=
  "integrity violation of type \"" ++ v.kind.name ++ "\" on table \"" ++ v.table ++
    "\" (constraint: " ++ v.constraint ++ ")"

mutual

def Cause.message : Cause → String
  | .foreign message _ => message
  | .error e => Error.message e

def Error.message : Error → String
  | .noRowFound none => "no row found"
  | .noRowFound (some cause) => "no row found: " ++ Cause.message cause
  | .multipleRowsFound none => "multiple rows found"
  | .multipleRowsFound (some n) => "multiple rows found (" ++ toString n ++ " rows)"
  | .integrity v _ => v.message
  | .unknown cause => "unknown database error: " ++ Cause.message cause
  | .missingCondition column => "missing condition for column " ++ column
  | .noChanges => "no changes to apply"
  | .savepointActive name =>
    "savepoint \"" ++ name ++ "\" is already active, only one nesting level is supported"
  | .invalidJoin left right reason =>
    "invalid join between " ++ left ++ " and " ++ right ++ ": " ++ reason
  | .rollbackFailed source rollback =>
    Error.message source ++ " (rollback failed: " ++ Error.message rollback ++ ")"
  | .timeout limit => "statement timeout after " ++ limit.text
  | .cancelled cause => "statement cancelled: " ++ Cause.message cause
  | .decode column message => "decode error on column '" ++ column ++ "': " ++ message
  | .connection message => "connection error: " ++ message
  | .config message => "configuration error: " ++ message
  | .pool message => "pool error: " ++ message

end

mutual

def Cause.chain : Cause → List String
  | .foreign message sources => message :: sources
  | .error e => Error.message e :: Error.sources e

/-- The texts below an error, the nearest first. A failed rollback goes back to the failure that
it was meant to undo. -/
def Error.sources : Error → List String
  | .noRowFound (some cause) => Cause.chain cause
  | .integrity _ (some cause) => Cause.chain cause
  | .unknown cause => Cause.chain cause
  | .cancelled cause => Cause.chain cause
  | .rollbackFailed source _ => Error.message source :: Error.sources source
  | _ => []

end

end BoundSql
