import BoundSql.Error.Basic

namespace BoundSql

structure Report where
  code : String
  message : String
  severity : String
  detail : Option String
  hint : Option String
  table : Option String
  constraint : Option String

inductive Meaning where
  | violation (kind : Constraint)
  | cancelled
  | other
  deriving DecidableEq

/-- Codes of class 23 are violated constraints, known or not. -/
def Meaning.ofCode (code : String) : Meaning :=
  if code = "23514" then .violation .check
  else if code = "23505" then .violation .unique
  else if code = "23503" then .violation .foreignKey
  else if code = "23502" then .violation .notNull
  else if code = "57014" then .cancelled
  else if code.startsWith "23" then .violation .unknown
  else .other

namespace Report

def line (label : String) : Option String → String
  | some s => "\n" ++ label ++ ": " ++ s
  | none => ""

def text (r : Report) : String :=
  r.severity ++ ": " ++ r.message ++ line "DETAIL" r.detail ++ line "HINT" r.hint

def summary : String := "db error"

def cause (r : Report) : Cause := .foreign summary [r.text]

def toError (r : Report) : Error :=
  match Meaning.ofCode r.code with
  | .violation kind =>
    .integrity ⟨kind, r.table.getD "", r.constraint.getD ""⟩ (some r.cause)
  | .cancelled => .cancelled r.cause
  | .other => .unknown r.cause

end Report

inductive DriverFailure where
  | closed
  | parameterCount (expected actual : Nat)
  | parameterType (index : Nat)
  | malformedRow
  | unsendable
  deriving DecidableEq

def unsendableSummary : String := "error encoding message to server"

def DriverFailure.toError : DriverFailure → Error
  | closed => .connection "connection closed"
  | parameterCount expected actual =>
    .unknown (.foreign ("expected " ++ toString expected ++ " parameters but got " ++
      toString actual) [])
  | parameterType index =>
    .unknown (.foreign ("error serializing parameter " ++ toString index) ["wrong type"])
  | malformedRow =>
    .unknown (.foreign "error parsing response from server"
      ["DataRow field count does not match the number of columns"])
  | unsendable => .unknown (.foreign unsendableSummary ["string contains embedded null"])

inductive Rejection where
  | refused (r : Report)
  | unsendable

namespace Rejection

def summary : Rejection → String
  | refused _ => Report.summary
  | unsendable => unsendableSummary

def toError : Rejection → Error
  | refused r => r.toError
  | unsendable => DriverFailure.unsendable.toError

end Rejection

end BoundSql
