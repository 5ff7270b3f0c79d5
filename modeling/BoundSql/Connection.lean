import BoundSql.Event
import BoundSql.Rows
import BoundSql.Statement

namespace BoundSql

structure Executor (σ : Type) where
  query : String → List Value → σ → Except Error Rows × σ
  /-- Gives the number of rows affected. -/
  exec : String → List Value → σ → Except Error Nat × σ
  /-- Lets the time come at which rows have arrived. -/
  await : Nat → σ → σ

/-- Operations on a world of its own kind, so that the same transactions run on a recorder, on a
scripted server and on a pool. -/
structure Connection (σ : Type) extends Executor σ where
  /-- Runs one or more statements without arguments. -/
  batch : String → σ → Except Error Unit × σ
  /-- Says that a transaction was left unfinished: it has to be rolled back before the next use. -/
  abandon : σ → σ
  note : Event → σ → σ

/-- A run of a statement, and how its outcome is read. -/
inductive Run where
  | exec (sql : String) (args : List Value)
  | query (sql : String) (args : List Value)
  | queryStream (sql : String) (args : List Value)
  | queryRow (sql : String) (args : List Value)

namespace Run

def execStatement (s : Statement) : Run := exec s.sql s.args

def queryStatement (s : Statement) : Run := query s.sql s.args

end Run

inductive Answer where
  | done
  | count (n : Nat)
  | rows (rs : List Row)
  | items (is : List (Except Error Row))
  | row (r : Row)
  | value (j : Json)
  | text (s : String)
  | index (i : Nat)

def Answer.ofUnit : Except Error Unit → Except Error Answer
  | .ok () => .ok .done
  | .error e => .error e

namespace Executor

variable {σ : Type}

/-- Query, and read the rows in some way once they have arrived. -/
def reading (x : Executor σ) (sql : String) (args : List Value)
    (read : Rows → Except Error Answer) (w : σ) : Except Error Answer × σ :=
  match x.query sql args w with
  | (.error e, w) => (.error e, w)
  | (.ok rows, w) => (read rows, x.await rows.arrival w)

/-- Reading rows one by one stops after so many failures. -/
def failureLimit : Nat := 4

def run (x : Executor σ) (r : Run) (w : σ) : Except Error Answer × σ :=
  match r with
  | .exec sql args =>
    match x.exec sql args w with
    | (.error e, w) => (.error e, w)
    | (.ok n, w) => (.ok (.count n), w)
  | .query sql args => x.reading sql args (fun rows => rows.collect.map .rows) w
  | .queryStream sql args =>
    x.reading sql args (fun rows => .ok (.items (rows.drain failureLimit))) w
  | .queryRow sql args => x.reading sql args (fun rows => rows.exactlyOne.map .row) w

def within {τ : Type} (x : Executor σ) (get : τ → σ) (put : σ → τ → τ) : Executor τ where
  query sql args w := let (r, s) := x.query sql args (get w); (r, put s w)
  exec sql args w := let (r, s) := x.exec sql args (get w); (r, put s w)
  await time w := put (x.await time (get w)) w

end Executor

namespace Connection

variable {σ : Type}

def within {τ : Type} (c : Connection σ) (get : τ → σ) (put : σ → τ → τ) : Connection τ where
  toExecutor := c.toExecutor.within get put
  batch sql w := let (r, s) := c.batch sql (get w); (r, put s w)
  abandon w := put (c.abandon (get w)) w
  note e w := put (c.note e (get w)) w

end Connection

end BoundSql
