import BoundSql.Connection
import BoundSql.Transaction.Options
/-!
A savepoint that was dropped, or whose rollback failed, is abandoned; the transaction rolls it back
before it does anything else. A transaction that was dropped, or whose end failed, is abandoned to
its connection.
-/

namespace BoundSql

structure Transaction where
  finished : Bool
  savepointActive : Bool
  savepointAbandoned : Bool
  deriving DecidableEq

namespace Transaction

def savepointName : String := "pgstmt_nested"

def savepointSql : String := "SAVEPOINT " ++ savepointName

def releaseSql : String := "RELEASE SAVEPOINT " ++ savepointName

def rollbackToSql : String := "ROLLBACK TO SAVEPOINT " ++ savepointName

def settleSql : String := rollbackToSql ++ "; " ++ releaseSql

variable {σ : Type} (c : Connection σ)

/-- Report a step of the transaction's life and send its statement. -/
def send (step sql : String) (w : σ) : Except Error Unit × σ :=
  c.batch sql (c.note (.transaction step sql) w)

def start (o : TransactionOptions) (w : σ) : Except Error Transaction × σ :=
  match send c "begin" o.beginSql w with
  | (.error e, w) => (.error e, w)
  | (.ok (), w) => (.ok ⟨false, false, false⟩, w)

/-- Roll back and release an abandoned savepoint. If that fails it stays abandoned. -/
def settle (t : Transaction) (w : σ) : Except Error Unit × Transaction × σ :=
  if t.savepointAbandoned then
    match send c "settle savepoint" settleSql w with
    | (.error e, w) => (.error e, t, w)
    | (.ok (), w) => (.ok (), { t with savepointAbandoned := false }, w)
  else (.ok (), t, w)

def query (sql : String) (args : List Value) (t : Transaction) (w : σ) :
    Except Error Rows × Transaction × σ :=
  match t.settle c w with
  | (.error e, t, w) => (.error e, t, w)
  | (.ok (), t, w) => let (r, w) := c.query sql args w; (r, t, w)

def exec (sql : String) (args : List Value) (t : Transaction) (w : σ) :
    Except Error Nat × Transaction × σ :=
  match t.settle c w with
  | (.error e, t, w) => (.error e, t, w)
  | (.ok (), t, w) => let (r, w) := c.exec sql args w; (r, t, w)

/-- Send the last statement. If it fails the connection has to clean up. -/
def finish (sql : String) (t : Transaction) (w : σ) : Except Error Unit × Transaction × σ :=
  let t := { t with finished := true }
  match send c sql sql w with
  | (.error e, w) => (.error e, t, c.abandon w)
  | (.ok (), w) => (.ok (), t, w)

def joinErrors (source : Error) : Except Error Unit → Error
  | .ok () => source
  | .error rollback => .rollbackFailed source rollback

/-- Commit; but if an abandoned savepoint cannot be settled, roll back. -/
def commit (t : Transaction) (w : σ) : Except Error Unit × Transaction × σ :=
  match t.settle c w with
  | (.error e, t, w) =>
    let (r, t, w) := t.finish c "ROLLBACK" w
    (.error (joinErrors e r), t, w)
  | (.ok (), t, w) => t.finish c "COMMIT" w

def rollback (t : Transaction) (w : σ) : Except Error Unit × Transaction × σ :=
  { t with savepointAbandoned := false }.finish c "ROLLBACK" w

def beginSavepoint (t : Transaction) (w : σ) : Except Error Unit × Transaction × σ :=
  if t.savepointActive then (.error (.savepointActive savepointName), t, w)
  else
    match t.settle c w with
    | (.error e, t, w) => (.error e, t, w)
    | (.ok (), t, w) =>
      match send c "savepoint" savepointSql w with
      | (.error e, w) => (.error e, t, w)
      | (.ok (), w) => (.ok (), { t with savepointActive := true }, w)

def drop (t : Transaction) (w : σ) : σ :=
  if t.finished then w else c.abandon (c.note (.abandoned .transaction) w)

/-- Statements on the transaction itself settle first. -/
def executor : Executor (Transaction × σ) where
  query sql args s := s.1.query c sql args s.2
  exec sql args s := s.1.exec c sql args s.2
  await time s := (s.1, c.await time s.2)

def describe (t : Transaction) : String :=
  "PgTransaction \x7b finished: " ++ toString t.finished ++ ", savepoint_active: " ++
    toString t.savepointActive ++ ", .. \x7d"

end Transaction

/-! The savepoint's own operations work on the state of the transaction around it. -/

namespace Savepoint

variable {σ : Type} (c : Connection σ)

/-- Send the last statement of the savepoint, which is over whatever comes back. -/
def finish (sql : String) (t : Transaction) (w : σ) : Except Error Unit × Transaction × σ :=
  let (r, w) := Transaction.send c "end savepoint" sql w
  (r, { t with savepointActive := false }, w)

def commit (t : Transaction) (w : σ) : Except Error Unit × Transaction × σ :=
  finish c Transaction.releaseSql t w

/-- Roll back to the savepoint. If that fails it is still open on the server, and abandoned. -/
def rollback (t : Transaction) (w : σ) : Except Error Unit × Transaction × σ :=
  match finish c Transaction.rollbackToSql t w with
  | (.error e, t, w) => (.error e, { t with savepointAbandoned := true }, w)
  | (.ok (), t, w) => (.ok (), t, w)

def drop (t : Transaction) (w : σ) : Transaction × σ :=
  ({ t with savepointActive := false, savepointAbandoned := true },
    c.note (.abandoned .savepoint) w)

/-- Statements through the savepoint go straight to the connection. -/
def executor : Executor (Transaction × σ) :=
  c.toExecutor.within Prod.snd fun w s => (s.1, w)

def describe : String :=
  "Savepoint \x7b name: \"" ++ Transaction.savepointName ++ "\", finished: false, .. \x7d"

end Savepoint

/-- Commit after a success and roll back after a failure. The failure is kept, joined with that of
the rollback if there is one. -/
def Transaction.conclude {τ α : Type} (commit rollback : τ → Except Error Unit × τ)
    (r : Except Error α) (s : τ) : Except Error α × τ :=
  match r with
  | .ok a =>
    match commit s with
    | (.error e, s) => (.error e, s)
    | (.ok (), s) => (.ok a, s)
  | .error e =>
    let (r, s) := rollback s
    (.error (joinErrors e r), s)

end BoundSql
