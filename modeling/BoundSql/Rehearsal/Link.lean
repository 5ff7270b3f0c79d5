import BoundSql.Pool
import BoundSql.Rehearsal.Server
/-!
Statements with arguments are prepared, their arguments checked and sent, and then they run; other
statements are simple. A limit counts from sending a statement: for an `exec` until it is complete,
for a query until its arguments are accepted.
-/

namespace BoundSql.Rehearsal.Server

/-- The bytes of the arguments for the declared types, in their unchecked form, or the index of the
first that does not fit. -/
def encode (index : Nat) : List Value → List WireType → Except Nat (List (List UInt8))
  | v :: vs, type :: types =>
    match v.unchecked? type with
    | none => .error index
    | some bytes =>
      match encode (index + 1) vs types with
      | .error i => .error i
      | .ok rest => .ok (bytes :: rest)
  | _, _ => .ok []

def patience (limit : Option Duration) (s : Server) : Option Patience :=
  limit.map fun d => ⟨d, s.clock + d.toMillis⟩

/-- Prepare a statement and send its arguments. The link is busy until the rows are sent. -/
def prepare (n : Nat) (patience : Option Patience) (sql : String) (args : List Value)
    (s : Server) : Except Error Reply × Server :=
  match s.request n .prepared sql patience with
  | (.unsendable, s) => (.error DriverFailure.unsendable.toError, s)
  | (.timedOut limit, s) => (.error (.timeout limit), s)
  | (.closed, s) => (.error DriverFailure.closed.toError, s)
  | (.answered reply, s) =>
    match reply.firstTrouble? .prepared with
    | some (.error report) => (.error report.toError, s)
    | _ =>
      let types := reply.params.getD (args.map Value.naturalType)
      if types.length ≠ args.length then
        (.error (DriverFailure.parameterCount types.length args.length).toError, s)
      else
        match encode 0 args types with
        | .error i => (.error (DriverFailure.parameterType i).toError, s)
        | .ok bytes =>
          let s := s.write n (.bind bytes)
          match reply.trouble with
          | some (.bind, .error report) => (.error report.toError, s)
          | some (.bind, .close) => (.error DriverFailure.closed.toError, s.close n)
          | trouble =>
            let freeAt := s.clock + reply.rowsDelay
            let closesAt := match trouble with
              | some (.rows, .close) => some freeAt
              | _ => none
            (.ok reply, s.onLink n fun l => { l with freeAt, closesAt })

def rowsAt (reply : Reply) (s : Server) : Nat := s.clock + reply.rowsDelay

def exec (n : Nat) (limit : Option Duration) (sql : String) (args : List Value) (s : Server) :
    Except Error Nat × Server :=
  let patience := s.patience limit
  match s.prepare n patience sql args with
  | (.error e, s) => (.error e, s)
  | (.ok reply, s) =>
    let time := s.rowsAt reply
    match patience with
    | none => complete reply (s.wait time)
    | some p =>
      if time < p.deadline then complete reply (s.wait time)
      else (.error (.timeout p.limit), s.waitInVain p.deadline)
where
  complete (reply : Reply) (s : Server) : Except Error Nat × Server :=
    match reply.trouble with
    | some (.rows, .error report) => (.error report.toError, s)
    | some (.rows, .close) => (.error DriverFailure.closed.toError, s)
    | _ => (.ok reply.affected, s)

def item (columns : List (String × WireType)) (cells : List Cell) : Except Error Row :=
  if cells.length = columns.length then .ok ⟨columns, cells⟩
  else .error DriverFailure.malformedRow.toError

def rows (reply : Reply) (arrival : Nat) : Rows :=
  let items := reply.rows.map (item reply.columns)
  match reply.trouble with
  | some (.rows, .error report) => ⟨items ++ [.error report.toError], none, arrival⟩
  | some (.rows, .close) => ⟨items, some DriverFailure.closed.toError, arrival⟩
  | _ => ⟨items, none, arrival⟩

def query (n : Nat) (limit : Option Duration) (sql : String) (args : List Value) (s : Server) :
    Except Error Rows × Server :=
  match s.prepare n (s.patience limit) sql args with
  | (.error e, s) => (.error e, s)
  | (.ok reply, s) => (.ok (rows reply (s.rowsAt reply)), s)

def batch (n : Nat) (limit : Option Duration) (sql : String) (s : Server) :
    Except Error Unit × Server :=
  match s.request n .simple sql (s.patience limit) with
  | (.unsendable, s) => (.error DriverFailure.unsendable.toError, s)
  | (.timedOut limit, s) => (.error (.timeout limit), s)
  | (.closed, s) => (.error DriverFailure.closed.toError, s)
  | (.answered reply, s) =>
    match reply.firstTrouble? .simple with
    | some (.error report) => (.error report.toError, s)
    | _ => (.ok (), s)

/-- A link whose statements are limited in time. It does nothing about unfinished transactions. -/
def connection (n : Nat) (limit : Option Duration) : Connection Server where
  query sql args s := (s.note (.statement sql args.length)).query n limit sql args
  exec sql args s := (s.note (.statement sql args.length)).exec n limit sql args
  await time s := s.wait time
  batch sql s := (s.note (.statement sql 0)).batch n limit sql
  abandon s := s
  note e s := s.note e

def dock (limit : Option Duration) (applicationName : Option String) : Dock Server where
  connect s :=
    match s.connect applicationName false with
    | (.error rejection, s) => (.error rejection.toError, s)
    | (.ok n, s) => (.ok n, s)
  isClosed n s := s.isClosed n
  rollback n s := s.batch n none "ROLLBACK"
  connection n := connection n limit
  await time s := s.wait time

end BoundSql.Rehearsal.Server
