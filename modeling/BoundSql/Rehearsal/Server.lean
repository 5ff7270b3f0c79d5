import BoundSql.Connection
import BoundSql.Error.Report
import BoundSql.Rehearsal.Script
/-!
A scripted server on a clock that moves only while a client waits. Each link to it is served one
message at a time; a message that the client has given up on still has its turn, and keeps the link
busy until its answer would have come.
-/

namespace BoundSql.Rehearsal

/-- When a statement is interrupted: before it is prepared, when its arguments come, or behind its
rows. -/
inductive Stage where
  | prepare
  | bind
  | rows
  deriving DecidableEq

inductive Trouble where
  | error (r : Report)
  | close

structure Reply where
  /-- Declared types of the parameters; those of the arguments if absent. -/
  params : Option (List WireType)
  columns : List (String × WireType)
  rows : List (List Cell)
  affected : Nat
  trouble : Option (Stage × Trouble)
  /-- Time until a preparation or a simple statement is answered. -/
  delay : Nat
  rowsDelay : Nat

def Reply.default : Reply := ⟨none, [], [], 0, none, 0, 0⟩

inductive Form where
  | simple
  | prepared
  deriving DecidableEq

/-- The trouble that comes with the first answer. A simple statement has only one answer. -/
def Reply.firstTrouble? (r : Reply) : Form → Option Trouble
  | .simple => r.trouble.map Prod.snd
  | .prepared =>
    match r.trouble with
    | some (.prepare, t) => some t
    | _ => none

structure Message where
  sentAt : Nat
  sql : String
  form : Form

structure Link where
  queue : List Message
  /-- When the message under way has its answer. -/
  freeAt : Nat
  closesAt : Option Nat
  closed : Bool
  watched : Bool

inductive LogEntry where
  | connect (applicationName : Option String)
  | simple (sql : String)
  | prepare (sql : String)
  | bind (params : List (List UInt8))

structure Server where
  script : Script Reply
  /-- Reports with which connections are refused, by the order of the attempts. -/
  refusals : List (Option Report)
  clock : Nat
  links : List Link
  journal : Journal (Nat × LogEntry)

inductive Happening where
  | turn (m : Message)
  | close

def Link.next? (l : Link) : Option (Nat × Happening) :=
  if l.closed then none
  else
    match l.closesAt, l.queue with
    | some time, _ => some (time, .close)
    | none, m :: _ => some (max l.freeAt m.sentAt, .turn m)
    | none, [] => none

namespace Server

def ofScript (script : Script Reply) (refusals : List (Option Report)) : Server :=
  ⟨script, refusals, 0, [], ⟨[], []⟩⟩

def write (n : Nat) (entry : LogEntry) (s : Server) : Server :=
  { s with journal := { s.journal with log := s.journal.log ++ [(n, entry)] } }

def note (e : Event) (s : Server) : Server :=
  { s with journal := { s.journal with events := s.journal.events ++ [e] } }

def onLink (n : Nat) (f : Link → Link) (s : Server) : Server :=
  { s with links := s.links.modify n f }

def isClosed (n : Nat) (s : Server) : Bool :=
  match s.links[n]? with
  | some l => l.closed
  | none => true

/-- The earliest thing to happen among links numbered from `n` on, with the number of its link. -/
def nextFrom? (n : Nat) : List Link → Option (Nat × Nat × Happening)
  | [] => none
  | l :: links =>
    match l.next?, nextFrom? (n + 1) links with
    | none, later => later
    | some (time, what), none => some (time, n, what)
    | some (time, what), some later =>
      if later.1 < time then some later else some (time, n, what)

def close (n : Nat) (s : Server) : Server :=
  let watched := s.links[n]?.any Link.watched
  let s := s.onLink n fun l => { l with closed := true, queue := [], closesAt := none }
  if watched then s.note .connectionLost else s

/-- The first message of a link has its turn. The reply settles when the link is free again, and
whether it closes then. -/
def serve (n time : Nat) (m : Message) (s : Server) : Reply × Server :=
  let (effect, script) := s.script.choose m.sql
  let reply := effect.getD .default
  let answered := time + reply.delay
  let closesAt := match reply.firstTrouble? m.form with
    | some .close => some answered
    | _ => none
  let entry := match m.form with
    | .simple => LogEntry.simple m.sql
    | .prepared => LogEntry.prepare m.sql
  let s := { s with script }.write n entry
  (reply, s.onLink n fun l => { l with queue := l.queue.drop 1, freeAt := answered, closesAt })

/-- A bound for the number of things that can still happen. -/
def bound (s : Server) : Nat := s.links.foldr (fun l n => 2 * l.queue.length + 2 + n) 0

def advance (due : Nat → Bool) : Nat → Server → Server
  | 0, s => s
  | fuel + 1, s =>
    match nextFrom? 0 s.links with
    | none => s
    | some (time, n, what) =>
      if !due time then s
      else
        match what with
        | .close => advance due fuel (s.close n)
        | .turn m => advance due fuel (s.serve n time m).2

/-- Move the clock forward to a time; what happens at that very moment is included. -/
def wait (time : Nat) (s : Server) : Server :=
  { s.advance (· ≤ time) s.bound with clock := max s.clock time }

/-- Move the clock to the time at which a client gives up; what would happen only then comes
later. -/
def waitInVain (deadline : Nat) (s : Server) : Server :=
  { s.advance (· < deadline) s.bound with clock := max s.clock deadline }

inductive Turn where
  | answered (reply : Reply) (time : Nat)
  | closed
  | tooLate

/-- How long a client waits for an answer: its limit, and the time at which that is over. -/
structure Patience where
  limit : Duration
  deadline : Nat

def inTime (patience : Option Patience) (time : Nat) : Bool :=
  match patience with
  | some p => time < p.deadline
  | none => true

def awaitTurn (n : Nat) (patience : Option Patience) : Nat → Server → Turn × Server
  | 0, s => (.tooLate, s)
  | fuel + 1, s =>
    match nextFrom? 0 s.links with
    | none => (.tooLate, s)
    | some (time, k, what) =>
      if !inTime patience time then (.tooLate, s)
      else
        match what with
        | .close =>
          let s := s.close k
          if k = n then (.closed, { s with clock := max s.clock time })
          else awaitTurn n patience fuel s
        | .turn m =>
          let (reply, s) := s.serve k time m
          if k = n ∧ (s.links[n]?.any fun l => l.queue.isEmpty) then
            (.answered reply (time + reply.delay), s)
          else awaitTurn n patience fuel s

/-- A text travels with a zero behind it, so that none may be inside. -/
def sendable (text : String) : Bool := !text.toList.contains '\x00'

inductive Outcome where
  | answered (reply : Reply)
  | closed
  | timedOut (limit : Duration)
  | unsendable

/-- The client gives up. Without a limit it does so only where nothing can come any more. -/
def giveUp (patience : Option Patience) (s : Server) : Outcome × Server :=
  match patience with
  | some p => (.timedOut p.limit, s.waitInVain p.deadline)
  | none => (.closed, s)

def request (n : Nat) (form : Form) (sql : String) (patience : Option Patience) (s : Server) :
    Outcome × Server :=
  if !sendable sql then (.unsendable, s)
  else if s.isClosed n then (.closed, s)
  else
    let s := s.onLink n fun l => { l with queue := l.queue ++ [⟨s.clock, sql, form⟩] }
    match s.awaitTurn n patience s.bound with
    | (.tooLate, s) => s.giveUp patience
    | (.closed, s) => (.closed, s)
    | (.answered reply time, s) =>
      if !inTime patience time then s.giveUp patience
      else
        let s := s.wait time
        if s.isClosed n then (.closed, s) else (.answered reply, s)

/-- Connect. A refused attempt leaves a link that is closed from the start. -/
def connect (applicationName : Option String) (watched : Bool) (s : Server) :
    Except Rejection Nat × Server :=
  if applicationName.all sendable then
    let n := s.links.length
    let s := s.write n (.connect applicationName)
    match s.refusals[n]? with
    | some (some report) =>
      (.error (.refused report), { s with links := s.links ++ [⟨[], 0, none, true, false⟩] })
    | _ => (.ok n, { s with links := s.links ++ [⟨[], 0, none, false, watched⟩] })
  else (.error .unsendable, s)

def drain (s : Server) : Journal (Nat × LogEntry) × Server :=
  (s.journal, { s with journal := ⟨[], []⟩ })

end Server

end BoundSql.Rehearsal
