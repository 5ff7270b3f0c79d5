import BoundSql.Config.Basic
import BoundSql.Misuse
import BoundSql.Rehearsal.Link
import BoundSql.Rehearsal.Recorder

namespace BoundSql.Rehearsal

structure Entry (κ : Type) where
  answer : Except Error Answer
  seen : κ

section Steps

variable {α κ ι σ τ : Type}

def runSteps (step : α → τ → Except Misuse (Except Error Answer × τ)) (look : τ → κ × τ) :
    List (Except Misuse α) → τ → Except Misuse (List (Entry κ) × τ)
  | [], s => .ok ([], s)
  | .error m :: _, _ => .error m
  | .ok a :: as, s =>
    match step a s with
    | .error m => .error m
    | .ok (answer, s) =>
      let (seen, s) := look s
      (runSteps step look as s).map fun (entries, s) => (⟨answer, seen⟩ :: entries, s)

def lookAtWorld (look : σ → κ × σ) (s : State ι σ) : κ × State ι σ :=
  let (seen, w) := look s.world
  (seen, { s with world := w })

/-- Drop what is open, scope by scope. There are at most two. -/
def dropOpen (h : Host ι σ) (look : σ → κ × σ) : Nat → State ι σ → List (Entry κ)
  | 0, _ => []
  | depth + 1, s =>
    match s.scope with
    | .outside => []
    | _ =>
      let (_, s) := Scope.step h .drop s
      let (seen, s) := lookAtWorld look s
      ⟨.ok (.text "left open"), seen⟩ :: dropOpen h look depth s

def session (h : Host ι σ)
    (step : α → State ι σ → Except Misuse (Except Error Answer × State ι σ)) (look : σ → κ × σ)
    (steps : List (Except Misuse α)) (w : σ) : Except Misuse (List (Entry κ)) :=
  (runSteps step (lookAtWorld look) steps ⟨.outside, w⟩).map fun (entries, s) =>
    entries ++ dropOpen h look 2 s

def onWorld (f : σ → Except Error Unit × σ) (s : State ι σ) : Except Error Answer × State ι σ :=
  let (r, w) := f s.world
  (Answer.ofUnit r, { s with world := w })

end Steps

abbrev Conclusion := Except Misuse (Except Error Json)

/-- Conclude what is open. Outside any transaction the conclusion is never looked at. -/
def conclude {ι σ : Type} (h : Host ι σ) (r : Conclusion) (s : State ι σ) :
    Except Misuse (Except Error Answer × State ι σ) :=
  match s.scope with
  | .outside => .ok (Scope.step h (.conclude (.ok .null)) s)
  | _ => r.map fun r => Scope.step h (.conclude r) s

inductive ConnectionStep where
  | action (a : Action)
  | conclude (r : Conclusion)
  | batch (sql : String)
  | abandon

def ConnectionStep.step {σ : Type} (c : Connection σ) (describe : σ → String) :
    ConnectionStep → State Unit σ → Except Misuse (Except Error Answer × State Unit σ)
  | action a, s => .ok (Scope.step (Host.single c describe) a s)
  | conclude r, s => Rehearsal.conclude (Host.single c describe) r s
  | batch sql, s => .ok (onWorld (c.batch sql) s)
  | abandon, s => .ok (onWorld (fun w => (.ok (), c.abandon w)) s)

def connectionSession {σ κ : Type} (c : Connection σ) (describe : σ → String) (look : σ → κ × σ)
    (steps : List (Except Misuse ConnectionStep)) (w : σ) : Except Misuse (List (Entry κ)) :=
  session (Host.single c describe) (ConnectionStep.step c describe) look steps w

def describeRecorder (_ : Recorder) : String := "nothing open"

def recordedStep (a : ConnectionStep) (s : State Unit Recorder) :
    Except Misuse (Except Error Answer × State Unit Recorder) :=
  match a.step Recorder.connection describeRecorder s with
  | .error m => .error m
  | .ok r => r.2.world.checked r

def recordedSession (script : Script Effect) (steps : List (Except Misuse ConnectionStep)) :
    Except Misuse (List (Entry (Journal Recorded × Bool))) :=
  session (Host.single Recorder.connection describeRecorder) recordedStep
    (fun r => let (j, r) := r.drain; ((j, r.abandoned), r)) steps (Recorder.ofScript script)

abbrev ServerJournal := Journal (Nat × LogEntry)

/-- How a client comes to its link: it is used bare, put behind a limit, or opened as configured. -/
inductive Entrance where
  | bare
  | limited (limit : Duration)
  | configured (c : Config)

def linkSession (n : Nat) (steps : List (Except Misuse ConnectionStep)) (s : Server) :
    Except Misuse (List (Entry ServerJournal)) :=
  connectionSession (Server.connection n none) (fun _ => "Client") Server.drain steps s

def lookThrough (g : Client Server) : ServerJournal × Client Server :=
  let (j, s) := g.inner.drain
  (j, { g with inner := s })

def guardedSession (n : Nat) (limit : Option Duration)
    (steps : List (Except Misuse ConnectionStep)) (s : Server) :
    Except Misuse (List (Entry ServerJournal)) :=
  connectionSession (Client.connection (Server.connection n limit)) (Client.describe limit)
    lookThrough steps (Client.ofInner s)

/-- Open a link that is there before the steps begin. Of that only the error of a refusal is
seen. -/
def onOpenLink (s : Server)
    (run : Nat → Server → Except Misuse (List (Entry ServerJournal))) :
    Except Misuse (List (Entry ServerJournal)) :=
  match s.connect none false with
  | (.error rejection, _) => .ok [⟨.error rejection.toError, ⟨[], []⟩⟩]
  | (.ok n, s) => run n s.drain.2

/-- Steps on a client. Where it connects by itself, connecting is the first step. -/
def clientSession (entrance : Entrance) (steps : List (Except Misuse ConnectionStep))
    (s : Server) : Except Misuse (List (Entry ServerJournal)) :=
  match entrance with
  | .bare => onOpenLink s fun n s => linkSession n steps s
  | .limited limit => onOpenLink s fun n s => guardedSession n (some limit) steps s
  | .configured c =>
    match c.target with
    | .error e => .ok [⟨.error e, ⟨[], []⟩⟩]
    | .ok target =>
      match s.connect target.applicationName true with
      | (.error rejection, s) => .ok [⟨.error (.connection rejection.summary), s.journal⟩]
      | (.ok n, s) =>
        let (j, s) := s.drain
        (guardedSession n c.timeout steps s).map fun entries => ⟨.ok .done, j⟩ :: entries

inductive HeldStep where
  | run (r : Run)
  | batch (sql : String)
  | describe

inductive PoolStep where
  | action (a : Action)
  | conclude (r : Conclusion)
  | acquire
  | onHeld (i : Nat) (a : Except Misuse HeldStep)
  | beginOn (i : Nat) (o : TransactionOptions)
  | release (i : Nat)
  | close

def notHeld {σ : Type} (s : State Lease σ) : Except Error Answer × State Lease σ :=
  (.ok (.text "not held"), s)

def HeldStep.step {σ : Type} (limit : Option Duration) (c : Connection σ) :
    HeldStep → State Lease σ → Except Error Answer × State Lease σ
  | run r, s => let (r, w) := c.toExecutor.run r s.world; (r, { s with world := w })
  | batch sql, s => onWorld (c.batch sql) s
  | describe, s => (.ok (.text (Pool.describeLink limit)), s)

/-- A step for a link that is not held may be wrong: it is never looked at. -/
def PoolStep.step {σ : Type} (d : Dock σ) (limit : Option Duration) :
    PoolStep → State Lease (Pool σ) → Except Misuse (Except Error Answer × State Lease (Pool σ))
  | action a, s => .ok (Scope.step (Pool.host d limit) a s)
  | conclude r, s => Rehearsal.conclude (Pool.host d limit) r s
  | acquire, s =>
    let (r, p) := s.world.acquire d
    .ok (r.map .index, { s with world := p })
  | onHeld i a, s =>
    match s.world.held? i with
    | none => .ok (notHeld s)
    | some n => a.map fun a => a.step limit (Pool.connection d n) s
  | beginOn i o, s =>
    match s.world.held? i with
    | none => .ok (notHeld s)
    | some n => .ok (Scope.beginOn (Pool.host d limit) (.held n) o s.world)
  | release i, s => .ok (onWorld (fun p => (.ok (), p.release i)) s)
  | close, s => .ok (onWorld (fun p => (.ok (), p.close)) s)

/-- Steps on a pool. If it cannot be made, that is the only answer. -/
def poolSession (c : Config) (steps : List (Except Misuse PoolStep)) (s : Server) :
    Except Misuse (List (Entry ServerJournal)) :=
  match c.target with
  | .error e => .ok [⟨.error e, ⟨[], []⟩⟩]
  | .ok target =>
    let d := Server.dock c.timeout target.applicationName
    let look (p : Pool Server) : ServerJournal × Pool Server :=
      let (j, s) := p.world.drain
      (j, { p with world := s })
    session (Pool.host d c.timeout) (PoolStep.step d c.timeout) look steps
      (Pool.ofWorld s c.maxConnections.toNat)

end BoundSql.Rehearsal
