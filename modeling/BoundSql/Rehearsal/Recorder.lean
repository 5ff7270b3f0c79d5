import BoundSql.Connection
import BoundSql.Misuse
import BoundSql.Rehearsal.Script

namespace BoundSql.Rehearsal

inductive Effect where
  | fail (e : Except Misuse Error)
  | affect (n : Nat)

inductive Recorded where
  | exec (sql : String) (args : List Value)
  | query (sql : String) (args : List Value)
  | batch (sql : String)

structure Recorder where
  script : Script Effect
  journal : Journal Recorded
  abandoned : Bool
  /-- The first wrong error of the script that a statement came to. -/
  misuse : Option Misuse

namespace Recorder

def ofScript (script : Script Effect) : Recorder := ⟨script, ⟨[], []⟩, false, none⟩

def record (sql : String) (entry : Recorded) (r : Recorder) : Except Error Nat × Recorder :=
  let (effect, script) := r.script.choose sql
  let r := { r with script, journal := { r.journal with log := r.journal.log ++ [entry] } }
  match effect with
  | some (.fail (.ok e)) => (.error e, r)
  | some (.fail (.error m)) => (.ok 0, { r with misuse := some (r.misuse.getD m) })
  | some (.affect n) => (.ok n, r)
  | none => (.ok 1, r)

def connection : Connection Recorder where
  query sql args r := let (n, r) := r.record sql (.query sql args); (n.map fun _ => .empty, r)
  exec sql args r := r.record sql (.exec sql args)
  await _ r := r
  batch sql r := let (n, r) := r.record sql (.batch sql); (n.map fun _ => (), r)
  abandon r := { r with abandoned := true }
  note e r := { r with journal := { r.journal with events := r.journal.events ++ [e] } }

/-- Nothing is left of what led to a wrong error. -/
def checked {α : Type} (r : Recorder) (a : α) : Except Misuse α :=
  match r.misuse with
  | some m => .error m
  | none => .ok a

def drain (r : Recorder) : Journal Recorded × Recorder :=
  (r.journal, { r with journal := ⟨[], []⟩ })

end Recorder

end BoundSql.Rehearsal
