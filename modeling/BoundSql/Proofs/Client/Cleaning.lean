import BoundSql.Proofs.Client.Basic
import BoundSql.Proofs.Transaction.Settling
/-!
The connection of a client is watched through the log of what it is asked to do, from which it can
be told whether a `ROLLBACK` is owed for a transaction that was left unfinished.
-/

namespace BoundSql

namespace Seen

/-- What a log tells: the step of a transaction that was announced last, if nothing came after it,
and whether a `ROLLBACK` is owed. -/
structure Watch where
  step : Option String
  owing : Bool

/-- A `ROLLBACK` is owed once a transaction is dropped or its last statement fails, until one has
succeeded. -/
def Watch.after (w : Watch) : Seen → Watch
  | noted (.transaction step _) => ⟨some step, w.owing⟩
  | noted (.abandoned .transaction) => ⟨none, true⟩
  | batch _ (.error _) =>
    ⟨none, w.owing || w.step == some "COMMIT" || w.step == some "ROLLBACK"⟩
  | batch sql (.ok ()) => ⟨none, w.owing && sql != "ROLLBACK"⟩
  | _ => ⟨none, w.owing⟩

def watch (log : List Seen) : Watch := log.foldl Watch.after ⟨none, false⟩

def owing (log : List Seen) : Bool := (watch log).owing

/-- What may come next. While a `ROLLBACK` is owed nothing else is sent. Otherwise none is sent, but
by a transaction that ends and by callers that send it themselves. -/
def Due (sends : String → Prop) (w : Watch) : Seen → Prop
  | query _ _ | exec _ _ => w.owing = false
  | batch sql _ => (w.owing = true → sql = "ROLLBACK") ∧
    (sql = "ROLLBACK" → w.owing = true ∨ w.step = some "ROLLBACK" ∨ sends sql)
  | noted _ | abandoned => True

def Orderly (sends : String → Prop) (log : List Seen) : Prop :=
  ∀ earlier x later, log = earlier ++ x :: later → Due sends (watch earlier) x

/-- A log that was orderly, and what it tells. -/
structure Tracks (sends : String → Prop) (w : Watch) (log : List Seen) : Prop where
  orderly : Orderly sends log
  watch_eq : watch log = w

variable {sends : String → Prop} {w : Watch} {log : List Seen}

theorem Tracks.concat (h : Tracks sends w log) (x : Seen) (hx : Due sends w x) :
    Tracks sends (w.after x) (log ++ [x]) := by
  obtain ⟨ho, rfl⟩ := h
  refine ⟨?_, by simp [watch]⟩
  exact forall_split_concat (P := fun earlier y => Due sends (watch earlier) y) ho hx

open Transaction

theorem Tracks.noted (h : Tracks sends w log) (e : Event) :
    Tracks sends (w.after (.noted e)) (log ++ [.noted e]) := h.concat (.noted e) trivial

theorem Tracks.run {step : Option String} (h : Tracks sends ⟨step, false⟩ log) (q : Run) :
    Tracks sends ⟨none, false⟩ (log ++ [q.seen]) := by
  have hdue : Due sends ⟨step, false⟩ q.seen := by cases q <;> rfl
  have hrun := h.concat q.seen hdue
  cases q <;> exact hrun

theorem Tracks.sent (h : Tracks sends w log) (step sql : String) (r : Except Error Unit)
    (hd : Due sends ⟨some step, w.owing⟩ (.batch sql r)) :
    Tracks sends (Watch.after ⟨some step, w.owing⟩ (.batch sql r)) (log ++ sent step sql r) := by
  have hnoted : Tracks sends ⟨some step, w.owing⟩ (log ++ [.noted (.transaction step sql)]) :=
    h.noted (.transaction step sql)
  have hsent := hnoted.concat (.batch sql r) hd
  rwa [List.append_assoc] at hsent

end Seen

namespace Client

open Seen Transaction

section Tracks

variable {σ : Type} {c : Connection σ} {sends : String → Prop} {v v' : σ × List Seen}
  {step sql : String} {r : Except Error Unit}

end Tracks

namespace Order

variable {σ : Type} {c : Connection σ}

/-- The order's own statement, as it is seen when it is sent. -/
def seen (c : Connection σ) (w : σ) : Order → Seen
  | run r => r.seen
  | batch sql => .batch sql (c.batch sql w).1
  | begin o => .batch o.beginSql (c.batch o.beginSql w).1

theorem send_traced (x : Order) (v : σ × List Seen) :
    x.send c.traced v = ((x.send c v.1).1, (x.send c v.1).2, v.2 ++ [x.seen c v.1]) := by
  cases x with
  | run r => exact run_traced c r v
  | batch sql | begin o => rfl

variable {sends : String → Prop} {log : List Seen} {b : Bool}

variable {g : Client (σ × List Seen)}

end Order

variable {σ : Type} {c : Connection σ} {sends : String → Prop}

end Client

end BoundSql
