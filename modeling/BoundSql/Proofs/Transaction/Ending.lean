import BoundSql.Proofs.Transaction.Settling

namespace BoundSql

namespace Seen

open Transaction

/-- Whether this is the last statement of a transaction. -/
def isLast : Seen → Bool
  | batch sql _ => sql == "COMMIT" || sql == "ROLLBACK"
  | _ => false

/-- Whether the connection is told that a transaction was left unfinished. -/
def isMark : Seen → Bool
  | abandoned => true
  | _ => false

def isSent : Seen → Bool
  | query _ _ | exec _ _ | batch _ _ => true
  | noted _ | abandoned => false

def lasts (log : List Seen) : Nat := log.countP isLast

def marks (log : List Seen) : Nat := log.countP isMark

/-- Nothing is sent after a last statement. -/
def LastIsLast (log : List Seen) : Prop :=
  ∀ earlier x later, log = earlier ++ x :: later → x.isSent = true → lasts earlier = 0

/-- What the log tells of a transaction whose handle has gone with an action. -/
inductive Gone (a : Action) (log : List Seen) : Prop
  | finished {sql : String} (ha : a.commits = true ∨ a.rollsBack = true)
      (hsql : sql = "COMMIT" ∨ sql = "ROLLBACK") (hsent : .batch sql (.ok ()) ∈ log)
      (hlasts : lasts log = 1) (hmarks : marks log = 0)
  | failed {sql : String} {e : Error} (ha : a.commits = true ∨ a.rollsBack = true)
      (hsql : sql = "COMMIT" ∨ sql = "ROLLBACK") (hsent : .batch sql (.error e) ∈ log)
      (hlasts : lasts log = 1) (hmarks : marks log = 1)
  | dropped (ha : a = .drop) (hlasts : lasts log = 0) (hmarks : marks log = 1)

/-- The transaction has neither sent its last statement nor been left to its connection. -/
def Unended (log : List Seen) : Prop := lasts log = 0 ∧ marks log = 0

theorem lasts_append (log more : List Seen) : lasts (log ++ more) = lasts log + lasts more :=
  List.countP_append

theorem marks_append (log more : List Seen) : marks (log ++ more) = marks log + marks more :=
  List.countP_append

theorem Unended.append {log more : List Seen} (h : Unended log) (hm : Unended more) :
    Unended (log ++ more) := by
  rw [Unended, lasts_append, marks_append, h.1, h.2]
  exact ⟨by rw [hm.1], by rw [hm.2]⟩

theorem Unended.lastIsLast {log : List Seen} (h : Unended log) : LastIsLast log := by
  rintro earlier x later rfl -
  have hlasts := h.1
  rw [lasts_append] at hlasts
  omega

theorem unended_sent {sql : String} (hsql : sql ≠ "COMMIT" ∧ sql ≠ "ROLLBACK") (step : String)
    (r : Except Error Unit) : Unended (sent step sql r) := by
  simp [Unended, lasts, marks, sent, isLast, isMark, hsql]

theorem unended_seen (q : Run) : Unended [q.seen] := by
  cases q <;> exact ⟨rfl, rfl⟩

theorem Gone.lasts_le {a : Action} {log : List Seen} (h : Gone a log) : lasts log ≤ 1 := by
  cases h with
  | finished _ _ _ hlasts _ | failed _ _ _ hlasts _ => exact Nat.le_of_eq hlasts
  | dropped _ hlasts _ => exact Nat.le_of_lt_succ (hlasts ▸ Nat.two_pos)

section Ended

variable {log : List Seen} {sql : String} {a : Action}

theorem Unended.lastIsLast_ended (h : Unended log) (sql : String) (r : Except Error Unit) :
    LastIsLast (log ++ ended sql r) := by
  have hnoted : LastIsLast (log ++ [.noted (.transaction sql sql)]) :=
    forall_split_concat h.lastIsLast fun hsent => absurd hsent Bool.false_ne_true
  have hsent : LastIsLast (log ++ [.noted (.transaction sql sql)] ++ [.batch sql r]) :=
    forall_split_concat hnoted fun _ => (h.append ⟨rfl, rfl⟩).1
  cases r with
  | ok _ => simpa [ended, sent] using hsent
  | error e =>
    have hmarked : LastIsLast
        (log ++ [.noted (.transaction sql sql)] ++ [.batch sql (.error e)] ++ [.abandoned]) :=
      forall_split_concat hsent fun hsent => absurd hsent Bool.false_ne_true
    simpa [ended, sent] using hmarked

theorem Unended.gone_ended (h : Unended log) (ha : a.commits = true ∨ a.rollsBack = true)
    (hsql : sql = "COMMIT" ∨ sql = "ROLLBACK") (r : Except Error Unit) :
    Gone a (log ++ ended sql r) := by
  have hlasts : lasts (log ++ ended sql r) = 1 := by
    rw [lasts_append, h.1]
    rcases hsql with rfl | rfl <;> cases r <;> rfl
  cases r with
  | ok _ =>
    refine .finished ha hsql ?_ hlasts ?_
    · simp [ended, sent]
    · rw [marks_append, h.2]
      rfl
  | error e =>
    refine .failed ha hsql (e := e) ?_ hlasts ?_
    · simp [ended, sent]
    · rw [marks_append, h.2]
      rfl

theorem Unended.gone_dropped (h : Unended log) :
    Gone .drop (log ++ [.noted (.abandoned .transaction)] ++ [.abandoned]) := by
  refine .dropped rfl ?_ ?_
  · rw [lasts_append, lasts_append, h.1]
    rfl
  · rw [marks_append, marks_append, h.2]
    rfl

theorem Unended.lastIsLast_dropped (h : Unended log) :
    LastIsLast (log ++ [.noted (.abandoned .transaction)] ++ [.abandoned]) :=
  forall_split_concat (forall_split_concat h.lastIsLast nofun) nofun

end Ended

end Seen

namespace Transaction

open Seen

variable {σ : Type} {c : Connection σ}

section Unended

variable {v v' : σ × List Seen} {step sql : String} {r : Except Error Unit}

theorem unended_send (h : Unended v.2) (hsql : sql ≠ "COMMIT" ∧ sql ≠ "ROLLBACK")
    (hs : send c.traced step sql v = (r, v')) : Unended v'.2 := by
  rw [send_traced] at hs
  obtain ⟨rfl, rfl⟩ := Prod.mk.inj hs
  exact h.append (unended_sent hsql step _)

theorem unended_settling {b : Bool} (h : Unended v.2) (hs : settling c.traced b v = (r, v')) :
    Unended v'.2 := by
  cases b with
  | false =>
    cases hs
    exact h
  | true => exact unended_send h (by decide) hs

theorem unended_run (h : Unended v.2) (q : Run) : Unended (c.traced.run q v).2.2 := by
  rw [run_traced]
  exact h.append (unended_seen q)

theorem gone_ending {a : Action} (h : Unended v.2)
    (ha : a.commits = true ∨ a.rollsBack = true) (hsql : sql = "COMMIT" ∨ sql = "ROLLBACK")
    (he : ending c.traced sql v = (r, v')) :
    LastIsLast v'.2 ∧ Gone a v'.2 := by
  rw [ending_traced] at he
  obtain ⟨rfl, rfl⟩ := Prod.mk.inj he
  exact ⟨h.lastIsLast_ended sql _, h.gone_ended ha hsql _⟩

end Unended

/-- The log of a transaction: nothing of its end while there is a handle, and the end when there is
none. -/
def Closed (past : List (Turn (σ × List Seen))) (s : State Unit (σ × List Seen)) : Prop :=
  (s.scope ≠ .outside → Unended s.world.2) ∧
    (s.scope = .outside → LastIsLast s.world.2 ∧
      ∃ τ earlier, past = τ :: earlier ∧ Gone τ.action s.world.2)

section Closed

variable {past : List (Turn (σ × List Seen))} {τ : Turn (σ × List Seen)} {v : σ × List Seen}

theorem closed_transaction {t : Transaction} :
    Closed past ⟨.transaction () t, v⟩ ↔ Unended v.2 := by
  simp [Closed]

theorem closed_savepoint {t : Transaction} :
    Closed past ⟨.savepoint () t, v⟩ ↔ Unended v.2 := by
  simp [Closed]

theorem closed_outside (h : LastIsLast v.2 ∧ Gone τ.action v.2) :
    Closed (τ :: past) ⟨.outside, v⟩ :=
  ⟨fun ho => absurd rfl ho, fun _ => ⟨h.1, τ, past, rfl, h.2⟩⟩

end Closed

theorem Moves.closed {past : List (Turn (σ × List Seen))} {s s' : State Unit (σ × List Seen)}
    {a : Action} {r : Except Error Answer} (hm : Moves c.traced s a r s') (h : Closed past s) :
    Closed (⟨s, a, r, s'⟩ :: past) s' := by
  have hsavepoint : savepointSql ≠ "COMMIT" ∧ savepointSql ≠ "ROLLBACK" := by decide
  have hrelease : releaseSql ≠ "COMMIT" ∧ releaseSql ≠ "ROLLBACK" := by decide
  have hrollbackTo : rollbackToSql ≠ "COMMIT" ∧ rollbackToSql ≠ "ROLLBACK" := by decide
  cases hm with
  | unsettled _ hs =>
    exact closed_transaction.mpr (unended_settling (closed_transaction.mp h) hs)
  | run hs =>
    have hsettled := unended_settling (closed_transaction.mp h) hs
    exact closed_transaction.mpr (unended_run hsettled _)
  | refused hs hb =>
    have hsettled := unended_settling (closed_transaction.mp h) hs
    exact closed_transaction.mpr (unended_send hsettled hsavepoint hb)
  | begun hs hb =>
    have hsettled := unended_settling (closed_transaction.mp h) hs
    exact closed_savepoint.mpr (unended_send hsettled hsavepoint hb)
  | undone ha hs he =>
    have hsettled := unended_settling (closed_transaction.mp h) hs
    exact closed_outside (gone_ending hsettled (.inl ha) (.inr rfl) he)
  | committed ha hs he =>
    have hsettled := unended_settling (closed_transaction.mp h) hs
    exact closed_outside (gone_ending hsettled (.inl ha) (.inl rfl) he)
  | rolledBack ha he =>
    exact closed_outside (gone_ending (closed_transaction.mp h) (.inr ha) (.inr rfl) he)
  | dropped =>
    have hunended := closed_transaction.mp h
    exact closed_outside ⟨hunended.lastIsLast_dropped, hunended.gone_dropped⟩
  | described => exact closed_transaction.mpr (closed_transaction.mp h)
  | nestedRun => exact closed_savepoint.mpr (unended_run (closed_savepoint.mp h) _)
  | nestedBegin | nestedDescribe => exact closed_savepoint.mpr (closed_savepoint.mp h)
  | nestedCommit _ hb =>
    exact closed_transaction.mpr (unended_send (closed_savepoint.mp h) hrelease hb)
  | nestedRollback _ hb =>
    exact closed_transaction.mpr (unended_send (closed_savepoint.mp h) hrollbackTo hb)
  | nestedDrop => exact closed_transaction.mpr ((closed_savepoint.mp h).append ⟨rfl, rfl⟩)

theorem Course.closed {w₀ : σ} {past : List (Turn (σ × List Seen))}
    {s : State Unit (σ × List Seen)} (h : Course c.traced (w₀, []) past s) : Closed past s := by
  refine h.invariant (P := Closed) ?_ fun _ hs hm => hm.closed hs
  intro o w hb
  exact closed_transaction.mpr (unended_send (v := (w₀, [])) ⟨rfl, rfl⟩ o.beginSql_ne_last hb)

/-- A start that fails leaves no handle, and nothing of an end. -/
theorem unended_of_start_failed {o : TransactionOptions} {v : σ × List Seen} {e : Error}
    {s : State Unit (σ × List Seen)}
    (h : act c.traced (.begin o) ⟨.outside, v⟩ = (.error e, s)) :
    s.scope = .outside ∧ ∃ more, s.world.2 = v.2 ++ more ∧ Unended more := by
  simp only [act, Scope.step, Scope.stepOutside, Host.single, Scope.beginOn, start,
    send_traced] at h
  rcases hb : send c "begin" o.beginSql v.1 with ⟨e' | _, w⟩
  · simp only [hb, Prod.mk.injEq] at h
    obtain ⟨-, rfl⟩ := h
    exact ⟨rfl, _, rfl, unended_sent o.beginSql_ne_last "begin" (.error e')⟩
  · simp [hb] at h

/-- The last statement of a transaction is sent at most once, and nothing after it. As long as there
is a handle the connection has not been told to clean up; once it has gone, either the last
statement has succeeded, or the connection was told once: because the last statement failed, or
because the handle was dropped. A transaction that could not be started has neither. -/
theorem Course.ends_once {w₀ : σ} {past : List (Turn (σ × List Seen))}
    {s : State Unit (σ × List Seen)} (h : Course c.traced (w₀, []) past s) :
    lasts s.world.2 ≤ 1 ∧ LastIsLast s.world.2 ∧
      (s.scope ≠ .outside → lasts s.world.2 = 0 ∧ marks s.world.2 = 0) ∧
      (s.scope = .outside → ∃ τ earlier, past = τ :: earlier ∧ Gone τ.action s.world.2) ∧
      ∀ o v e s', act c.traced (.begin o) ⟨.outside, v⟩ = (.error e, s') →
        s'.scope = .outside ∧
          ∃ more, s'.world.2 = v.2 ++ more ∧ lasts more = 0 ∧ marks more = 0 := by
  obtain ⟨hopen, hgone⟩ := h.closed
  by_cases ho : s.scope = .outside
  · obtain ⟨hlast, τ, earlier, rfl, hτ⟩ := hgone ho
    exact ⟨hτ.lasts_le, hlast, hopen, fun _ => ⟨τ, earlier, rfl, hτ⟩,
      fun o v e s' hact => unended_of_start_failed hact⟩
  · have hunended := hopen ho
    exact ⟨hunended.1 ▸ Nat.zero_le 1, hunended.lastIsLast, hopen, fun h => absurd h ho,
      fun o v e s' hact => unended_of_start_failed hact⟩

/-- The savepoint is dropped, and then both the settling and the last statement are lost. -/
theorem marked_once_after_lost_rollback :
    ∃ (w₀ : Backend) (past : List (Turn (Backend × List Seen)))
      (s : State Unit (Backend × List Seen)) (e : Error),
      Course Backend.connection.traced (w₀, []) past s ∧ s.scope = .outside ∧
        .batch settleSql (.error e) ∈ s.world.2 ∧ .batch "ROLLBACK" (.error e) ∈ s.world.2 ∧
        lasts s.world.2 = 1 ∧ marks s.world.2 = 1 ∧ Gone .commit s.world.2 := by
  let e : Error := .timeout (.ofMillis 50)
  let fates : Nat → Fate := fun n => if n < 2 then .served 1 .empty else .lost e
  let b₁ := (Backend.fresh fates).take (.batch TransactionOptions.default.beginSql)
  let b₂ := b₁.take (.batch savepointSql)
  let log₁ := sent "begin" TransactionOptions.default.beginSql (.ok ())
  let log₂ := log₁ ++ sent "savepoint" savepointSql (.ok ())
  let log₃ := log₂ ++ [.noted (.abandoned .savepoint)]
  let log₄ := log₃ ++ settlement (.error e) ++ ended "ROLLBACK" (.error e)
  have hstart : start Backend.connection.traced .default (Backend.fresh fates, []) =
      (.ok (idle false), b₁, log₁) := rfl
  have h₁ := Course.start hstart
  have h₂ := h₁.of_act nofun
    (rfl : act Backend.connection.traced (.begin .default) _ =
      (.ok .done, ⟨.savepoint () nested, b₂, log₂⟩))
  have h₃ := h₂.of_act nofun
    (rfl : act Backend.connection.traced .drop _ =
      (.ok .done, ⟨.transaction () (idle true), b₂, log₃⟩))
  have h₄ := h₃.of_act nofun
    (rfl : act Backend.connection.traced .commit _ =
      (.error (.rollbackFailed e e), ⟨.outside, b₂.skip.skip, log₄⟩))
  obtain ⟨-, -, -, hgone, -⟩ := h₄.ends_once
  obtain ⟨τ, earlier, hpast, hτ⟩ := hgone rfl
  obtain ⟨rfl, -⟩ := List.cons.inj hpast
  exact ⟨_, _, _, e, h₄, rfl, by simp [log₄, settlement, sent], by simp [log₄, ended, sent], rfl,
    rfl, hτ⟩

end Transaction

end BoundSql
