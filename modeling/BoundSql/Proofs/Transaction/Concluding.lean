import BoundSql.Proofs.Error.Kinds
import BoundSql.Proofs.Transaction.Ending
import BoundSql.Proofs.Transaction.Keeping
import BoundSql.Proofs.Transaction.Nesting

namespace BoundSql

namespace Transaction

variable {τ α : Type} (commit rollback : τ → Except Error Unit × τ)

theorem conclude_ok (a : α) (s : τ) :
    conclude commit rollback (.ok a) s = ((commit s).1.map fun _ => a, (commit s).2) := by
  rw [conclude]
  rcases commit s with ⟨e | _, s'⟩ <;> rfl

end Transaction

/-- What is made of an error and of the answer to the rollback after it. -/
structure JoinedWith (e : Error) (answer : Except Error Unit) (r : Error) : Prop where
  keeps : ∀ k, e.is k = true → r.is k = true
  same : answer = .ok () → r = e
  both : ∀ e', answer = .error e' → ∀ k,
    r.is k = true ↔ k = .rollbackFailed ∨ e.is k = true ∨ e'.is k = true

theorem joinedWith_joinErrors (e : Error) (answer : Except Error Unit) :
    JoinedWith e answer (Transaction.joinErrors e answer) := by
  cases answer with
  | ok u => exact ⟨fun k hk => hk, fun _ => rfl, nofun⟩
  | error e' =>
    refine ⟨fun k hk => ?_, nofun, fun e'' h k => ?_⟩
    · exact Error.is_rollbackFailed.mpr (.inr (.inl hk))
    · obtain rfl := Except.error.inj h
      exact Error.is_rollbackFailed

namespace Seen

open Transaction

/-- The statements of a log. -/
def statements (log : List Seen) : List Seen := log.filter isSent

theorem statements_sent (log : List Seen) (step sql : String) (r : Except Error Unit) :
    statements (log ++ sent step sql r) = statements log ++ [.batch sql r] := by
  simp [statements, sent, isSent]

theorem statements_ended (log : List Seen) (sql : String) (r : Except Error Unit) :
    statements (log ++ ended sql r) = statements log ++ [.batch sql r] := by
  cases r with
  | ok _ => exact statements_sent log sql sql _
  | error e =>
    rw [ended, ← List.append_assoc, statements, List.filter_append]
    exact (List.append_nil _).trans (statements_sent log sql sql _)

end Seen

open Seen Transaction

/-- The handle of a scope, and the transaction that it stands for or is nested in. -/
def Scope.open? : Scope Unit → Option (Handle × Transaction)
  | .outside => none
  | .transaction _ t => some (.transaction, t)
  | .savepoint _ t => some (.savepoint, t)

namespace Handle

variable {σ : Type} (c : Connection σ)

def commit : Handle → Transaction × σ → Except Error Unit × Transaction × σ
  | transaction, s => s.1.commit c s.2
  | savepoint, s => Savepoint.commit c s.1 s.2

def rollback : Handle → Transaction × σ → Except Error Unit × Transaction × σ
  | transaction, s => s.1.rollback c s.2
  | savepoint, s => Savepoint.rollback c s.1 s.2

def conclude {α : Type} (x : Handle) (r : Except Error α) (s : Transaction × σ) :
    Except Error α × Transaction × σ :=
  Transaction.conclude (x.commit c) (x.rollback c) r s

/-- The statement that keeps the work done through a handle. -/
def keepSql : Handle → String
  | transaction => "COMMIT"
  | savepoint => releaseSql

/-- The statement that undoes it. -/
def undoSql : Handle → String
  | transaction => "ROLLBACK"
  | savepoint => rollbackToSql

variable {c}

theorem conclude_eq_ok_iff {α : Type} {x : Handle} {s : Transaction × σ} {a : α} :
    (x.conclude c (.ok a) s).1 = .ok a ↔ (x.commit c s).1 = .ok () := by
  rw [conclude, conclude_ok]
  rcases (x.commit c s).1 with e | _ <;> simp [Except.map]

theorem conclude_eq_error_iff {α : Type} {x : Handle} {s : Transaction × σ} {a : α} {e : Error} :
    (x.conclude c (.ok a) s).1 = .error e ↔ (x.commit c s).1 = .error e := by
  rw [conclude, conclude_ok]
  rcases (x.commit c s).1 with e' | _ <;> simp [Except.map]

theorem undoSql_ne (x : Handle) : x.undoSql ≠ "COMMIT" ∧ x.undoSql ≠ releaseSql := by
  cases x <;> decide

theorem statements_finish (sql : String) (t : Transaction) (v : σ × List Seen) :
    statements (t.finish c.traced sql v).2.2.2 =
      statements v.2 ++ [.batch sql (t.finish c.traced sql v).1] := by
  rw [finish_eq, ending_traced]
  exact statements_ended v.2 sql _

theorem statements_savepointFinish (sql : String) (t : Transaction) (v : σ × List Seen) :
    statements (Savepoint.finish c.traced sql t v).2.2.2 =
      statements v.2 ++ [.batch sql (Savepoint.finish c.traced sql t v).1] := by
  simp only [Savepoint.finish, send_traced]
  exact statements_sent v.2 "end savepoint" sql _

/-- A commit that is answered well has sent the statement that keeps the work, as the last one. -/
theorem statements_commit {x : Handle} {t : Transaction} {v : σ × List Seen}
    (h : (x.commit c.traced (t, v)).1 = .ok ()) :
    ∃ earlier, statements (x.commit c.traced (t, v)).2.2.2 =
      earlier ++ [.batch x.keepSql (.ok ())] := by
  cases x with
  | transaction =>
    simp only [commit, Transaction.commit] at h ⊢
    rcases hs : t.settle c.traced v with ⟨e | _, t', v'⟩
    · rw [hs] at h
      cases h
    · rw [hs] at h
      dsimp only at h ⊢
      rw [statements_finish, h]
      exact ⟨_, rfl⟩
  | savepoint =>
    simp only [commit, Savepoint.commit] at h ⊢
    rw [statements_savepointFinish, h]
    exact ⟨_, rfl⟩

/-- A rollback sends one statement, and not one that keeps the work. -/
theorem statements_rollback (x : Handle) (t : Transaction) (v : σ × List Seen) :
    statements (x.rollback c.traced (t, v)).2.2.2 =
      statements v.2 ++ [.batch x.undoSql (x.rollback c.traced (t, v)).1] := by
  cases x with
  | transaction => exact statements_finish "ROLLBACK" _ v
  | savepoint =>
    have hfinish := statements_savepointFinish (c := c) rollbackToSql t v
    simp only [rollback, Savepoint.rollback]
    rcases hs : Savepoint.finish c.traced rollbackToSql t v with ⟨e | _, t', v'⟩ <;>
      rw [hs] at hfinish <;> exact hfinish

/-- A transaction that was committed or rolled back has nothing left to do when it is dropped. -/
theorem finished_conclude {α : Type} (r : Except Error α) (t : Transaction) (w : σ) :
    (transaction.conclude c r (t, w)).2.1.finished = true := by
  refine conclude_induction (P := fun s : Transaction × σ => s.1.finished = true) _ _ r ?_ ?_
  · simp only [commit, Transaction.commit]
    rcases t.settle c w with ⟨e | _, t', w'⟩ <;> simp only [finish_eq]
  · simp only [rollback, Transaction.rollback, finish_eq]

/-- A step that ends a handle with a result does nothing else. -/
theorem act_conclude {s : State Unit σ} {x : Handle} {t : Transaction}
    (hx : s.scope.open? = some (x, t)) (r : Except Error Json) :
    (act c (.conclude r) s).1 = (x.conclude c r (t, s.world)).1.map .value ∧
      (act c (.conclude r) s).2.world = (x.conclude c r (t, s.world)).2.2 := by
  obtain ⟨scope, w⟩ := s
  cases scope with
  | outside => cases hx
  | transaction lease t' =>
    cases hx
    have hfinished := finished_conclude (c := c) r t w
    refine ⟨rfl, ?_⟩
    simp only [act, Scope.step, Scope.stepTransaction, Scope.leave, Host.single]
    exact if_pos hfinished
  | savepoint lease t' =>
    cases hx
    exact ⟨rfl, rfl⟩

/-- In whatever state a handle is ended with a value, the value is given back exactly if committing
succeeds, and otherwise the error of the commit; a success has sent the statement that keeps the
work, as the last one. Ended with an error, the handle sends one statement, which undoes the work.
The error is given back as it is if that succeeds, and joined with the error of the rollback if it
fails: it counts as all that it counted as before, and then only as a failed rollback and as what
the other counts as. -/
theorem concludes (c : Connection σ) (x : Handle) (t : Transaction) (v : σ × List Seen)
    {α : Type} :
    (∀ a : α,
      ((x.conclude c.traced (.ok a) (t, v)).1 = .ok a ↔ (x.commit c.traced (t, v)).1 = .ok ()) ∧
      (∀ e, (x.conclude c.traced (.ok a) (t, v)).1 = .error e ↔
        (x.commit c.traced (t, v)).1 = .error e) ∧
      ((x.conclude c.traced (.ok a) (t, v)).1 = .ok a →
        ∃ earlier, statements (x.conclude c.traced (.ok a) (t, v)).2.2.2 =
          earlier ++ [.batch x.keepSql (.ok ())])) ∧
    (∀ e : Error, ∃ r,
      (x.conclude c.traced (.error e : Except Error α) (t, v)).1 = .error r ∧
      JoinedWith e (x.rollback c.traced (t, v)).1 r ∧
      statements (x.conclude c.traced (.error e : Except Error α) (t, v)).2.2.2 =
        statements v.2 ++ [.batch x.undoSql (x.rollback c.traced (t, v)).1] ∧
      x.undoSql ≠ "COMMIT" ∧ x.undoSql ≠ releaseSql) ∧
    ∀ s : State Unit (σ × List Seen), s.scope.open? = some (x, t) → s.world = v →
      ∀ r, (act c.traced (.conclude r) s).1 = (x.conclude c.traced r (t, v)).1.map .value ∧
        (act c.traced (.conclude r) s).2.world = (x.conclude c.traced r (t, v)).2.2 := by
  refine ⟨fun a => ?_, fun e => ?_, ?_⟩
  · refine ⟨conclude_eq_ok_iff, fun e => conclude_eq_error_iff, fun h => ?_⟩
    obtain ⟨earlier, hcommit⟩ := statements_commit (conclude_eq_ok_iff.mp h)
    exact ⟨earlier, by rw [conclude, conclude_ok, hcommit]⟩
  · exact ⟨_, rfl, joinedWith_joinErrors e _, statements_rollback x t v, x.undoSql_ne⟩
  · rintro s hx rfl r
    exact act_conclude hx r

/-- An error that holds a violated constraint, given to a transaction with an abandoned savepoint
whose rollback is then lost. -/
theorem violation_kept_by_lost_rollback :
    let violated : Error := .rollbackFailed (.integrity ⟨.unique, "t", "c"⟩ none) .noChanges
    let lost : Error := .timeout (.ofMillis 50)
    let s : State Unit (Nat × List Seen) := ⟨.transaction () (idle true), 2, []⟩
    ∃ r, (act faltering.traced (.conclude (.error violated)) s).1 = .error r ∧
      statements (act faltering.traced (.conclude (.error violated)) s).2.world.2 =
        [.batch "ROLLBACK" (.error lost)] ∧
      r.is .uniqueViolation = true ∧ r.is .noChanges = true ∧ r.is .timeout = true ∧
      r.is .connection = false := by
  intro violated lost s
  obtain ⟨-, hfailure, hact⟩ := @concludes Nat faltering transaction (idle true) (2, []) Json
  obtain ⟨r, hr, hjoined, hsent, -⟩ := hfailure violated
  obtain ⟨hgiven, hworld⟩ := hact s rfl rfl (.error violated)
  have hlost : (transaction.rollback faltering.traced (idle true, 2, [])).1 = .error lost := rfl
  have hkinds := hjoined.both lost hlost
  refine ⟨r, ?_, ?_, ?_, ?_, ?_, ?_⟩
  · rw [hgiven, hr]
    rfl
  · rw [hworld, hsent, hlost]
    rfl
  · exact hjoined.keeps .uniqueViolation (by decide)
  · exact hjoined.keeps .noChanges (by decide)
  · exact (hkinds .timeout).mpr (.inr (.inr (by decide)))
  · rw [← Bool.not_eq_true, hkinds]
    decide

end Handle

end BoundSql
