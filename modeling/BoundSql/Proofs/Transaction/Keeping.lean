import BoundSql.Transaction.Scope

namespace BoundSql

variable {σ : Type}

/-- A run of a statement sends it once, and waits for its rows at most once. -/
theorem Executor.run_world (x : Executor σ) (r : Run) (w : σ) :
    ∃ sql args w₁, (w₁ = (x.query sql args w).2 ∨ w₁ = (x.exec sql args w).2) ∧
      ((x.run r w).2 = w₁ ∨ ∃ time, (x.run r w).2 = x.await time w₁) := by
  cases r with
  | exec sql args =>
    refine ⟨sql, args, _, .inr rfl, .inl ?_⟩
    simp only [run]
    rcases x.exec sql args w with ⟨e | n, w'⟩ <;> rfl
  | query sql args | queryStream sql args | queryRow sql args =>
    refine ⟨sql, args, _, .inl rfl, ?_⟩
    simp only [run, reading]
    rcases x.query sql args w with ⟨e | rows, w'⟩
    · exact .inl rfl
    · exact .inr ⟨_, rfl⟩

structure Executor.Keeps (x : Executor σ) (R : σ → σ → Prop) : Prop where
  trans {w₁ w₂ w₃ : σ} (h : R w₁ w₂) (h' : R w₂ w₃) : R w₁ w₃
  query (sql : String) (args : List Value) (w : σ) : R w (x.query sql args w).2
  exec (sql : String) (args : List Value) (w : σ) : R w (x.exec sql args w).2
  await (time : Nat) (w : σ) : R w (x.await time w)

structure Connection.Keeps (c : Connection σ) (R : σ → σ → Prop) : Prop extends
    Executor.Keeps c.toExecutor R where
  refl (w : σ) : R w w
  batch (sql : String) (w : σ) : R w (c.batch sql w).2
  abandon (w : σ) : R w (c.abandon w)
  note (e : Event) (w : σ) : R w (c.note e w)

theorem Executor.Keeps.run {x : Executor σ} {R : σ → σ → Prop} (h : x.Keeps R) (r : Run) (w : σ) :
    R w (x.run r w).2 := by
  obtain ⟨sql, args, w₁, hsent, hrun⟩ := x.run_world r w
  have hw₁ : R w w₁ := by
    rcases hsent with rfl | rfl
    · exact h.query sql args w
    · exact h.exec sql args w
  rcases hrun with hrun | ⟨time, hrun⟩ <;> rw [hrun]
  · exact hw₁
  · exact h.trans hw₁ (h.await time w₁)

namespace Connection.Keeps

variable {c : Connection σ} {R : σ → σ → Prop} (h : c.Keeps R)

include h

theorem send (step sql : String) (w : σ) : R w (Transaction.send c step sql w).2 :=
  h.trans (h.note _ w) (h.batch sql _)

theorem start (o : TransactionOptions) (w : σ) : R w (Transaction.start c o w).2 := by
  have hsent := h.send "begin" o.beginSql w
  simp only [Transaction.start]
  rcases hs : Transaction.send c "begin" o.beginSql w with ⟨e | _, w'⟩ <;> rw [hs] at hsent <;>
    exact hsent

theorem settle (t : Transaction) (w : σ) : R w (t.settle c w).2.2 := by
  simp only [Transaction.settle]
  split
  next =>
    have hsent := h.send "settle savepoint" Transaction.settleSql w
    rcases hs : Transaction.send c "settle savepoint" Transaction.settleSql w with ⟨e | _, w'⟩ <;>
      rw [hs] at hsent <;> exact hsent
  next => exact h.refl w

theorem finish (sql : String) (t : Transaction) (w : σ) : R w (t.finish c sql w).2.2 := by
  have hsent := h.send sql sql w
  simp only [Transaction.finish]
  rcases hs : Transaction.send c sql sql w with ⟨e | _, w'⟩ <;> rw [hs] at hsent
  · exact h.trans hsent (h.abandon w')
  · exact hsent

theorem commit (t : Transaction) (w : σ) : R w (t.commit c w).2.2 := by
  have hsettled := h.settle t w
  simp only [Transaction.commit]
  rcases hs : t.settle c w with ⟨e | _, t', w'⟩ <;> rw [hs] at hsettled
  · exact h.trans hsettled (h.finish "ROLLBACK" t' w')
  · exact h.trans hsettled (h.finish "COMMIT" t' w')

theorem rollback (t : Transaction) (w : σ) : R w (t.rollback c w).2.2 := h.finish _ _ w

theorem beginSavepoint (t : Transaction) (w : σ) : R w (t.beginSavepoint c w).2.2 := by
  simp only [Transaction.beginSavepoint]
  split
  next => exact h.refl w
  next =>
    have hsettled := h.settle t w
    rcases hs : t.settle c w with ⟨e | _, t', w'⟩ <;> rw [hs] at hsettled
    · exact hsettled
    · have hsent := h.send "savepoint" Transaction.savepointSql w'
      dsimp only
      rcases hs' : Transaction.send c "savepoint" Transaction.savepointSql w' with ⟨e | _, w''⟩ <;>
        rw [hs'] at hsent <;> exact h.trans hsettled hsent

theorem drop (t : Transaction) (w : σ) : R w (t.drop c w) := by
  simp only [Transaction.drop]
  split
  next => exact h.refl w
  next => exact h.trans (h.note _ w) (h.abandon _)

theorem executor : (Transaction.executor c).Keeps fun s s' => R s.2 s'.2 where
  trans := h.trans
  query sql args s := by
    have hsettled := h.settle s.1 s.2
    simp only [Transaction.executor, Transaction.query]
    rcases hs : s.1.settle c s.2 with ⟨e | _, t, w⟩ <;> rw [hs] at hsettled
    · exact hsettled
    · exact h.trans hsettled (h.query sql args w)
  exec sql args s := by
    have hsettled := h.settle s.1 s.2
    simp only [Transaction.executor, Transaction.exec]
    rcases hs : s.1.settle c s.2 with ⟨e | _, t, w⟩ <;> rw [hs] at hsettled
    · exact hsettled
    · exact h.trans hsettled (h.exec sql args w)
  await time s := h.await time s.2

theorem savepointExecutor : (Savepoint.executor c).Keeps fun s s' => R s.2 s'.2 where
  trans := h.trans
  query sql args s := h.query sql args s.2
  exec sql args s := h.exec sql args s.2
  await time s := h.await time s.2

theorem savepointCommit (t : Transaction) (w : σ) : R w (Savepoint.commit c t w).2.2 :=
  h.send _ _ w

theorem savepointRollback (t : Transaction) (w : σ) : R w (Savepoint.rollback c t w).2.2 := by
  have hsent := h.send "end savepoint" Transaction.rollbackToSql w
  simp only [Savepoint.rollback, Savepoint.finish]
  rcases hs : Transaction.send c "end savepoint" Transaction.rollbackToSql w with ⟨e | _, w'⟩ <;>
    rw [hs] at hsent <;> exact hsent

end Connection.Keeps

/-- Concluding commits or rolls back, and does nothing else. -/
theorem Transaction.conclude_induction {τ α : Type} {P : τ → Prop}
    (commit rollback : τ → Except Error Unit × τ) (r : Except Error α) {s : τ}
    (hcommit : P (commit s).2) (hrollback : P (rollback s).2) :
    P (conclude commit rollback r s).2 := by
  cases r with
  | ok a =>
    simp only [conclude]
    rcases hs : commit s with ⟨e | _, s'⟩ <;> rw [hs] at hcommit <;> exact hcommit
  | error e => exact hrollback

variable {ι : Type} {H : Host ι σ} {lease : ι} {R : σ → σ → Prop}

/-- Where a step on a lease leads: a scope is open on it, or the lease has ended. -/
inductive Led (H : Host ι σ) (lease : ι) (R : σ → σ → Prop) (w : σ) : State ι σ → Prop
  | transaction {t : Transaction} {w' : σ} (h : R w w') : Led H lease R w ⟨.transaction lease t, w'⟩
  | savepoint {t : Transaction} {w' : σ} (h : R w w') : Led H lease R w ⟨.savepoint lease t, w'⟩
  | left {w' : σ} (h : R w w') : Led H lease R w ⟨.outside, H.release lease w'⟩

namespace Connection.Keeps

variable (h : (H.connection lease).Keeps R)

include h

theorem led_begin (o : TransactionOptions) (w : σ) :
    Led H lease R w (Scope.beginOn H lease o w).2 := by
  have hstarted := h.start o w
  simp only [Scope.beginOn]
  rcases hs : Transaction.start (H.connection lease) o w with ⟨e | t, w'⟩ <;> rw [hs] at hstarted
  · exact .left hstarted
  · exact .transaction hstarted

theorem led_leave (r : Except Error Answer) {w : σ} {s : Transaction × σ} (hs : R w s.2) :
    Led H lease R w (Scope.leave H lease r s).2 :=
  .left (h.trans hs (h.drop s.1 s.2))

theorem led_transaction (a : Action) (t : Transaction) (w : σ) :
    Led H lease R w (Scope.stepTransaction H lease a t w).2 := by
  cases a with
  | run r => exact .transaction (h.executor.run r (t, w))
  | begin o =>
    have hbegun := h.beginSavepoint t w
    simp only [Scope.stepTransaction]
    rcases hs : t.beginSavepoint (H.connection lease) w with ⟨e | _, t', w'⟩ <;>
      rw [hs] at hbegun
    · exact .transaction hbegun
    · exact .savepoint hbegun
  | commit => exact h.led_leave _ (h.commit t w)
  | rollback => exact h.led_leave _ (h.rollback t w)
  | conclude r =>
    exact h.led_leave _ (Transaction.conclude_induction (P := fun s : Transaction × σ => R w s.2)
      (fun s : Transaction × σ => s.1.commit (H.connection lease) s.2)
      (fun s : Transaction × σ => s.1.rollback (H.connection lease) s.2) r
      (h.commit t w) (h.rollback t w))
  | drop => exact h.led_leave _ (h.refl w)
  | describe => exact .transaction (h.refl w)

theorem led_savepoint (a : Action) (t : Transaction) (w : σ) :
    Led H lease R w (Scope.stepSavepoint H lease a t w).2 := by
  cases a with
  | run r => exact .savepoint (h.savepointExecutor.run r (t, w))
  | begin o => exact .savepoint (h.beginSavepoint t w)
  | commit => exact .transaction (h.savepointCommit t w)
  | rollback => exact .transaction (h.savepointRollback t w)
  | conclude r =>
    exact .transaction (Transaction.conclude_induction (P := fun s : Transaction × σ => R w s.2)
      (fun s : Transaction × σ => Savepoint.commit (H.connection lease) s.1 s.2)
      (fun s : Transaction × σ => Savepoint.rollback (H.connection lease) s.1 s.2) r
      (h.savepointCommit t w) (h.savepointRollback t w))
  | drop => exact .transaction (h.note _ w)
  | describe => exact .savepoint (h.refl w)

end Connection.Keeps

end BoundSql
