import BoundSql.Transaction.Scope

namespace BoundSql

theorem TransactionOptions.beginSql_ne_last (o : TransactionOptions) :
    o.beginSql ≠ "COMMIT" ∧ o.beginSql ≠ "ROLLBACK" := by
  rcases o with ⟨_ | _ | _, _ | _⟩ <;> decide

namespace Action

/-- Whether the action ends a handle by keeping its work. -/
def commits : Action → Bool
  | commit | conclude (.ok _) => true
  | _ => false

/-- Whether the action ends a handle by undoing its work. -/
def rollsBack : Action → Bool
  | rollback | conclude (.error _) => true
  | _ => false

/-- What an action that ends a handle makes of the answer to the last statement. -/
def answer (a : Action) (r : Except Error Unit) : Except Error Answer :=
  match a with
  | conclude (.ok j) => r.map fun _ => .value j
  | conclude (.error e) => .error (Transaction.joinErrors e r)
  | _ => Answer.ofUnit r

theorem rollsBack_of_commits {a : Action} (ha : a.commits = true) : a.rollsBack = false := by
  rcases a with _ | _ | _ | _ | (_ | _) | _ | _ <;> first | rfl | cases ha

theorem answer_eq_ok {a : Action} (ha : a.commits = true) {r : Except Error Unit}
    {answer : Answer} (h : a.answer r = .ok answer) : r = .ok () := by
  cases r with
  | ok _ => rfl
  | error e => rcases a with _ | _ | _ | _ | (_ | _) | _ | _ <;> cases ha <;> cases h

/-- Whether the action sends a statement of its own on a transaction that goes on. -/
def goesOn : Action → Bool
  | run _ | begin _ => true
  | _ => false

end Action

namespace Transaction

variable {σ : Type} (c : Connection σ)

def idle (abandoned : Bool) : Transaction := ⟨false, false, abandoned⟩

def nested : Transaction := ⟨false, true, false⟩

def act (a : Action) (s : State Unit σ) : Except Error Answer × State Unit σ :=
  Scope.step (.single c fun _ => "") a s

/-- What settling sends: nothing, unless the savepoint was abandoned. -/
def settling (abandoned : Bool) (w : σ) : Except Error Unit × σ :=
  if abandoned then send c "settle savepoint" settleSql w else (.ok (), w)

def ending (sql : String) (w : σ) : Except Error Unit × σ :=
  match send c sql sql w with
  | (.error e, w) => (.error e, c.abandon w)
  | (.ok (), w) => (.ok (), w)

theorem settle_idle (b : Bool) (w : σ) :
    (idle b).settle c w = match settling c b w with
      | (.error e, w) => (.error e, idle b, w)
      | (.ok (), w) => (.ok (), idle false, w) := by
  cases b with
  | false => rfl
  | true =>
    simp only [settle, settling, idle]
    rcases send c "settle savepoint" settleSql w with ⟨e | _, w'⟩ <;> rfl

theorem finish_eq (sql : String) (t : Transaction) (w : σ) :
    t.finish c sql w = ((ending c sql w).1, { t with finished := true }, (ending c sql w).2) := by
  simp only [finish, ending]
  rcases send c sql sql w with ⟨e | _, w'⟩ <;> rfl

theorem commit_idle (b : Bool) (w : σ) :
    (idle b).commit c w = match settling c b w with
      | (.error e, w) =>
        (.error (joinErrors e (ending c "ROLLBACK" w).1), ⟨true, false, b⟩,
          (ending c "ROLLBACK" w).2)
      | (.ok (), w) =>
        ((ending c "COMMIT" w).1, ⟨true, false, false⟩, (ending c "COMMIT" w).2) := by
  rw [commit, settle_idle]
  rcases settling c b w with ⟨e | _, w'⟩ <;> simp only [finish_eq] <;> rfl

theorem rollback_idle (b : Bool) (w : σ) :
    (idle b).rollback c w =
      ((ending c "ROLLBACK" w).1, ⟨true, false, false⟩, (ending c "ROLLBACK" w).2) := by
  rw [rollback, finish_eq]
  rfl

theorem reading_idle (b : Bool) (sql : String) (args : List Value)
    (read : Rows → Except Error Answer) (w : σ) :
    (executor c).reading sql args read (idle b, w) = match settling c b w with
      | (.error e, w) => (.error e, idle b, w)
      | (.ok (), w) =>
        ((c.reading sql args read w).1, idle false, (c.reading sql args read w).2) := by
  simp only [Executor.reading, executor, query, settle_idle]
  rcases settling c b w with ⟨e | _, w'⟩
  · rfl
  · dsimp only
    rcases hq : c.query sql args w' with ⟨e | rows, w''⟩ <;> simp only [hq]

theorem run_idle (b : Bool) (r : Run) (w : σ) :
    (executor c).run r (idle b, w) = match settling c b w with
      | (.error e, w) => (.error e, idle b, w)
      | (.ok (), w) => ((c.run r w).1, idle false, (c.run r w).2) := by
  cases r with
  | exec sql args =>
    simp only [Executor.run, executor, exec, settle_idle]
    rcases settling c b w with ⟨e | _, w'⟩
    · rfl
    · dsimp only
      rcases hx : c.exec sql args w' with ⟨e | n, w''⟩ <;> simp only [hx]
  | query sql args => exact reading_idle c b sql args _ w
  | queryStream sql args => exact reading_idle c b sql args _ w
  | queryRow sql args => exact reading_idle c b sql args _ w

theorem beginSavepoint_idle (b : Bool) (w : σ) :
    (idle b).beginSavepoint c w = match settling c b w with
      | (.error e, w) => (.error e, idle b, w)
      | (.ok (), w) => match send c "savepoint" savepointSql w with
        | (.error e, w) => (.error e, idle false, w)
        | (.ok (), w) => (.ok (), nested, w) := by
  simp only [beginSavepoint, settle_idle]
  rcases settling c b w with ⟨e | _, w'⟩
  · rfl
  · dsimp only
    rcases send c "savepoint" savepointSql w' with ⟨e | _, w''⟩ <;> rfl

theorem run_nested (r : Run) (w : σ) :
    (Savepoint.executor c).run r (nested, w) = ((c.run r w).1, nested, (c.run r w).2) := by
  cases r with
  | exec sql args =>
    simp only [Executor.run, Savepoint.executor, Executor.within]
    rcases hx : c.exec sql args w with ⟨e | n, w'⟩ <;> simp only [hx]
  | query sql args | queryStream sql args | queryRow sql args =>
    simp only [Executor.run, Executor.reading, Savepoint.executor, Executor.within]
    rcases hq : c.query sql args w with ⟨e | rows, w'⟩ <;> simp only [hq]

/-- What one action does to a transaction, or to its savepoint: what is sent, and what is left. -/
inductive Moves : State Unit σ → Action → Except Error Answer → State Unit σ → Prop
  /-- The abandoned savepoint cannot be settled, and nothing else is sent. -/
  | unsettled {a : Action} {w w' : σ} {e : Error} (ha : a.goesOn = true)
      (hs : settling c true w = (.error e, w')) :
      Moves ⟨.transaction () (idle true), w⟩ a (.error e) ⟨.transaction () (idle true), w'⟩
  | run {b : Bool} {r : Run} {w w₁ : σ} (hs : settling c b w = (.ok (), w₁)) :
      Moves ⟨.transaction () (idle b), w⟩ (.run r) (c.run r w₁).1
        ⟨.transaction () (idle false), (c.run r w₁).2⟩
  | refused {b : Bool} {o : TransactionOptions} {w w₁ w₂ : σ} {e : Error}
      (hs : settling c b w = (.ok (), w₁))
      (hb : send c "savepoint" savepointSql w₁ = (.error e, w₂)) :
      Moves ⟨.transaction () (idle b), w⟩ (.begin o) (.error e) ⟨.transaction () (idle false), w₂⟩
  | begun {b : Bool} {o : TransactionOptions} {w w₁ w₂ : σ} (hs : settling c b w = (.ok (), w₁))
      (hb : send c "savepoint" savepointSql w₁ = (.ok (), w₂)) :
      Moves ⟨.transaction () (idle b), w⟩ (.begin o) (.ok .done) ⟨.savepoint () nested, w₂⟩
  /-- The abandoned savepoint cannot be settled, and the transaction is rolled back instead. -/
  | undone {a : Action} {w w₁ w₂ : σ} {e : Error} {r : Except Error Unit} (ha : a.commits = true)
      (hs : settling c true w = (.error e, w₁)) (he : ending c "ROLLBACK" w₁ = (r, w₂)) :
      Moves ⟨.transaction () (idle true), w⟩ a (.error (joinErrors e r)) ⟨.outside, w₂⟩
  | committed {a : Action} {b : Bool} {w w₁ w₂ : σ} {r : Except Error Unit}
      (ha : a.commits = true) (hs : settling c b w = (.ok (), w₁))
      (he : ending c "COMMIT" w₁ = (r, w₂)) :
      Moves ⟨.transaction () (idle b), w⟩ a (a.answer r) ⟨.outside, w₂⟩
  | rolledBack {a : Action} {b : Bool} {w w₁ : σ} {r : Except Error Unit}
      (ha : a.rollsBack = true) (he : ending c "ROLLBACK" w = (r, w₁)) :
      Moves ⟨.transaction () (idle b), w⟩ a (a.answer r) ⟨.outside, w₁⟩
  | dropped {b : Bool} {w : σ} :
      Moves ⟨.transaction () (idle b), w⟩ .drop (.ok .done)
        ⟨.outside, c.abandon (c.note (.abandoned .transaction) w)⟩
  | described {b : Bool} {w : σ} :
      Moves ⟨.transaction () (idle b), w⟩ .describe (.ok (.text (idle b).describe))
        ⟨.transaction () (idle b), w⟩
  | nestedRun {r : Run} {w : σ} :
      Moves ⟨.savepoint () nested, w⟩ (.run r) (c.run r w).1 ⟨.savepoint () nested, (c.run r w).2⟩
  | nestedBegin {o : TransactionOptions} {w : σ} :
      Moves ⟨.savepoint () nested, w⟩ (.begin o) (.error (.savepointActive savepointName))
        ⟨.savepoint () nested, w⟩
  | nestedCommit {a : Action} {w w₁ : σ} {r : Except Error Unit} (ha : a.commits = true)
      (hb : send c "end savepoint" releaseSql w = (r, w₁)) :
      Moves ⟨.savepoint () nested, w⟩ a (a.answer r) ⟨.transaction () (idle false), w₁⟩
  /-- The savepoint is abandoned if it cannot be rolled back to. -/
  | nestedRollback {a : Action} {w w₁ : σ} {r : Except Error Unit} (ha : a.rollsBack = true)
      (hb : send c "end savepoint" rollbackToSql w = (r, w₁)) :
      Moves ⟨.savepoint () nested, w⟩ a (a.answer r) ⟨.transaction () (idle !r.toBool), w₁⟩
  | nestedDrop {w : σ} :
      Moves ⟨.savepoint () nested, w⟩ .drop (.ok .done)
        ⟨.transaction () (idle true), c.note (.abandoned .savepoint) w⟩
  | nestedDescribe {w : σ} :
      Moves ⟨.savepoint () nested, w⟩ .describe (.ok (.text Savepoint.describe))
        ⟨.savepoint () nested, w⟩

variable {c}

theorem settling_error {b : Bool} {w w' : σ} {e : Error}
    (h : settling c b w = (.error e, w')) : b = true := by
  cases b with
  | false => simp [settling] at h
  | true => rfl

@[simp] theorem settling_false (w : σ) : settling c false w = (.ok (), w) := rfl

/-! One equation for each kind of action says what it does. -/

theorem act_run (b : Bool) (r : Run) (w : σ) :
    act c (.run r) ⟨.transaction () (idle b), w⟩ = match settling c b w with
      | (.error e, w) => (.error e, ⟨.transaction () (idle b), w⟩)
      | (.ok (), w) => ((c.run r w).1, ⟨.transaction () (idle false), (c.run r w).2⟩) := by
  simp only [act, Scope.step, Scope.stepTransaction, Host.single, run_idle]
  rcases settling c b w with ⟨e | _, w'⟩ <;> rfl

theorem act_begin (b : Bool) (o : TransactionOptions) (w : σ) :
    act c (.begin o) ⟨.transaction () (idle b), w⟩ = match settling c b w with
      | (.error e, w) => (.error e, ⟨.transaction () (idle b), w⟩)
      | (.ok (), w) => match send c "savepoint" savepointSql w with
        | (.error e, w) => (.error e, ⟨.transaction () (idle false), w⟩)
        | (.ok (), w) => (.ok .done, ⟨.savepoint () nested, w⟩) := by
  simp only [act, Scope.step, Scope.stepTransaction, Host.single, beginSavepoint_idle]
  rcases settling c b w with ⟨e | _, w'⟩
  · rfl
  · dsimp only
    rcases send c "savepoint" savepointSql w' with ⟨e | _, w''⟩ <;> rfl

theorem act_commits {a : Action} (ha : a.commits = true) (b : Bool) (w : σ) :
    act c a ⟨.transaction () (idle b), w⟩ = match settling c b w with
      | (.error e, w) => (.error (joinErrors e (ending c "ROLLBACK" w).1),
          ⟨.outside, (ending c "ROLLBACK" w).2⟩)
      | (.ok (), w) =>
        (a.answer (ending c "COMMIT" w).1, ⟨.outside, (ending c "COMMIT" w).2⟩) := by
  cases a with
  | commit =>
    simp only [act, Scope.step, Scope.stepTransaction, Host.single, commit_idle]
    rcases settling c b w with ⟨e | _, w'⟩ <;> rfl
  | conclude r =>
    cases r with
    | ok j =>
      simp only [act, Scope.step, Scope.stepTransaction, Host.single, conclude, commit_idle]
      rcases settling c b w with ⟨e | _, w'⟩
      · rfl
      · dsimp only
        rcases ending c "COMMIT" w' with ⟨e | _, w''⟩ <;> rfl
    | error e => cases ha
  | run _ | begin _ | rollback | drop | describe => cases ha

theorem act_rollsBack {a : Action} (ha : a.rollsBack = true) (b : Bool) (w : σ) :
    act c a ⟨.transaction () (idle b), w⟩ =
      (a.answer (ending c "ROLLBACK" w).1, ⟨.outside, (ending c "ROLLBACK" w).2⟩) := by
  cases a with
  | rollback =>
    simp only [act, Scope.step, Scope.stepTransaction, Host.single, rollback_idle]
    rfl
  | conclude r =>
    cases r with
    | ok j => cases ha
    | error e =>
      simp only [act, Scope.step, Scope.stepTransaction, Host.single, conclude, rollback_idle]
      rfl
  | run _ | begin _ | commit | drop | describe => cases ha

theorem act_nested_commits {a : Action} (ha : a.commits = true) (w : σ) :
    act c a ⟨.savepoint () nested, w⟩ =
      (a.answer (send c "end savepoint" releaseSql w).1,
        ⟨.transaction () (idle false), (send c "end savepoint" releaseSql w).2⟩) := by
  cases a with
  | commit => rfl
  | conclude r =>
    cases r with
    | ok j =>
      simp only [act, Scope.step, Scope.stepSavepoint, Host.single, conclude, Savepoint.commit,
        Savepoint.finish]
      rcases send c "end savepoint" releaseSql w with ⟨e | _, w'⟩ <;> rfl
    | error e => cases ha
  | run _ | begin _ | rollback | drop | describe => cases ha

theorem act_nested_rollsBack {a : Action} (ha : a.rollsBack = true) (w : σ) :
    act c a ⟨.savepoint () nested, w⟩ =
      (a.answer (send c "end savepoint" rollbackToSql w).1,
        ⟨.transaction () (idle !(send c "end savepoint" rollbackToSql w).1.toBool),
          (send c "end savepoint" rollbackToSql w).2⟩) := by
  cases a with
  | rollback =>
    simp only [act, Scope.step, Scope.stepSavepoint, Host.single, Savepoint.rollback,
      Savepoint.finish]
    rcases send c "end savepoint" rollbackToSql w with ⟨e | _, w'⟩ <;> rfl
  | conclude r =>
    cases r with
    | ok j => cases ha
    | error e =>
      simp only [act, Scope.step, Scope.stepSavepoint, Host.single, conclude, Savepoint.rollback,
        Savepoint.finish]
      rcases send c "end savepoint" rollbackToSql w with ⟨e' | _, w'⟩ <;> rfl
  | run _ | begin _ | commit | drop | describe => cases ha

theorem moves_commits {a : Action} (ha : a.commits = true) (b : Bool) (w : σ) :
    Moves c ⟨.transaction () (idle b), w⟩ a (act c a ⟨.transaction () (idle b), w⟩).1
      (act c a ⟨.transaction () (idle b), w⟩).2 := by
  rw [act_commits ha]
  rcases hs : settling c b w with ⟨e | _, w'⟩
  · obtain rfl := settling_error hs
    exact .undone ha hs rfl
  · exact .committed ha hs rfl

theorem moves_rollsBack {a : Action} (ha : a.rollsBack = true) (b : Bool) (w : σ) :
    Moves c ⟨.transaction () (idle b), w⟩ a (act c a ⟨.transaction () (idle b), w⟩).1
      (act c a ⟨.transaction () (idle b), w⟩).2 := by
  rw [act_rollsBack ha]
  exact .rolledBack ha rfl

theorem moves_transaction (b : Bool) (a : Action) (w : σ) :
    Moves c ⟨.transaction () (idle b), w⟩ a (act c a ⟨.transaction () (idle b), w⟩).1
      (act c a ⟨.transaction () (idle b), w⟩).2 := by
  cases a with
  | run r =>
    rw [act_run]
    rcases hs : settling c b w with ⟨e | _, w'⟩
    · obtain rfl := settling_error hs
      exact .unsettled rfl hs
    · exact .run hs
  | begin o =>
    rw [act_begin]
    rcases hs : settling c b w with ⟨e | _, w'⟩
    · obtain rfl := settling_error hs
      exact .unsettled rfl hs
    · dsimp only
      rcases hb : send c "savepoint" savepointSql w' with ⟨e | _, w''⟩
      · exact .refused hs hb
      · exact .begun hs hb
  | commit => exact moves_commits rfl b w
  | rollback => exact moves_rollsBack rfl b w
  | conclude r =>
    cases r with
    | ok j => exact moves_commits rfl b w
    | error e => exact moves_rollsBack rfl b w
  | drop => exact .dropped
  | describe => exact .described

theorem moves_nested_commits {a : Action} (ha : a.commits = true) (w : σ) :
    Moves c ⟨.savepoint () nested, w⟩ a (act c a ⟨.savepoint () nested, w⟩).1
      (act c a ⟨.savepoint () nested, w⟩).2 := by
  rw [act_nested_commits ha]
  exact .nestedCommit ha rfl

theorem moves_nested_rollsBack {a : Action} (ha : a.rollsBack = true) (w : σ) :
    Moves c ⟨.savepoint () nested, w⟩ a (act c a ⟨.savepoint () nested, w⟩).1
      (act c a ⟨.savepoint () nested, w⟩).2 := by
  rw [act_nested_rollsBack ha]
  exact .nestedRollback ha rfl

theorem moves_savepoint (a : Action) (w : σ) :
    Moves c ⟨.savepoint () nested, w⟩ a (act c a ⟨.savepoint () nested, w⟩).1
      (act c a ⟨.savepoint () nested, w⟩).2 := by
  cases a with
  | run r =>
    simp only [act, Scope.step, Scope.stepSavepoint, Host.single, run_nested]
    exact .nestedRun
  | begin o => exact .nestedBegin
  | commit => exact moves_nested_commits rfl w
  | rollback => exact moves_nested_rollsBack rfl w
  | conclude r =>
    cases r with
    | ok j => exact moves_nested_commits rfl w
    | error e => exact moves_nested_rollsBack rfl w
  | drop => exact .nestedDrop
  | describe => exact .nestedDescribe

inductive Tidy : Scope Unit → Prop
  | transaction (b : Bool) : Tidy (.transaction () (idle b))
  | savepoint : Tidy (.savepoint () nested)
  | outside : Tidy .outside

theorem Tidy.eq_idle {t : Transaction} (h : Tidy (.transaction () t)) : ∃ b, t = idle b := by
  cases h with
  | transaction b => exact ⟨b, rfl⟩

theorem moves_act {s : State Unit σ} (hs : Tidy s.scope) (ho : s.scope ≠ .outside) (a : Action) :
    Moves c s a (act c a s).1 (act c a s).2 := by
  obtain ⟨scope, w⟩ := s
  cases hs with
  | transaction b => exact moves_transaction b a w
  | savepoint => exact moves_savepoint a w
  | outside => exact absurd rfl ho

theorem Moves.tidy {s s' : State Unit σ} {a : Action} {r : Except Error Answer}
    (h : Moves c s a r s') : Tidy s'.scope := by
  cases h <;> constructor

/-- A transaction whose commit is answered well has settled, and was committed. -/
theorem Moves.of_commits {s s' : State Unit σ} {a : Action} {r : Except Error Answer}
    (hm : Moves c s a r s') {t : Transaction} (ht : s.scope = .transaction () t)
    (ha : a.commits = true) {answer : Answer} (hr : r = .ok answer) :
    ∃ abandoned w w₁ w₂, s = ⟨.transaction () (idle abandoned), w⟩ ∧ s' = ⟨.outside, w₂⟩ ∧
      settling c abandoned w = (.ok (), w₁) ∧ ending c "COMMIT" w₁ = (.ok (), w₂) := by
  cases hm with
  | @committed _ abandoned w w₁ w₂ r _ hs he =>
    obtain rfl := Action.answer_eq_ok ha hr
    exact ⟨abandoned, w, w₁, w₂, rfl, rfl, hs, he⟩
  | unsettled | undone => cases hr
  | rolledBack ha' =>
    rw [Action.rollsBack_of_commits ha] at ha'
    cases ha'
  | run | refused | begun | dropped | described => cases ha
  | nestedRun | nestedBegin | nestedCommit | nestedRollback | nestedDrop | nestedDescribe =>
    cases ht

structure Turn (σ : Type) where
  before : State Unit σ
  action : Action
  answer : Except Error Answer
  after : State Unit σ

/-- The turns taken on a transaction since it was started in a world, the last one first, and the
state that they have led to. -/
inductive Course (c : Connection σ) (w₀ : σ) : List (Turn σ) → State Unit σ → Prop
  | start {o : TransactionOptions} {t : Transaction} {w : σ} (h : start c o w₀ = (.ok t, w)) :
      Course c w₀ [] ⟨.transaction () t, w⟩
  | turn {past : List (Turn σ)} {s : State Unit σ} (h : Course c w₀ past s)
      (ho : s.scope ≠ .outside) (a : Action) :
      Course c w₀ (⟨s, a, (act c a s).1, (act c a s).2⟩ :: past) (act c a s).2

theorem start_eq_idle {o : TransactionOptions} {t : Transaction} {w₀ w : σ}
    (h : start c o w₀ = (.ok t, w)) :
    t = idle false ∧ send c "begin" o.beginSql w₀ = (.ok (), w) := by
  simp only [start] at h
  rcases hb : send c "begin" o.beginSql w₀ with ⟨e | _, w'⟩
  · simp [hb] at h
  · simp only [hb, Prod.mk.injEq, Except.ok.injEq] at h
    exact ⟨h.1.symm, by rw [h.2]⟩

theorem Course.tidy {w₀ : σ} {past : List (Turn σ)} {s : State Unit σ} (h : Course c w₀ past s) :
    Tidy s.scope := by
  induction h with
  | start h =>
    rw [(start_eq_idle h).1]
    exact .transaction false
  | turn h ho a ih => exact (moves_act ih ho a).tidy

theorem Course.moves {w₀ : σ} {τ : Turn σ} {past : List (Turn σ)} {s : State Unit σ}
    (h : Course c w₀ (τ :: past) s) :
    Course c w₀ past τ.before ∧ Moves c τ.before τ.action τ.answer τ.after ∧ s = τ.after := by
  cases h with
  | turn h ho a => exact ⟨h, moves_act h.tidy ho a, rfl⟩

theorem Course.of_act {w₀ : σ} {past : List (Turn σ)} {s s' : State Unit σ} {a : Action}
    {r : Except Error Answer} (h : Course c w₀ past s) (ho : s.scope ≠ .outside)
    (ha : act c a s = (r, s')) : Course c w₀ (⟨s, a, r, s'⟩ :: past) s' := by
  have ht := h.turn ho a
  rw [ha] at ht
  exact ht

/-- What holds of the state after the start, and is kept by every move, holds in every state of a
course. -/
theorem Course.invariant {w₀ : σ} {P : List (Turn σ) → State Unit σ → Prop}
    (hstart : ∀ {o : TransactionOptions} {w : σ}, send c "begin" o.beginSql w₀ = (.ok (), w) →
      P [] ⟨.transaction () (idle false), w⟩)
    (hmove : ∀ {past s a r s'}, Course c w₀ past s → P past s → Moves c s a r s' →
      P (⟨s, a, r, s'⟩ :: past) s')
    {past : List (Turn σ)} {s : State Unit σ} (h : Course c w₀ past s) : P past s := by
  induction h with
  | start h =>
    obtain ⟨rfl, hb⟩ := start_eq_idle h
    exact hstart hb
  | turn h ho a ih => exact hmove h ih (moves_act h.tidy ho a)

end Transaction

end BoundSql
