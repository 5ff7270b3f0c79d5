import BoundSql.Proofs.Transaction.Settling

namespace BoundSql.Transaction

variable {σ : Type} {c : Connection σ}

/-- Whether a savepoint is live: it has begun, and was not committed, rolled back or dropped
since. -/
def live : List (Turn σ) → Bool
  | [] => false
  | τ :: past =>
    match τ.action, τ.answer with
    | .begin _, .ok _ => true
    | .begin _, .error _ | .run _, _ | .describe, _ => live past
    | .commit, _ | .rollback, _ | .conclude _, _ | .drop, _ => false

section Live

variable {past : List (Turn σ)} {s s' : State Unit σ} {a : Action} {r : Except Error Answer}

theorem live_of_commits (ha : a.commits = true) : live (⟨s, a, r, s'⟩ :: past) = false := by
  cases a with
  | commit | conclude _ => rfl
  | run _ | begin _ | rollback | drop | describe => cases ha

theorem live_of_rollsBack (ha : a.rollsBack = true) : live (⟨s, a, r, s'⟩ :: past) = false := by
  cases a with
  | rollback | conclude _ => rfl
  | run _ | begin _ | commit | drop | describe => cases ha

theorem live_of_failed {e : Error} (ha : a.goesOn = true) :
    live (⟨s, a, .error e, s'⟩ :: past) = live past := by
  cases a with
  | run _ | begin _ => rfl
  | commit | rollback | conclude _ | drop | describe => cases ha

end Live

/-- The scope is that of a savepoint while one is live, and only then. -/
def Told (past : List (Turn σ)) (s : State Unit σ) : Prop :=
  live past = true ↔ s.scope = .savepoint () nested

theorem told_savepoint {past : List (Turn σ)} {w : σ} :
    Told past ⟨.savepoint () nested, w⟩ ↔ live past = true := by
  simp [Told]

theorem told_transaction {past : List (Turn σ)} {t : Transaction} {w : σ} :
    Told past ⟨.transaction () t, w⟩ ↔ live past = false := by
  simp [Told]

theorem told_outside {past : List (Turn σ)} {w : σ} :
    Told past ⟨.outside, w⟩ ↔ live past = false := by
  simp [Told]

theorem Moves.told {past : List (Turn σ)} {s s' : State Unit σ} {a : Action}
    {r : Except Error Answer} (hm : Moves c s a r s') (h : Told past s) :
    Told (⟨s, a, r, s'⟩ :: past) s' := by
  cases hm with
  | unsettled ha =>
    rw [told_transaction, live_of_failed ha]
    exact told_transaction.mp h
  | run | refused | described => exact told_transaction.mpr (told_transaction.mp h)
  | begun => exact told_savepoint.mpr rfl
  | undone ha => exact told_outside.mpr (live_of_commits ha)
  | committed ha => exact told_outside.mpr (live_of_commits ha)
  | rolledBack ha => exact told_outside.mpr (live_of_rollsBack ha)
  | dropped => exact told_outside.mpr rfl
  | nestedRun | nestedBegin | nestedDescribe => exact told_savepoint.mpr (told_savepoint.mp h)
  | nestedCommit ha => exact told_transaction.mpr (live_of_commits ha)
  | nestedRollback ha => exact told_transaction.mpr (live_of_rollsBack ha)
  | nestedDrop => exact told_transaction.mpr rfl

theorem Course.told {w₀ : σ} {past : List (Turn σ)} {s : State Unit σ}
    (h : Course c w₀ past s) : Told past s :=
  h.invariant (fun _ => told_transaction.mpr rfl) fun _ hs hm => hm.told hs

/-- The flags of a handle: the savepoint is active while it is live, and an active one is not
abandoned. -/
theorem Told.flags {past : List (Turn σ)} {s : State Unit σ} (h : Told past s)
    (htidy : Tidy s.scope) {t : Transaction} (ht : handle? s.scope = some t) :
    t.savepointActive = live past ∧ ¬ (t.savepointActive = true ∧ t.savepointAbandoned = true) := by
  obtain ⟨scope, w⟩ := s
  cases htidy with
  | transaction b =>
    cases ht
    exact ⟨(told_transaction.mp h).symm, fun hboth => Bool.false_ne_true hboth.1⟩
  | savepoint =>
    cases ht
    exact ⟨(told_savepoint.mp h).symm, fun hboth => Bool.false_ne_true hboth.2⟩
  | outside => cases ht

variable (c)

/-- Why a transaction cannot begin a savepoint: the connection has answered with an error, either to
the settling of an abandoned one or to the new one. -/
inductive Unbegun (t : Transaction) (w : σ) (e : Error) : Prop
  | unsettled {w' : σ} (ht : t.savepointAbandoned = true)
      (hs : send c "settle savepoint" settleSql w = (.error e, w'))
  | refused {w₁ w₂ : σ} (hs : settling c t.savepointAbandoned w = (.ok (), w₁))
      (hb : send c "savepoint" savepointSql w₁ = (.error e, w₂))

variable {c}

theorem unbegun_of_act_begin {b : Bool} {o : TransactionOptions} {w : σ} {e : Error}
    (h : (act c (.begin o) ⟨.transaction () (idle b), w⟩).1 = .error e) :
    Unbegun c (idle b) w e := by
  rw [act_begin] at h
  rcases hs : settling c b w with ⟨e' | _, w₁⟩
  · obtain rfl := settling_error hs
    simp only [hs, Except.error.injEq] at h
    rw [← h]
    exact .unsettled rfl hs
  · rcases hb : send c "savepoint" savepointSql w₁ with ⟨e' | _, w₂⟩
    · simp only [hs, hb, Except.error.injEq] at h
      rw [← h]
      exact .refused hs hb
    · simp [hs, hb] at h

theorem Unbegun.answered {t : Transaction} {w : σ} {e : Error} (h : Unbegun c t w e) :
    ∃ sql w', (c.batch sql w').1 = .error e := by
  cases h with
  | unsettled _ hs => exact ⟨_, _, congrArg Prod.fst hs⟩
  | refused _ hb => exact ⟨_, _, congrArg Prod.fst hb⟩

/-- In every course the savepoint is marked active exactly while it is live, and never abandoned at
the same time. While it is live, beginning another one is refused without anything sent or changed,
and statements go straight to the connection. Otherwise the transaction refuses a savepoint only
with an error of the connection, so never because one is active. -/
theorem Course.one_savepoint_at_a_time {w₀ : σ} {past : List (Turn σ)} {s : State Unit σ}
    (h : Course c w₀ past s) :
    (∀ t, handle? s.scope = some t → t.savepointActive = live past ∧
      ¬ (t.savepointActive = true ∧ t.savepointAbandoned = true)) ∧
    (live past = true →
      (∀ o, act c (.begin o) s = (.error (.savepointActive savepointName), s)) ∧
      ∀ r, act c (.run r) s = ((c.run r s.world).1, ⟨s.scope, (c.run r s.world).2⟩)) ∧
    (live past = false → ∀ t, handle? s.scope = some t → ∀ o,
      (∀ e, (act c (.begin o) s).1 = .error e → Unbegun c t s.world e) ∧
      ((∀ sql w, (c.batch sql w).1 ≠ .error (.savepointActive savepointName)) →
        (act c (.begin o) s).1 ≠ .error (.savepointActive savepointName))) := by
  have htold := h.told
  have htidy := h.tidy
  refine ⟨fun t ht => htold.flags htidy ht, ?_, ?_⟩
  · intro hlive
    obtain ⟨scope, w⟩ := s
    obtain rfl : scope = .savepoint () nested := htold.mp hlive
    refine ⟨fun o => rfl, fun r => ?_⟩
    simp only [act, Scope.step, Scope.stepSavepoint, Host.single, run_nested]
  · intro hlive t ht o
    obtain ⟨scope, w⟩ := s
    cases htidy with
    | transaction b =>
      cases ht
      refine ⟨fun e he => unbegun_of_act_begin he, fun hc he => ?_⟩
      obtain ⟨sql, w', hanswer⟩ := (unbegun_of_act_begin he).answered
      exact hc sql w' hanswer
    | savepoint => exact absurd (told_savepoint.mp htold) (by simp [hlive])
    | outside => cases ht

/-- A connection that counts its requests, and fails the third and the fourth. -/
def faltering : Connection Nat where
  query _ _ n := (.ok .empty, n + 1)
  exec _ _ n := (.ok 1, n + 1)
  await _ n := n
  batch _ n := (if n = 2 ∨ n = 3 then .error (.timeout (.ofMillis 50)) else .ok (), n + 1)
  abandon n := n
  note _ n := n

/-- The savepoint cannot be rolled back to, nor settled at the first try. -/
theorem begins_again_after_failed_rollback :
    ∃ past s past' s', Course faltering 0 past s ∧ live past = true ∧
      act faltering (.begin .default) s = (.error (.savepointActive savepointName), s) ∧
      Course faltering 0 past' s' ∧ live past' = false ∧
      handle? s'.scope = some (idle true) ∧
      (act faltering (.begin .default) s').1 = .error (.timeout (.ofMillis 50)) ∧
      (act faltering (.begin .default) s').1 ≠ .error (.savepointActive savepointName) := by
  have hstart : start faltering .default 0 = (.ok (idle false), 1) := rfl
  have h₁ := Course.start hstart
  have h₂ := h₁.of_act nofun
    (rfl : act faltering (.begin .default) _ = (.ok .done, ⟨.savepoint () nested, 2⟩))
  have h₃ := h₂.of_act nofun
    (rfl : act faltering .rollback _ =
      (.error (.timeout (.ofMillis 50)), ⟨.transaction () (idle true), 3⟩))
  have hanswers : ∀ sql w, (faltering.batch sql w).1 ≠ .error (.savepointActive savepointName) := by
    intro sql w h
    simp only [faltering] at h
    split at h <;> cases h
  exact ⟨_, _, _, _, h₂, rfl, (h₂.one_savepoint_at_a_time.2.1 rfl).1 .default, h₃, rfl, rfl, rfl,
    (h₃.one_savepoint_at_a_time.2.2 rfl _ rfl .default).2 hanswers⟩

end BoundSql.Transaction
