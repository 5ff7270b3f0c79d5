import BoundSql.Proofs.Database.Backend
/-!
What was executed through a savepoint that was rolled back or dropped is saved nowhere, and part of
the open work only as long as the savepoint is abandoned.
-/

namespace BoundSql

/-- Whether the action undoes a savepoint, or leaves it to be undone. -/
def Action.discards : Action → Bool
  | rollback | conclude (.error _) | drop => true
  | _ => false

namespace Transaction

/-- The statements that were executed through the savepoint begun last, and those that were executed
through savepoints that were discarded. -/
structure Ledger where
  current : List Execution
  discarded : List Execution

def Ledger.turn (l : Ledger) (τ : Turn Backend) : Ledger :=
  match τ.before.scope, τ.action with
  | .transaction _ _, .begin _ => { l with current := [] }
  | .savepoint _ _, .run r =>
    { l with current := r.execution τ.before.world.requests :: l.current }
  | .savepoint _ _, a =>
    if a.discards then { l with discarded := l.current ++ l.discarded } else l
  | _, _ => l

def ledger : List (Turn Backend) → Ledger
  | [] => ⟨[], []⟩
  | τ :: past => (ledger past).turn τ

open Backend

/-- Statements that were sent, and are not saved in the database. -/
structure Apart (xs : List Execution) (b : Backend) : Prop where
  sent : ∀ x ∈ xs, x.number < b.requests
  unsaved : ∀ x ∈ xs, ¬ b.database.Saves x

def Clean (xs : List Execution) (b : Backend) : Prop := ∀ x ∈ xs, ¬ b.database.Works x

/-- How discarded work is kept out of the database: only an abandoned savepoint still has some. -/
def Discards (l : Ledger) : State Unit Backend → Prop
  | ⟨.outside, b⟩ => ∀ x ∈ l.discarded, x ∉ b.database.committed
  | ⟨.transaction _ t, b⟩ =>
    Apart l.discarded b ∧ (t.savepointAbandoned = false → Clean l.discarded b)
  | ⟨.savepoint _ _, b⟩ => Apart (l.current ++ l.discarded) b ∧ Clean l.discarded b

variable {xs : List Execution} {b b' : Backend} {ok : Bool} {sql : String}

theorem Apart.mono {ys : List Execution} (h : Apart xs b) (hs : ys ⊆ xs) : Apart ys b :=
  ⟨fun x hx => h.sent x (hs hx), fun x hx => h.unsaved x (hs hx)⟩

theorem Apart.of_saves {m : Message} (h : Apart xs b) (hh : Handled m b ok b')
    (hs : ∀ x ∈ xs, b'.database.Saves x → b.database.Saves x) : Apart xs b' := by
  refine ⟨?_, fun x hx hx' => h.unsaved x hx (hs x hx hx')⟩
  intro x hx
  have hlt := h.sent x hx
  rw [hh.requests_eq]
  omega

theorem Apart.skipped {m : Message} (h : Apart xs b) (hh : Handled m b ok b')
    (hd : b'.database = b.database) : Apart xs b' :=
  h.of_saves hh fun x _ hx => by rwa [hd] at hx

/-- A batch that goes back to a savepoint restores work that was saved, so nothing that was not. -/
theorem Apart.restored (h : Apart xs b) (hh : Handled (.batch sql) b ok b')
    (hsaves : ∀ {d x}, b.database.batch sql = some d → d.Saves x → b.database.Saves x)
    (hworks : ∀ {d x}, b.database.batch sql = some d → d.Works x → b.database.Saves x) :
    Apart xs b' ∧ (ok = true → Clean xs b') := by
  rcases hh.of_batch with ⟨rfl, hd⟩ | hd
  · exact ⟨h.skipped hh hd, fun h => nomatch h⟩
  · refine ⟨h.of_saves hh fun x _ hx => hsaves hd hx, ?_⟩
    intro _ x hx hx'
    exact h.unsaved x hx (hworks hd hx')

/-- A batch that leaves the work as it is saves nothing but that work. -/
theorem Apart.carried (h : Apart xs b) (hc : Clean xs b) (hh : Handled (.batch sql) b ok b')
    (hsaves : ∀ {d x}, b.database.batch sql = some d → d.Saves x → b.database.Holds x)
    (hworks : ∀ {d x}, b.database.batch sql = some d → d.Works x → b.database.Works x) :
    Apart xs b' ∧ Clean xs b' := by
  rcases hh.of_batch with ⟨-, hd⟩ | hd
  · refine ⟨h.skipped hh hd, ?_⟩
    rwa [Clean, hd]
  · refine ⟨h.of_saves hh fun x hx hx' => (hsaves hd hx').resolve_left (hc x hx), ?_⟩
    intro x hx hx'
    exact hc x hx (hworks hd hx')

theorem Apart.settle (h : Apart xs b) (hh : Handled (.batch settleSql) b ok b') :
    Apart xs b' ∧ (ok = true → Clean xs b') :=
  h.restored hh Database.saves_of_settle Database.saves_of_works_settle

theorem Apart.rollbackTo (h : Apart xs b) (hh : Handled (.batch rollbackToSql) b ok b') :
    Apart xs b' ∧ (ok = true → Clean xs b') := by
  refine h.restored hh ?_ ?_ <;> rw [Database.batch_rollbackTo]
  · exact fun hd => (Database.saves_of_rollbackTo hd).mp
  · exact Database.saves_of_works_rollbackTo

theorem Apart.savepoint (h : Apart xs b) (hc : Clean xs b)
    (hh : Handled (.batch savepointSql) b ok b') : Apart xs b' ∧ Clean xs b' := by
  refine h.carried hc hh ?_ ?_ <;> rw [Database.batch_savepoint]
  · exact fun hd => (Database.saves_of_savepoint hd).mp
  · exact fun hd => (Database.works_of_savepoint hd).mp

theorem Apart.release (h : Apart xs b) (hc : Clean xs b)
    (hh : Handled (.batch releaseSql) b ok b') : Apart xs b' ∧ Clean xs b' := by
  refine h.carried hc hh ?_ ?_ <;> rw [Database.batch_release]
  · exact fun hd hx => .inr (Database.saves_of_release hd hx)
  · exact fun hd => (Database.works_of_release hd).mp

theorem Apart.run {r : Run} (h : Apart xs b) (ho : Opened b) (hh : Handled r.message b ok b') :
    Apart (r.execution b.requests :: xs) b' := by
  have hnew : ¬ b.database.Saves (r.execution b.requests) := fun hx =>
    not_holds_execution r b (.inr hx)
  have hsaves : ∀ x, b'.database.Saves x → b.database.Saves x := by
    intro x hx
    rcases hh.of_run with ⟨-, hd⟩ | hd
    · rwa [hd] at hx
    · rw [hd] at hx
      exact (Database.saves_execute ho).mp hx
  have hxs := h.of_saves hh fun x _ => hsaves x
  refine ⟨?_, ?_⟩
  · intro x hx
    rcases List.mem_cons.mp hx with rfl | hx
    · rw [Run.execution_number, hh.requests_eq]
      omega
    · exact hxs.sent x hx
  · intro x hx
    rcases List.mem_cons.mp hx with rfl | hx
    · exact fun hx => hnew (hsaves _ hx)
    · exact hxs.unsaved x hx

theorem Apart.clean_run {r : Run} (h : Apart xs b) (hc : Clean xs b)
    (hh : Handled r.message b ok b') : Clean xs b' := by
  intro x hx hx'
  rcases hh.of_run with ⟨-, hd⟩ | hd
  · rw [hd] at hx'
    exact hc x hx hx'
  · rw [hd] at hx'
    rcases Database.works_execute hx' with hx' | rfl
    · exact hc x hx hx'
    · have hlt := h.sent _ hx
      rw [Run.execution_number] at hlt
      omega

theorem Apart.commit (h : Apart xs b) (hc : Clean xs b) (hh : Handled (.batch "COMMIT") b ok b') :
    ∀ x ∈ xs, x ∉ b'.database.committed := by
  intro x hx hx'
  rcases hh.of_batch with ⟨-, hd⟩ | hd
  · rw [hd] at hx'
    exact h.unsaved x hx (.inl hx')
  · rw [Database.batch_commit] at hd
    rcases Database.Command.holds_of_run hd (.inr (.inl hx')) with hx' | hx'
    · exact hc x hx hx'
    · exact h.unsaved x hx hx'

theorem Apart.rollback (h : Apart xs b) (hh : Handled (.batch "ROLLBACK") b ok b') :
    ∀ x ∈ xs, x ∉ b'.database.committed := by
  intro x hx hx'
  refine h.unsaved x hx (.inl ?_)
  rcases hh.of_batch with ⟨-, hd⟩ | hd
  · rwa [hd] at hx'
  · rw [Database.batch_rollback] at hd
    have hd' : ⟨b.database.committed, none⟩ = b'.database := Option.some.inj hd
    rwa [← hd'] at hx'

theorem Apart.settled {abandoned : Bool} (h : Apart xs b) (hc : abandoned = false → Clean xs b)
    (hs : settling connection abandoned b = (.ok (), b')) : Apart xs b' ∧ Clean xs b' := by
  cases abandoned with
  | false =>
    cases hs
    exact ⟨h, hc rfl⟩
  | true =>
    obtain ⟨h', hc'⟩ := h.settle (handled_send hs)
    exact ⟨h', hc' rfl⟩

section Turns

variable {l : Ledger} {t : Transaction} {a : Action} {r : Except Error Answer}
  {s' : State Unit Backend}

theorem Ledger.discarded_turn :
    (l.turn ⟨⟨.transaction () t, b⟩, a, r, s'⟩).discarded = l.discarded := by
  cases a <;> rfl

theorem Ledger.turn_of_commits (ha : a.commits = true) :
    l.turn ⟨⟨.savepoint () t, b⟩, a, r, s'⟩ = l := by
  rcases a with _ | _ | _ | _ | (_ | _) | _ | _ <;> first | rfl | cases ha

theorem Ledger.turn_of_rollsBack (ha : a.rollsBack = true) :
    l.turn ⟨⟨.savepoint () t, b⟩, a, r, s'⟩ =
      { l with discarded := l.current ++ l.discarded } := by
  rcases a with _ | _ | _ | _ | (_ | _) | _ | _ <;> first | rfl | cases ha

theorem discards_transaction {abandoned : Bool} {b₀ : Backend}
    (h : Apart l.discarded b ∧ (abandoned = false → Clean l.discarded b)) :
    Discards (l.turn ⟨⟨.transaction () t, b₀⟩, a, r, s'⟩)
      ⟨.transaction () (idle abandoned), b⟩ := by
  rw [Discards, Ledger.discarded_turn]
  exact h

theorem discards_outside {b₀ : Backend} (h : ∀ x ∈ l.discarded, x ∉ b.database.committed) :
    Discards (l.turn ⟨⟨.transaction () t, b₀⟩, a, r, s'⟩) ⟨.outside, b⟩ := by
  rw [Discards, Ledger.discarded_turn]
  exact h

end Turns

theorem Moves.discards {l : Ledger} {s s' : State Unit Backend} {a : Action}
    {r : Except Error Answer} (hm : Moves connection s a r s') (ho : Ongoing s)
    (h : Discards l s) : Discards (l.turn ⟨s, a, r, s'⟩) s' := by
  cases hm with
  | unsettled ha hs =>
    obtain ⟨hx, -⟩ := h
    obtain ⟨hx₁, -⟩ := hx.settle (handled_send hs)
    exact discards_transaction ⟨hx₁, fun h => nomatch h⟩
  | @run _ q _ _ hs =>
    obtain ⟨hx, hc⟩ := h
    obtain ⟨hx₁, hc₁⟩ := hx.settled hc hs
    obtain ⟨ok, hh, -⟩ := handled_run q _
    have hx₂ := hx₁.run ((ho nofun).settling hs) hh
    have hx₃ := hx₂.mono (List.subset_cons_self _ _)
    exact discards_transaction ⟨hx₃, fun _ => hx₁.clean_run hc₁ hh⟩
  | refused hs hb =>
    obtain ⟨hx, hc⟩ := h
    obtain ⟨hx₁, hc₁⟩ := hx.settled hc hs
    obtain ⟨hx₂, hc₂⟩ := hx₁.savepoint hc₁ (handled_send hb)
    exact discards_transaction ⟨hx₂, fun _ => hc₂⟩
  | begun hs hb =>
    obtain ⟨hx, hc⟩ := h
    obtain ⟨hx₁, hc₁⟩ := hx.settled hc hs
    exact hx₁.savepoint hc₁ (handled_send hb)
  | undone ha hs he =>
    obtain ⟨hx, -⟩ := h
    obtain ⟨hx₁, -⟩ := hx.settle (handled_send hs)
    exact discards_outside (hx₁.rollback (handled_ending he))
  | committed ha hs he =>
    obtain ⟨hx, hc⟩ := h
    obtain ⟨hx₁, hc₁⟩ := hx.settled hc hs
    exact discards_outside (hx₁.commit hc₁ (handled_ending he))
  | rolledBack ha he =>
    obtain ⟨hx, -⟩ := h
    exact discards_outside (hx.rollback (handled_ending he))
  | dropped =>
    obtain ⟨hx, -⟩ := h
    exact fun x hm hx' => hx.unsaved x hm (.inl hx')
  | described => exact h
  | @nestedRun q b =>
    obtain ⟨hx, hc⟩ := h
    obtain ⟨ok, hh, -⟩ := handled_run q b
    have hdiscarded := hx.mono (List.subset_append_right l.current l.discarded)
    exact ⟨hx.run (ho nofun) hh, hdiscarded.clean_run hc hh⟩
  | nestedBegin => exact h
  | nestedCommit ha hb =>
    obtain ⟨hx, hc⟩ := h
    rw [Ledger.turn_of_commits ha]
    -- the work of the savepoint joins that of the block, where it is no longer followed
    have hdiscarded := hx.mono (List.subset_append_right l.current l.discarded)
    obtain ⟨hx₁, hc₁⟩ := hdiscarded.release hc (handled_send hb)
    exact ⟨hx₁, fun _ => hc₁⟩
  | @nestedRollback _ _ _ r ha hb =>
    obtain ⟨hx, -⟩ := h
    rw [Ledger.turn_of_rollsBack ha]
    obtain ⟨hx₁, hc₁⟩ := hx.rollbackTo (handled_send hb)
    -- the work may still be there after a failure, but then the savepoint is abandoned
    refine ⟨hx₁, fun hr => hc₁ ?_⟩
    cases r with
    | ok _ => rfl
    | error e => cases hr
  | nestedDrop =>
    obtain ⟨hx, -⟩ := h
    exact ⟨hx, fun h => nomatch h⟩
  | nestedDescribe => exact h

theorem Course.discards {w₀ : Backend} {past : List (Turn Backend)} {s : State Unit Backend}
    (h : Course connection w₀ past s) : Discards (ledger past) s := by
  refine h.invariant (P := fun past s => Discards (ledger past) s) ?_ fun hc hs hm =>
    hm.discards (ongoing_course hc) hs
  intro o w hb
  exact ⟨⟨by simp [ledger], by simp [ledger]⟩, by simp [ledger, Clean]⟩

/-- At every point of a course, whatever has failed in it, none of the discarded work is committed.
-/
theorem Course.discarded_not_committed {w₀ : Backend} {past : List (Turn Backend)}
    {s : State Unit Backend} (h : Course connection w₀ past s) :
    ∀ x ∈ (ledger past).discarded, x ∉ s.world.database.committed := by
  intro x hx hcommitted
  have hd := h.discards
  have ht := h.tidy
  obtain ⟨scope, b⟩ := s
  cases ht with
  | transaction _ => exact hd.1.unsaved x hx (.inl hcommitted)
  | savepoint => exact hd.1.unsaved x (List.mem_append_right _ hx) (.inl hcommitted)
  | outside => exact hd x hx hcommitted

theorem unanswered_rollback_not_committed :
    ∃ (w₀ : Backend) (past : List (Turn Backend)) (s : State Unit Backend) (x : Execution),
      Course connection w₀ past s ∧ x ∈ (ledger past).discarded ∧
        s.world.database.committed ≠ [] ∧ x ∉ s.world.database.committed := by
  let fates := servedBut 3 (.unanswered (.timeout (.ofMillis 50)))
  let b₁ := (fresh fates).take (.batch TransactionOptions.default.beginSql)
  let b₂ := b₁.take (.batch savepointSql)
  let b₃ := b₂.take (.statement "DELETE FROM t" [])
  let b₄ := b₃.take (.batch rollbackToSql)
  let b₅ := (b₄.take (.batch settleSql)).take (.statement "INSERT INTO t VALUES (1)" [])
  let b₆ := b₅.take (.batch "COMMIT")
  have hstart : start connection .default (fresh fates) = (.ok (idle false), b₁) := rfl
  have h₁ := Course.start hstart
  have h₂ := h₁.of_act nofun
    (rfl : act connection (.begin .default) _ = (.ok .done, ⟨.savepoint () nested, b₂⟩))
  have h₃ := h₂.of_act nofun
    (rfl : act connection (.run (.exec "DELETE FROM t" [])) _ =
      (.ok (.count 1), ⟨.savepoint () nested, b₃⟩))
  have h₄ := h₃.of_act nofun
    (rfl : act connection .rollback _ =
      (.error (.timeout (.ofMillis 50)), ⟨.transaction () (idle true), b₄⟩))
  have h₅ := h₄.of_act nofun
    (rfl : act connection (.run (.exec "INSERT INTO t VALUES (1)" [])) _ =
      (.ok (.count 1), ⟨.transaction () (idle false), b₅⟩))
  have h₆ := h₅.of_act nofun (rfl : act connection .commit _ = (.ok .done, ⟨.outside, b₆⟩))
  have hcommitted : b₆.database.committed = [⟨5, "INSERT INTO t VALUES (1)", []⟩] := rfl
  have hx := h₆.discarded_not_committed ⟨2, "DELETE FROM t", []⟩ List.mem_cons_self
  exact ⟨_, _, _, _, h₆, List.mem_cons_self, by simp [hcommitted], hx⟩

end Transaction

end BoundSql
