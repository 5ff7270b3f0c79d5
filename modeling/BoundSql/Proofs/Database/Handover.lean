import BoundSql.Proofs.Database.Kept
import BoundSql.Proofs.Transaction.Settling

namespace BoundSql

namespace Seen

open Transaction

/-- A savepoint is gone, and it is left to the transaction to undo it. -/
inductive HandsOver : Seen → Prop
  | dropped : HandsOver (.noted (.abandoned .savepoint))
  | unrolled (e : Error) : HandsOver (.batch rollbackToSql (.error e))

/-- A savepoint is gone. -/
inductive EndsSavepoint : Seen → Prop
  | dropped : EndsSavepoint (.noted (.abandoned .savepoint))
  | rolledBack (r : Except Error Unit) : EndsSavepoint (.batch rollbackToSql r)
  | released (r : Except Error Unit) : EndsSavepoint (.batch releaseSql r)

/-- Nothing but settling batches and a last `ROLLBACK` is sent before a settling has succeeded. -/
def SettlesNext (later : List Seen) : Prop :=
  ∀ before x after, later = before ++ x :: after → .batch settleSql (.ok ()) ∉ before →
    x.Permitted

theorem HandsOver.pendingAfter {x : Seen} (hx : x.HandsOver) (p : Bool) :
    pendingAfter p x = true := by
  cases hx with
  | dropped => rfl
  | unrolled e => simp [Seen.pendingAfter]

theorem pendingAfter_true {x : Seen} (hx : x ≠ .batch settleSql (.ok ())) :
    pendingAfter true x = true := by
  unfold pendingAfter
  split
  next => rfl
  next => exact ite_self _
  next sql => exact if_neg fun hsql => hx (by rw [hsql])
  next => rfl

/-- A savepoint goes on waiting until a settling has succeeded. -/
theorem pending_append {log more : List Seen} (h : pending log = true)
    (hm : .batch settleSql (.ok ()) ∉ more) : pending (log ++ more) = true := by
  induction more generalizing log with
  | nil => simpa using h
  | cons x more ih =>
    have hx : x ≠ .batch settleSql (.ok ()) := fun hx => hm (hx ▸ List.mem_cons_self)
    have hlog : pending (log ++ [x]) = true := by
      rw [pending_concat, h]
      exact pendingAfter_true hx
    simpa using ih hlog fun hmore => hm (List.mem_cons_of_mem x hmore)

theorem Lawful.settlesNext {log earlier later : List Seen} {x : Seen} (h : Lawful log)
    (hlog : log = earlier ++ x :: later) (hx : x.HandsOver) : SettlesNext later := by
  intro before y after hlater hbefore
  have hp : pending (earlier ++ [x]) = true := by
    rw [pending_concat]
    exact hx.pendingAfter _
  refine h (earlier ++ [x] ++ before) y after ?_ (pending_append hp hbefore)
  simp [hlog, hlater]

/-- Nothing waits when a savepoint is released, and a release that fails does not change that. -/
theorem Lawful.pending_released {log : List Seen} {r : Except Error Unit}
    (h : Lawful (log ++ [.batch releaseSql r])) :
    pending (log ++ [.batch releaseSql r]) = false := by
  have hne : releaseSql ≠ settleSql ∧ releaseSql ≠ "ROLLBACK" ∧ releaseSql ≠ rollbackToSql := by
    decide
  have hp : pending log = false := by
    refine Bool.eq_false_iff.mpr fun hp => ?_
    rcases h log _ [] rfl hp with hsql | hsql
    · exact hne.1 hsql
    · exact hne.2.1 hsql
  rw [pending_concat, hp]
  rcases r with e | _
  · simp [Seen.pendingAfter, hne]
  · simp [Seen.pendingAfter, hne]

end Seen

namespace Transaction

open Seen Backend

section Trace

variable {σ : Type} {c : Connection σ}

section Untraced

variable {v v' : σ × List Seen} {step sql : String} {r : Except Error Unit}

theorem of_send_traced (hs : send c.traced step sql v = (r, v')) :
    send c step sql v.1 = (r, v'.1) := by
  rw [send_traced] at hs
  obtain ⟨rfl, rfl⟩ := Prod.mk.inj hs
  rfl

theorem of_settling_traced {b : Bool} (hs : settling c.traced b v = (r, v')) :
    settling c b v.1 = (r, v'.1) := by
  cases b with
  | false =>
    cases hs
    rfl
  | true => exact of_send_traced hs

theorem of_ending_traced (he : ending c.traced sql v = (r, v')) :
    ending c sql v.1 = (r, v'.1) := by
  rw [ending_traced] at he
  obtain ⟨rfl, rfl⟩ := Prod.mk.inj he
  rfl

end Untraced

/-- The state without the log. -/
def plain (s : State Unit (σ × List Seen)) : State Unit σ := ⟨s.scope, s.world.1⟩

/-- Being watched changes no move. -/
theorem Moves.untraced {s s' : State Unit (σ × List Seen)} {a : Action} {r : Except Error Answer}
    (hm : Moves c.traced s a r s') : Moves c (plain s) a r (plain s') := by
  cases hm with
  | unsettled ha hs => exact .unsettled ha (of_settling_traced hs)
  | run hs =>
    rw [run_traced]
    exact .run (of_settling_traced hs)
  | refused hs hb => exact .refused (of_settling_traced hs) (of_send_traced hb)
  | begun hs hb => exact .begun (of_settling_traced hs) (of_send_traced hb)
  | undone ha hs he => exact .undone ha (of_settling_traced hs) (of_ending_traced he)
  | committed ha hs he => exact .committed ha (of_settling_traced hs) (of_ending_traced he)
  | rolledBack ha he => exact .rolledBack ha (of_ending_traced he)
  | dropped => exact .dropped
  | described => exact .described
  | nestedRun =>
    rw [run_traced]
    exact .nestedRun
  | nestedBegin => exact .nestedBegin
  | nestedCommit ha hb => exact .nestedCommit ha (of_send_traced hb)
  | nestedRollback ha hb => exact .nestedRollback ha (of_send_traced hb)
  | nestedDrop => exact .nestedDrop
  | nestedDescribe => exact .nestedDescribe

theorem Moves.endsSavepoint {s s' : State Unit (σ × List Seen)} {a : Action}
    {r : Except Error Answer} (hm : Moves c.traced s a r s') {t t' : Transaction}
    (hs : s.scope = .savepoint () t) (hs' : s'.scope = .transaction () t') :
    ∃ log x, s'.world.2 = log ++ [x] ∧ x.EndsSavepoint := by
  cases hm with
  | nestedCommit ha hb =>
    rw [send_traced] at hb
    obtain ⟨-, rfl⟩ := Prod.mk.inj hb
    exact ⟨_, _, List.append_assoc _ [_] [_] |>.symm, .released _⟩
  | nestedRollback ha hb =>
    rw [send_traced] at hb
    obtain ⟨-, rfl⟩ := Prod.mk.inj hb
    exact ⟨_, _, List.append_assoc _ [_] [_] |>.symm, .rolledBack _⟩
  | nestedDrop => exact ⟨_, _, rfl, .dropped⟩
  | nestedRun | nestedBegin | nestedDescribe => cases hs'
  | unsettled | run | refused | begun | undone | committed | rolledBack | dropped | described =>
    cases hs

variable (c)

/-- How the ends of savepoints show in what a connection has seen in a course, and what follows
them. -/
structure SavepointEnds (past : List (Turn (σ × List Seen))) (s : State Unit (σ × List Seen)) :
    Prop where
  seen : ∀ τ earlier t t', past = τ :: earlier → τ.before.scope = .savepoint () t →
    s.scope = .transaction () t' → ∃ log x, s.world.2 = log ++ [x] ∧ x.EndsSavepoint
  handedOver : ∀ earlier x later, s.world.2 = earlier ++ x :: later → x.HandsOver →
    SettlesNext later
  released : ∀ t w log r, s = ⟨.transaction () t, w, log ++ [.batch releaseSql r]⟩ →
    SendsOwn c t w (log ++ [.batch releaseSql r])

variable {c}

theorem Course.savepointEnds {w₀ : σ} {past : List (Turn (σ × List Seen))}
    {s : State Unit (σ × List Seen)} (h : Course c.traced (w₀, []) past s) :
    SavepointEnds c past s := by
  obtain ⟨hl, hp⟩ := h.watched
  refine ⟨?_, fun earlier x later hlog hx => hl.settlesNext hlog hx, ?_⟩
  · rintro τ earlier t t' rfl hbefore hscope
    obtain ⟨-, hm, rfl⟩ := h.moves
    exact hm.endsSavepoint hbefore hscope
  · rintro t w log r rfl
    obtain ⟨b, rfl⟩ := h.tidy.eq_idle
    obtain rfl : false = b := hl.pending_released.symm.trans (hp _ rfl)
    exact sendsOwn_idle c w _

end Trace

/-- What was executed well through the savepoint that is open, and through savepoints that were to
be committed, whatever came of their release. -/
structure Share where
  current : List Execution
  given : List Execution

def Share.turn (m : Share) (τ : Turn (Backend × List Seen)) : Share :=
  match τ.before.scope, τ.action, τ.answer with
  | .outside, _, _ => m
  | .transaction _ _, _, _ => { m with current := [] }
  | .savepoint _ _, .run r, .ok _ =>
    { m with current := r.execution τ.before.world.1.requests :: m.current }
  | .savepoint _ _, a, _ => if a.commits then { m with given := m.current ++ m.given } else m

def share : List (Turn (Backend × List Seen)) → Share
  | [] => ⟨[], []⟩
  | τ :: past => (share past).turn τ

/-- Work of an open savepoint is part of that of the block. -/
def Carried (xs : List Execution) : State Unit Backend → Prop
  | ⟨.savepoint _ _, b⟩ => ∀ x ∈ xs, Intact x b ∧ b.database.Works x
  | _ => True

variable {m : Share} {s s' : State Unit (Backend × List Seen)} {a : Action}
  {r : Except Error Answer} {x : Execution}

theorem carried_run {xs : List Execution} {q : Run} {b : Backend} (ho : Opened b)
    (h : Carried xs ⟨.savepoint () nested, b⟩) :
    Carried xs ⟨.savepoint () nested, (connection.run q b).2⟩ := by
  obtain ⟨ok, hh, -⟩ := handled_run q b
  intro x hx
  obtain ⟨hi, hw⟩ := h x hx
  obtain ⟨hi', hw', -⟩ := hi.run ho hh
  exact ⟨hi', hw' hw⟩

theorem Moves.carried (hm : Moves connection.traced s a r s') (ho : Ongoing (plain s))
    (h : Carried m.current (plain s)) :
    Carried (m.turn ⟨s, a, r, s'⟩).current (plain s') := by
  cases hm with
  | begun =>
    intro x hx
    cases hx
  | @nestedRun q v =>
    have hold := carried_run (q := q) (ho nofun) h
    rw [run_traced]
    obtain ⟨ok, hh, hok⟩ := handled_run q v.1
    rcases hr : (connection.run q v.1).1 with e | answer
    · exact hold
    · obtain rfl := hok (by rw [hr]; rfl)
      intro x hx
      rcases List.mem_cons.mp hx with rfl | hx
      · exact intact_execution (ho nofun) hh
      · exact hold x hx
  | nestedBegin | nestedDescribe => exact h
  | unsettled | run | refused | undone | committed | rolledBack | dropped | described
  | nestedCommit | nestedRollback | nestedDrop => exact trivial

theorem Share.given_turn (m : Share) (τ : Turn (Backend × List Seen)) :
    (m.turn τ).given = m.given ∨ (∃ t, τ.before.scope = .savepoint () t) ∧
      τ.action.commits = true ∧ (m.turn τ).given = m.current ++ m.given := by
  unfold turn
  split
  next => exact .inl rfl
  next => exact .inl rfl
  next => exact .inl rfl
  next t hscope _ =>
    split
    next ha => exact .inr ⟨⟨t, hscope⟩, ha, rfl⟩
    next => exact .inl rfl

/-- What is given to the transaction is part of its work, also if the release failed. -/
theorem Moves.given (hm : Moves connection.traced s a r s') (h : Carried m.current (plain s))
    (hx : x ∈ (m.turn ⟨s, a, r, s'⟩).given) : x ∈ m.given ∨ Safe x (plain s') := by
  rcases m.given_turn ⟨s, a, r, s'⟩ with hgiven | ⟨⟨t, hscope⟩, ha, hgiven⟩
  · rw [hgiven] at hx
    exact .inl hx
  · rw [hgiven] at hx
    refine (List.mem_append.mp hx).symm.imp_right fun hx => ?_
    cases hm with
    | nestedCommit _ hb =>
      obtain ⟨hi, hw⟩ := h x hx
      exact hi.release hw (handled_send (of_send_traced hb))
    | nestedRollback hrolls =>
      rw [Action.rollsBack_of_commits ha] at hrolls
      cases hrolls
    | nestedRun | nestedBegin | nestedDrop | nestedDescribe => cases ha
    | unsettled | run | refused | begun | undone | committed | rolledBack | dropped | described =>
      cases hscope

section Courses

variable {v₀ : Backend × List Seen} {past : List (Turn (Backend × List Seen))}

theorem Course.ongoing (h : Course connection.traced v₀ past s) : Ongoing (plain s) :=
  h.invariant (P := fun _ s => Ongoing (plain s))
    (fun hb _ => opened_of_begin (of_send_traced hb)) fun _ hs hm => ongoing_moves hm.untraced hs

theorem Course.carried (h : Course connection.traced v₀ past s) :
    Carried (share past).current (plain s) :=
  h.invariant (P := fun past s => Carried (share past).current (plain s)) (fun _ => trivial)
    fun hc hs hm => hm.carried hc.ongoing hs

theorem Course.given (h : Course connection.traced v₀ past s) :
    ∀ x ∈ (share past).given, Lost x s.world.1 ∨ Safe x (plain s) := by
  refine h.invariant
    (P := fun past s => ∀ x ∈ (share past).given, Lost x s.world.1 ∨ Safe x (plain s)) ?_ ?_
  · intro o w _ x hx
    cases hx
  · intro past s a r s' hc ih hm x hx
    rcases hm.given hc.carried hx with hx | hsafe
    · rcases ih x hx with hl | hs
      · exact .inl (hl.leads (leads_of_moves hm.untraced))
      · exact hm.untraced.safe hc.ongoing hs
    · exact .inr hsafe

end Courses

/-- A commit that is answered well keeps what stands, unless settling a second time took it away. -/
theorem Moves.committed_iff {s s' : State Unit Backend} (hm : Moves connection s a r s')
    {t : Transaction} (ht : s.scope = .transaction () t) (ha : a.commits = true) {answer : Answer}
    (hr : r = .ok answer) (hx : Lost x s.world ∨ Safe x s) :
    x ∈ s'.world.database.committed ↔ ¬ Overturned x s'.world.done := by
  obtain ⟨abandoned, b, b₁, b₂, rfl, rfl, hs, he⟩ := hm.of_commits ht ha hr
  have hsettled : Lost x b₁ ∨ Intact x b₁ ∧ b₁.database.Works x := by
    rcases hx with hl | hsafe
    · exact .inl (hl.leads (.settling hs))
    · exact safe_settling hsafe hs
  rcases hsettled with hl | ⟨hi, hw⟩
  · obtain ⟨hover, hgone⟩ := hl.handled (handled_ending he)
    exact iff_of_false (fun hc => hgone (.inr (.inl hc))) (fun hkept => hkept hover)
  · obtain ⟨hkept, hcommitted⟩ := hi.commit hw (handled_ending he)
    exact iff_of_true hcommitted hkept

/-- A savepoint that was dropped, or could not be rolled back to, is settled before anything else is
sent. After a release the transaction sends its own statements, whether it succeeded or not, and
the work of the savepoint is committed with the transaction, unless it was overturned. -/
theorem Course.handed_over_unless_released {w₀ : Backend}
    {past : List (Turn (Backend × List Seen))} {s : State Unit (Backend × List Seen)}
    (h : Course connection.traced (w₀, []) past s) :
    SavepointEnds connection past s ∧
      ∀ τ earlier t answer, past = τ :: earlier → τ.before.scope = .transaction () t →
        τ.action.commits = true → τ.answer = .ok answer → ∀ x ∈ (share earlier).given,
          x ∈ s.world.1.database.committed ↔ ¬ Overturned x s.world.1.done := by
  refine ⟨h.savepointEnds, ?_⟩
  rintro τ earlier t answer rfl ht ha hr x hx
  obtain ⟨hpast, hm, rfl⟩ := h.moves
  exact hm.untraced.committed_iff ht ha hr (hpast.given x hx)

/-- The first savepoint is dropped and the settling fails; the release of another one is lost. -/
theorem dropped_settled_and_unreleased_kept :
    (∃ (w₀ : Backend) (past : List (Turn (Backend × List Seen)))
      (s : State Unit (Backend × List Seen)) (earlier later : List Seen) (e : Error),
      Course connection.traced (w₀, []) past s ∧
        s.world.2 = earlier ++ .noted (.abandoned .savepoint) :: later ∧
        .batch settleSql (.error e) ∈ later ∧ SettlesNext later) ∧
    ∃ (w₀ : Backend) (past : List (Turn (Backend × List Seen)))
      (s : State Unit (Backend × List Seen)) (x : Execution) (e : Error),
      Course connection.traced (w₀, []) past s ∧ .batch releaseSql (.error e) ∈ s.world.2 ∧
        x ∈ (share past).given ∧ x ∈ s.world.1.database.committed ∧
        ¬ Overturned x s.world.1.done := by
  let e : Error := .timeout (.ofMillis 50)
  let log₁ := sent "begin" TransactionOptions.default.beginSql (.ok ())
  let log₂ := log₁ ++ sent "savepoint" savepointSql (.ok ())
  constructor
  · let b₁ := (fresh (servedBut 2 (.lost e))).take (.batch TransactionOptions.default.beginSql)
    let b₂ := b₁.take (.batch savepointSql)
    have hstart : start connection.traced .default (fresh (servedBut 2 (.lost e)), []) =
        (.ok (idle false), b₁, log₁) := rfl
    have h₁ := Course.start hstart
    have h₂ := h₁.of_act (by simp)
      (rfl : act connection.traced (.begin .default) _ =
        (.ok .done, ⟨.savepoint () nested, b₂, log₂⟩))
    have h₃ := h₂.of_act (by simp)
      (rfl : act connection.traced .drop _ =
        (.ok .done, ⟨.transaction () (idle true), b₂, log₂ ++ [.noted (.abandoned .savepoint)]⟩))
    have h₄ := h₃.of_act (by simp)
      (rfl : act connection.traced (.run (.exec "SELECT 1" [])) _ =
        (.error e, ⟨.transaction () (idle true), b₂.skip,
          log₂ ++ [.noted (.abandoned .savepoint)] ++ settlement (.error e)⟩))
    have hnext := h₄.handed_over_unless_released.1.handedOver log₂ _ (settlement (.error e)) rfl
      .dropped
    exact ⟨_, _, _, log₂, settlement (.error e), e, h₄, rfl, by simp [settlement, sent], hnext⟩
  · let b₁ := (fresh (servedBut 3 (.lost e))).take (.batch TransactionOptions.default.beginSql)
    let b₂ := b₁.take (.batch savepointSql)
    let b₃ := b₂.take (.statement "INSERT INTO t VALUES (1)" [])
    let b₅ := b₃.skip.take (.batch "COMMIT")
    let log₃ := log₂ ++ [.exec "INSERT INTO t VALUES (1)" []]
    let log₄ := log₃ ++ sent "end savepoint" releaseSql (.error e)
    let log₅ := log₄ ++ ended "COMMIT" (.ok ())
    have hstart : start connection.traced .default (fresh (servedBut 3 (.lost e)), []) =
        (.ok (idle false), b₁, log₁) := rfl
    have h₁ := Course.start hstart
    have h₂ := h₁.of_act (by simp)
      (rfl : act connection.traced (.begin .default) _ =
        (.ok .done, ⟨.savepoint () nested, b₂, log₂⟩))
    have h₃ := h₂.of_act (by simp)
      (rfl : act connection.traced (.run (.exec "INSERT INTO t VALUES (1)" [])) _ =
        (.ok (.count 1), ⟨.savepoint () nested, b₃, log₃⟩))
    have h₄ := h₃.of_act (by simp)
      (rfl : act connection.traced .commit _ =
        (.error e, ⟨.transaction () (idle false), b₃.skip, log₄⟩))
    have h₅ := h₄.of_act (by simp)
      (rfl : act connection.traced .commit _ = (.ok .done, ⟨.outside, b₅, log₅⟩))
    have hcommitted : b₅.database.committed = [⟨2, "INSERT INTO t VALUES (1)", []⟩] := rfl
    have hmem : ⟨2, "INSERT INTO t VALUES (1)", []⟩ ∈ b₅.database.committed := by
      simp [hcommitted]
    have hiff := h₅.handed_over_unless_released.2 _ _ _ _ rfl rfl rfl rfl
      ⟨2, "INSERT INTO t VALUES (1)", []⟩ List.mem_cons_self
    exact ⟨_, _, _, _, e, h₅, by simp [log₅, log₄, ended, sent], List.mem_cons_self, hmem,
      hiff.mp hmem⟩

/-- The release of a savepoint is lost, so its commit is answered with an error. Nevertheless `COMMIT`
is the next statement, and it commits what was executed through the savepoint. -/
theorem unreleased_not_handed_over :
    ∃ (w₀ : Backend) (past : List (Turn (Backend × List Seen)))
      (s : State Unit (Backend × List Seen)) (earlier later : List Seen) (e : Error)
      (τ : Turn (Backend × List Seen)) (t : Transaction),
      Course connection.traced (w₀, []) past s ∧
        s.world.2 = earlier ++ .batch releaseSql (.error e) :: later ∧ ¬ SettlesNext later ∧
        τ ∈ past ∧ τ.before.scope = .savepoint () t ∧ τ.action = .run (.exec "DELETE FROM t" []) ∧
        ⟨τ.before.world.1.requests, "DELETE FROM t", []⟩ ∈ s.world.1.database.committed := by
  let e : Error := .timeout (.ofMillis 50)
  let b₁ := (fresh (servedBut 3 (.lost e))).take (.batch TransactionOptions.default.beginSql)
  let b₂ := b₁.take (.batch savepointSql)
  let b₃ := b₂.take (.statement "DELETE FROM t" [])
  let b₅ := b₃.skip.take (.batch "COMMIT")
  let log₁ := sent "begin" TransactionOptions.default.beginSql (.ok ())
  let log₂ := log₁ ++ sent "savepoint" savepointSql (.ok ())
  let log₃ := log₂ ++ [.exec "DELETE FROM t" []]
  let log₄ := log₃ ++ sent "end savepoint" releaseSql (.error e)
  let log₅ := log₄ ++ ended "COMMIT" (.ok ())
  have hstart : start connection.traced .default (fresh (servedBut 3 (.lost e)), []) =
      (.ok (idle false), b₁, log₁) := rfl
  have h₁ := Course.start hstart
  have h₂ := h₁.of_act nofun
    (rfl : act connection.traced (.begin .default) _ =
      (.ok .done, ⟨.savepoint () nested, b₂, log₂⟩))
  have h₃ := h₂.of_act nofun
    (rfl : act connection.traced (.run (.exec "DELETE FROM t" [])) _ =
      (.ok (.count 1), ⟨.savepoint () nested, b₃, log₃⟩))
  have h₄ := h₃.of_act nofun
    (rfl : act connection.traced .commit _ =
      (.error e, ⟨.transaction () (idle false), b₃.skip, log₄⟩))
  have h₅ := h₄.of_act nofun
    (rfl : act connection.traced .commit _ = (.ok .done, ⟨.outside, b₅, log₅⟩))
  have hcommitted : b₅.database.committed = [⟨2, "DELETE FROM t", []⟩] := rfl
  refine ⟨_, _, _, log₃ ++ [.noted (.transaction "end savepoint" releaseSql)],
    ended "COMMIT" (.ok ()), e, _, nested, h₅, rfl, ?_,
    List.mem_cons_of_mem _ (List.mem_cons_of_mem _ List.mem_cons_self), rfl, rfl, ?_⟩
  · intro hnext
    have hcommit := hnext [.noted (.transaction "COMMIT" "COMMIT")] (.batch "COMMIT" (.ok ())) []
      rfl (by simp)
    have hne : "COMMIT" ≠ settleSql ∧ "COMMIT" ≠ "ROLLBACK" := by decide
    rcases hcommit with hsql | hsql
    · exact hne.1 hsql
    · exact hne.2 hsql
  · change ⟨2, "DELETE FROM t", []⟩ ∈ b₅.database.committed
    simp [hcommitted]

end Transaction

end BoundSql
