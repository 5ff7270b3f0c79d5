import BoundSql.Proofs.Database.Backend
/-!
Kept work is lost in one way only. A settling that was carried out without an answer is sent again,
and the second time it goes back to an older savepoint that is still in place.
-/

namespace BoundSql

namespace Transaction

open Backend

/-- What a turn executes well on the transaction itself. It is the last request of the turn, after
that for settling if there was one. -/
def Turn.keeps (τ : Turn Backend) : List Execution :=
  match τ.before.scope, τ.action, τ.answer with
  | .transaction _ _, .run (.exec sql args), .ok _ => [⟨τ.after.world.requests - 1, sql, args⟩]
  | _, _, _ => []

def keptWork (past : List (Turn Backend)) : List Execution := past.flatMap Turn.keeps

/-- Settling was carried out twice in a row, with a statement in the work that the second time went
back to a savepoint without it. -/
inductive Overturned (x : Execution) : List (Nat × Message) → Prop
  | again {m n : Nat} {earlier : List (Nat × Message)} {committed work saved : List Execution}
      {older : List (List Execution)}
      (hd : Database.replay ((n, .batch settleSql) :: earlier) =
        ⟨committed, some ⟨work, saved :: older⟩⟩) (hx : x ∈ work) (hs : x ∉ saved) :
      Overturned x ((m, .batch settleSql) :: (n, .batch settleSql) :: earlier)
  | later (p : Nat × Message) {done : List (Nat × Message)} (h : Overturned x done) :
      Overturned x (p :: done)

def SettledLast (b : Backend) : Prop :=
  ∃ n earlier, b.done = (n, .batch settleSql) :: earlier

def Guards (d : Database) (x : Execution) : Prop :=
  ∃ committed work saved older, d = ⟨committed, some ⟨work, saved :: older⟩⟩ ∧ x ∈ saved

variable {x : Execution} {m : Message} {b b' : Backend} {ok : Bool}

theorem Overturned.number_mem {done : List (Nat × Message)} (h : Overturned x done) :
    x.number ∈ done.map Prod.fst := by
  induction h with
  | @again m n earlier committed work saved older hd hx hs =>
    have hholds : (Database.replay ((n, .batch settleSql) :: earlier)).Holds x := by
      rw [hd]
      exact .inl (Database.works_some.mpr hx)
    exact List.mem_cons_of_mem m (Database.number_mem_of_holds hholds)
  | later p h ih => exact List.mem_cons_of_mem p.1 ih

theorem Overturned.of_handled (h : Overturned x b'.done) (hh : Handled m b ok b') :
    Overturned x b.done ∨ m = .batch settleSql ∧ SettledLast b ∧
      ∃ committed work saved older, b.database = ⟨committed, some ⟨work, saved :: older⟩⟩ ∧
        x ∈ work ∧ x ∉ saved := by
  cases hh with
  | skipped => exact .inl h
  | taken hm hd =>
    have hcons : Overturned x ((b.requests, m) :: b.done) := h
    generalize hdone : b.done = done at hcons
    cases hcons with
    | @again _ n earlier committed work saved older hreplay hx hs =>
      have hd : b.database = ⟨committed, some ⟨work, saved :: older⟩⟩ := by
        rw [database, hdone]
        exact hreplay
      exact .inr ⟨rfl, ⟨n, earlier, hdone⟩, committed, work, saved, older, hd, hx, hs⟩
    | later p h => exact .inl h

structure Intact (x : Execution) (b : Backend) : Prop where
  kept : ¬ Overturned x b.done
  uncommitted : x ∉ b.database.committed

structure Lost (x : Execution) (b : Backend) : Prop where
  overturned : Overturned x b.done
  gone : ¬ b.database.Holds x

theorem Lost.handled (h : Lost x b) (hh : Handled m b ok b') : Lost x b' := by
  cases hh with
  | skipped => exact ⟨h.overturned, h.gone⟩
  | @taken _ d hm hd =>
    refine ⟨.later _ h.overturned, ?_⟩
    rw [hd]
    cases m with
    | batch sql =>
      exact Database.of_batch (P := fun d => ¬ d.Holds x)
        (fun hrun hx hx' => hx (Database.Command.holds_of_run hrun hx')) hm h.gone
    | statement sql args =>
      cases hm
      intro hx
      rcases Database.holds_execute hx with hx | rfl
      · exact h.gone hx
      -- a statement that was overturned was sent before, so it is not the one executed now
      · obtain ⟨p, hp, hnumber⟩ := List.mem_map.mp h.overturned.number_mem
        have hlt := b.numbered p hp
        simp only at hnumber
        omega

theorem Lost.leads (h : Lost x b) (hl : Leads b b') : Lost x b' := by
  induction hl with
  | refl => exact h
  | request _ hh ih => exact ih.handled hh

theorem Intact.of_handled (h : Intact x b) (hh : Handled m b ok b')
    (hm : m ≠ .batch settleSql) (hc : x ∈ b'.database.committed → x ∈ b.database.committed) :
    Intact x b' := by
  refine ⟨fun hover => ?_, fun hx => h.uncommitted (hc hx)⟩
  rcases hover.of_handled hh with hover | ⟨hsettle, -⟩
  · exact h.kept hover
  · exact hm hsettle

/-- Where a statement is while the savepoint is abandoned: still kept by the savepoint, or back in
the work because the settling was carried out without an answer. -/
def Recoverable (x : Execution) (b : Backend) : Prop :=
  ¬ SettledLast b ∧ Guards b.database x ∨ SettledLast b ∧ b.database.Works x

theorem guards_iff {committed work saved : List Execution} {older : List (List Execution)} :
    Guards ⟨committed, some ⟨work, saved :: older⟩⟩ x ↔ x ∈ saved := by
  constructor
  · rintro ⟨_, _, _, _, hd, hx⟩
    cases hd
    exact hx
  · intro hx
    exact ⟨committed, work, saved, older, rfl, hx⟩

theorem Intact.lost {committed work saved : List Execution} {older : List (List Execution)}
    (h : Intact x b) (hlast : SettledLast b)
    (hb : b.database = ⟨committed, some ⟨work, saved :: older⟩⟩) (hx : x ∈ work) (hs : x ∉ saved)
    (hd : (b.take (.batch settleSql)).database = ⟨committed, some ⟨saved, older⟩⟩) :
    Lost x (b.take (.batch settleSql)) := by
  obtain ⟨n, earlier, hdone⟩ := hlast
  have hreplay : Database.replay ((n, .batch settleSql) :: earlier) =
      ⟨committed, some ⟨work, saved :: older⟩⟩ := by
    rw [← hdone]
    exact hb
  refine ⟨?_, ?_⟩
  · have hover := Overturned.again (m := b.requests) hreplay hx hs
    rw [← hdone] at hover
    exact hover
  · have hnested := Database.nested_replay b.done
    have huncommitted := h.uncommitted
    rw [hb] at huncommitted
    rw [show Database.replay b.done = _ from hb, Database.nested_some] at hnested
    -- the older savepoints hold no more than the one that is restored
    have holder := (List.pairwise_cons.mp (List.pairwise_cons.mp hnested).2).1
    rw [hd]
    rintro (hworks | hsaves)
    · exact hs (Database.works_some.mp hworks)
    · rcases Database.saves_some.mp hsaves with hc | ⟨w, hw, hx'⟩
      · exact huncommitted hc
      · exact hs (holder w hw hx')

/-- Settling brings a statement back, unless it is carried out a second time. -/
theorem Intact.settle (h : Intact x b) (hr : Recoverable x b)
    (hh : Handled (.batch settleSql) b ok b') :
    Lost x b' ∨ Intact x b' ∧ Recoverable x b' ∧ (ok = true → b'.database.Works x) := by
  have hover : Overturned x b'.done → Overturned x b.done ∨ _ := fun h => h.of_handled hh
  cases hh with
  | skipped => exact .inr ⟨⟨h.kept, h.uncommitted⟩, hr, fun h => nomatch h⟩
  | @taken _ d hm hd =>
    obtain ⟨committed, work, saved, older, hb, rfl⟩ := Database.of_batch_settle hm
    by_cases hx : x ∈ saved
    -- however often it has been settled, work with the statement in it is restored
    · have hworks : (b.take (.batch settleSql)).database.Works x := by
        rw [hd]
        exact Database.works_some.mpr hx
      have hintact : Intact x (b.take (.batch settleSql)) := by
        refine ⟨?_, ?_⟩
        · intro hover'
          rcases hover hover' with hover' | ⟨-, -, c, w, s, o, hb', -, hs⟩
          · exact h.kept hover'
          · rw [hb] at hb'
            cases hb'
            exact hs hx
        · have huncommitted := h.uncommitted
          rw [hb] at huncommitted
          rwa [hd]
      exact .inr ⟨hintact, .inr ⟨⟨b.requests, b.done, rfl⟩, hworks⟩, fun _ => hworks⟩
    -- only a second settling meets a savepoint without the statement
    · rcases hr with ⟨-, hguards⟩ | ⟨hlast, hworks⟩
      · rw [hb, guards_iff] at hguards
        exact absurd hguards hx
      · rw [hb, Database.works_some] at hworks
        exact .inl (h.lost hlast hb hworks hx hd)

theorem not_settledLast_take (hm : m ≠ .batch settleSql) : ¬ SettledLast (b.take m) := by
  rintro ⟨n, earlier, hdone⟩
  obtain ⟨hp, -⟩ := List.cons.inj hdone
  exact hm (Prod.mk.inj hp).2

theorem batch_ne_settle {sql : String} (h : sql ≠ settleSql) :
    Message.batch sql ≠ .batch settleSql := by
  simpa using h

theorem Intact.savepoint (h : Intact x b) (hx : b.database.Works x)
    (hh : Handled (.batch savepointSql) b ok b') :
    Intact x b' ∧ b'.database.Works x ∧ (ok = true → ¬ SettledLast b' ∧ Guards b'.database x) := by
  have hne : Message.batch savepointSql ≠ .batch settleSql := batch_ne_settle (by decide)
  have hsame := h.of_handled hh hne
  cases hh with
  | skipped => exact ⟨⟨h.kept, h.uncommitted⟩, hx, fun h => nomatch h⟩
  | @taken _ d hm hd =>
    simp only [Message.apply, Database.batch_savepoint] at hm
    obtain ⟨committed, k, hb, rfl⟩ := Database.of_run_savepoint hm
    rw [hb, Database.works_some] at hx
    rw [hb, hd] at hsame
    rw [hd]
    exact ⟨hsame id, Database.works_some.mpr hx,
      fun _ => ⟨not_settledLast_take hne, guards_iff.mpr hx⟩⟩

theorem Intact.release (h : Intact x b) (hx : b.database.Works x)
    (hh : Handled (.batch releaseSql) b ok b') : Intact x b' ∧ b'.database.Works x := by
  have hsame := h.of_handled hh (batch_ne_settle (by decide))
  cases hh with
  | skipped => exact ⟨⟨h.kept, h.uncommitted⟩, hx⟩
  | @taken _ d hm hd =>
    simp only [Message.apply, Database.batch_release] at hm
    obtain ⟨committed, work, saved, older, hb, rfl⟩ := Database.of_run_release hm
    rw [hb, Database.works_some] at hx
    rw [hb, hd] at hsame
    rw [hd]
    exact ⟨hsame id, Database.works_some.mpr hx⟩

theorem Intact.rollbackTo (h : Intact x b) (hl : ¬ SettledLast b) (hg : Guards b.database x)
    (hh : Handled (.batch rollbackToSql) b ok b') :
    Intact x b' ∧ ¬ SettledLast b' ∧ Guards b'.database x ∧ (ok = true → b'.database.Works x) := by
  have hne : Message.batch rollbackToSql ≠ .batch settleSql := batch_ne_settle (by decide)
  have hsame := h.of_handled hh hne
  cases hh with
  | skipped => exact ⟨⟨h.kept, h.uncommitted⟩, hl, hg, fun h => nomatch h⟩
  | @taken _ d hm hd =>
    simp only [Message.apply, Database.batch_rollbackTo] at hm
    obtain ⟨committed, work, saved, older, hb, rfl⟩ := Database.of_run_rollbackTo hm
    rw [hb, guards_iff] at hg
    rw [hb, hd] at hsame
    rw [hd]
    exact ⟨hsame id, not_settledLast_take hne, guards_iff.mpr hg,
      fun _ => Database.works_some.mpr hg⟩

theorem Intact.commit (h : Intact x b) (hx : b.database.Works x)
    (hh : Handled (.batch "COMMIT") b true b') :
    ¬ Overturned x b'.done ∧ x ∈ b'.database.committed := by
  have hne : Message.batch "COMMIT" ≠ .batch settleSql := batch_ne_settle (by decide)
  refine ⟨?_, ?_⟩
  · intro hover
    rcases hover.of_handled hh with hover | ⟨hsettle, -⟩
    · exact h.kept hover
    · exact hne hsettle
  · rcases hh.of_batch with ⟨hok, -⟩ | hd
    · cases hok
    · rw [Database.batch_commit] at hd
      obtain ⟨k, hk, hx⟩ := hx
      rcases hb : b.database with ⟨committed, _ | k'⟩
      · simp [hb] at hk
      · obtain rfl : k' = k := by simpa [hb] using hk
        rw [hb] at hd
        have hd' : ⟨committed ++ k'.work, none⟩ = b'.database := Option.some.inj hd
        rw [← hd']
        exact List.mem_append_right _ hx

theorem Intact.run {q : Run} (h : Intact x b) (ho : Opened b) (hh : Handled q.message b ok b') :
    Intact x b' ∧ (b.database.Works x → b'.database.Works x) ∧
      (¬ SettledLast b → ¬ SettledLast b') ∧ (Guards b.database x → Guards b'.database x) := by
  have hne : q.message ≠ .batch settleSql := by cases q <;> simp [Run.message]
  have hsame := h.of_handled hh hne
  cases hh with
  | skipped => exact ⟨⟨h.kept, h.uncommitted⟩, id, id, id⟩
  | @taken _ d hm hd =>
    rw [Run.message_apply, Option.some.injEq] at hm
    subst hm
    rcases hb : b.database with ⟨committed, _ | k⟩
    · simp [Opened, hb] at ho
    · rw [hb] at hd hsame
      rw [hd] at hsame ⊢
      refine ⟨hsame id, ?_, fun _ => not_settledLast_take hne, ?_⟩
      · intro hx
        exact Database.works_some.mpr (List.mem_append_left _ (Database.works_some.mp hx))
      -- statements leave the savepoints as they are
      · rintro ⟨c, work, saved, older, hk, hx⟩
        cases hk
        exact guards_iff.mpr hx

theorem intact_execution {q : Run} (ho : Opened b) (hh : Handled q.message b true b') :
    Intact (q.execution b.requests) b' ∧ b'.database.Works (q.execution b.requests) := by
  have hnew := not_holds_execution q b
  have hne : q.message ≠ .batch settleSql := by cases q <;> simp [Run.message]
  have hkept : ¬ Overturned (q.execution b.requests) b.done := by
    intro hover
    obtain ⟨p, hp, hnumber⟩ := List.mem_map.mp hover.number_mem
    have hlt := b.numbered p hp
    rw [Run.execution_number] at hnumber
    omega
  have hintact : Intact (q.execution b.requests) b := ⟨hkept, fun hx => hnew (.inr (.inl hx))⟩
  have hsame := hintact.of_handled hh hne
  cases hh with
  | @taken _ d hm hd =>
    rw [Run.message_apply, Option.some.injEq] at hm
    subst hm
    rcases hb : b.database with ⟨committed, _ | k⟩
    · simp [Opened, hb] at ho
    · rw [hb] at hd hsame
      rw [hd] at hsame ⊢
      exact ⟨hsame id, Database.works_some.mpr (List.mem_append_right _ List.mem_cons_self)⟩

def Safe (x : Execution) : State Unit Backend → Prop
  | ⟨.outside, _⟩ => True
  | ⟨.transaction _ t, b⟩ =>
    Intact x b ∧ if t.savepointAbandoned then Recoverable x b else b.database.Works x
  | ⟨.savepoint _ _, b⟩ =>
    Intact x b ∧ ¬ SettledLast b ∧ Guards b.database x ∧ b.database.Works x

theorem safe_settling {abandoned : Bool} (h : Safe x ⟨.transaction () (idle abandoned), b⟩)
    (hs : settling connection abandoned b = (.ok (), b')) :
    Lost x b' ∨ Intact x b' ∧ b'.database.Works x := by
  obtain ⟨hi, hx⟩ := h
  cases abandoned with
  | false =>
    cases hs
    exact .inr ⟨hi, hx⟩
  | true =>
    rcases hi.settle hx (handled_send hs) with hl | ⟨hi', -, hx'⟩
    · exact .inl hl
    · exact .inr ⟨hi', hx' rfl⟩

/-- No move takes a statement away, but one that settles a second time. -/
theorem Moves.safe {s s' : State Unit Backend} {a : Action} {r : Except Error Answer}
    (hm : Moves connection s a r s') (ho : Ongoing s) (h : Safe x s) :
    Lost x s'.world ∨ Safe x s' := by
  cases hm with
  | unsettled ha hs =>
    obtain ⟨hi, hr⟩ := h
    rcases hi.settle hr (handled_send hs) with hl | ⟨hi', hr', -⟩
    · exact .inl hl
    · exact .inr ⟨hi', hr'⟩
  | @run _ q _ _ hs =>
    obtain ⟨ok, hh, -⟩ := handled_run q _
    rcases safe_settling h hs with hl | ⟨hi, hx⟩
    · exact .inl (hl.handled hh)
    · obtain ⟨hi', hx', -⟩ := hi.run ((ho nofun).settling hs) hh
      exact .inr ⟨hi', hx' hx⟩
  | refused hs hb =>
    rcases safe_settling h hs with hl | ⟨hi, hx⟩
    · exact .inl (hl.handled (handled_send hb))
    · obtain ⟨hi', hx', -⟩ := hi.savepoint hx (handled_send hb)
      exact .inr ⟨hi', hx'⟩
  | begun hs hb =>
    rcases safe_settling h hs with hl | ⟨hi, hx⟩
    · exact .inl (hl.handled (handled_send hb))
    · obtain ⟨hi', hx', hguard⟩ := hi.savepoint hx (handled_send hb)
      obtain ⟨hlast, hg⟩ := hguard rfl
      exact .inr ⟨hi', hlast, hg, hx'⟩
  | undone | committed | rolledBack | dropped => exact .inr trivial
  | described => exact .inr h
  | @nestedRun q b =>
    obtain ⟨hi, hlast, hg, hx⟩ := h
    obtain ⟨ok, hh, -⟩ := handled_run q b
    obtain ⟨hi', hx', hlast', hg'⟩ := hi.run (ho nofun) hh
    exact .inr ⟨hi', hlast' hlast, hg' hg, hx' hx⟩
  | nestedBegin => exact .inr h
  | nestedCommit ha hb =>
    obtain ⟨hi, -, -, hx⟩ := h
    exact .inr (hi.release hx (handled_send hb))
  | @nestedRollback _ _ _ r ha hb =>
    obtain ⟨hi, hlast, hg, -⟩ := h
    obtain ⟨hi', hlast', hg', hx'⟩ := hi.rollbackTo hlast hg (handled_send hb)
    cases r with
    | ok _ => exact .inr ⟨hi', hx' rfl⟩
    | error e => exact .inr ⟨hi', .inl ⟨hlast', hg'⟩⟩
  | nestedDrop =>
    obtain ⟨hi, hlast, hg, -⟩ := h
    exact .inr ⟨hi, .inl ⟨hlast, hg⟩⟩
  | nestedDescribe => exact .inr h

theorem mem_keeps {τ : Turn Backend} (h : x ∈ τ.keeps) :
    ∃ t sql args answer, τ.before.scope = .transaction () t ∧ τ.action = .run (.exec sql args) ∧
      τ.answer = .ok answer ∧ x = ⟨τ.after.world.requests - 1, sql, args⟩ := by
  unfold Turn.keeps at h
  split at h
  next t sql args answer hscope haction hanswer =>
    exact ⟨t, sql, args, answer, hscope, haction, hanswer, List.mem_singleton.mp h⟩
  next => cases h

theorem Moves.keeps {s s' : State Unit Backend} {a : Action} {r : Except Error Answer}
    (hm : Moves connection s a r s') (ho : Ongoing s) (hx : x ∈ Turn.keeps ⟨s, a, r, s'⟩) :
    Safe x s' := by
  obtain ⟨t, sql, args, answer, hscope, rfl, rfl, rfl⟩ := mem_keeps hx
  generalize hr : Except.ok answer = r at hm
  cases hm with
  | @run _ _ w w₁ hs =>
    obtain ⟨ok, hh, hok⟩ := handled_run (.exec sql args) w₁
    obtain rfl := hok (by rw [← hr]; rfl)
    have hnumber : (connection.run (.exec sql args) w₁).2.requests - 1 = w₁.requests := by
      rw [hh.requests_eq]
      omega
    rw [hnumber]
    exact intact_execution ((ho nofun).settling hs) hh
  | unsettled => cases hr
  | nestedRun => cases hscope
  | undone ha | committed ha | rolledBack ha | nestedCommit ha | nestedRollback ha => cases ha

theorem Course.safe {w₀ : Backend} {past : List (Turn Backend)} {s : State Unit Backend}
    (h : Course connection w₀ past s) :
    ∀ x ∈ keptWork past, Lost x s.world ∨ Safe x s := by
  refine h.invariant (P := fun past s => ∀ x ∈ keptWork past, Lost x s.world ∨ Safe x s) ?_ ?_
  · intro o w _ x hx
    cases hx
  · intro past s a r s' hc ih hm x hx
    rcases List.mem_append.mp hx with hx | hx
    · exact .inr (hm.keeps (ongoing_course hc) hx)
    · rcases ih x hx with hl | hs
      · exact .inl (hl.leads (leads_of_moves hm))
      · exact hm.safe (ongoing_course hc) hs

/-- Work kept on the transaction is committed unless it was overturned. -/
theorem Course.committed_iff_not_overturned {w₀ : Backend} {τ : Turn Backend}
    {past : List (Turn Backend)} {s : State Unit Backend} {t : Transaction} {answer : Answer}
    (h : Course connection w₀ (τ :: past) s) (ht : τ.before.scope = .transaction () t)
    (ha : τ.action.commits = true) (hr : τ.answer = .ok answer) :
    ∀ x ∈ keptWork past, x ∈ s.world.database.committed ↔ ¬ Overturned x s.world.done := by
  intro x hx
  obtain ⟨hpast, hm, rfl⟩ := h.moves
  have hstands := hpast.safe x hx
  obtain ⟨abandoned, b, b₁, b₂, hbefore, hafter, hs, he⟩ := hm.of_commits ht ha hr
  rw [hbefore] at hstands
  rw [hafter]
  have hh := handled_ending he
  have hsettled : Lost x b₁ ∨ Intact x b₁ ∧ b₁.database.Works x := by
    rcases hstands with hl | hsafe
    · exact .inl (hl.leads (.settling hs))
    · exact safe_settling hsafe hs
  rcases hsettled with hl | ⟨hi, hworks⟩
  · obtain ⟨hover, hgone⟩ := hl.handled hh
    exact ⟨fun hc => absurd (.inr (.inl hc)) hgone, fun hkept => absurd hover hkept⟩
  · obtain ⟨hkept, hcommitted⟩ := hi.commit hworks hh
    exact ⟨fun _ => hkept, fun _ => hcommitted⟩

theorem kept_work_survives_lost_settling :
    ∃ (w₀ : Backend) (past : List (Turn Backend)) (s : State Unit Backend) (x : Execution),
      Course connection w₀ past s ∧ x ∈ keptWork past ∧ ¬ Overturned x s.world.done ∧
        x ∈ s.world.database.committed := by
  let fates := servedBut 4 (.lost (.timeout (.ofMillis 50)))
  let b₁ := (fresh fates).take (.batch TransactionOptions.default.beginSql)
  let b₂ := b₁.take (.statement "INSERT INTO t VALUES (1)" [])
  let b₃ := b₂.take (.batch savepointSql)
  let b₄ := b₃.take (.statement "DELETE FROM t" [])
  let b₅ := b₄.skip
  let b₇ := (b₅.take (.batch settleSql)).take (.batch "COMMIT")
  have hstart : start connection .default (fresh fates) = (.ok (idle false), b₁) := rfl
  have h₁ := Course.start hstart
  have h₂ := h₁.of_act nofun
    (rfl : act connection (.run (.exec "INSERT INTO t VALUES (1)" [])) _ =
      (.ok (.count 1), ⟨.transaction () (idle false), b₂⟩))
  have h₃ := h₂.of_act nofun
    (rfl : act connection (.begin .default) _ = (.ok .done, ⟨.savepoint () nested, b₃⟩))
  have h₄ := h₃.of_act nofun
    (rfl : act connection (.run (.exec "DELETE FROM t" [])) _ =
      (.ok (.count 1), ⟨.savepoint () nested, b₄⟩))
  have h₅ := h₄.of_act nofun
    (rfl : act connection .drop _ = (.ok .done, ⟨.transaction () (idle true), b₄⟩))
  have h₆ := h₅.of_act nofun
    (rfl : act connection (.run (.exec "SELECT 1" [])) _ =
      (.error (.timeout (.ofMillis 50)), ⟨.transaction () (idle true), b₅⟩))
  have h₇ := h₆.of_act nofun (rfl : act connection .commit _ = (.ok .done, ⟨.outside, b₇⟩))
  have hcommitted : b₇.database.committed = [⟨1, "INSERT INTO t VALUES (1)", []⟩] := rfl
  have hiff := h₇.committed_iff_not_overturned rfl rfl rfl ⟨1, "INSERT INTO t VALUES (1)", []⟩
    (by simp [keptWork, Turn.keeps, b₂, b₁, take, fresh])
  refine ⟨_, _, _, ⟨1, "INSERT INTO t VALUES (1)", []⟩, h₇, ?_, hiff.mp ?_, ?_⟩
  · simp [keptWork, Turn.keeps, b₂, b₁, take, fresh]
  · simp [hcommitted]
  · simp [hcommitted]

/-- A savepoint that was rolled back to stays in place below the next one. When that is abandoned,
and the settling times out, the second settling goes back past what was executed between them. -/
theorem kept_work_can_be_lost :
    ∃ (w₀ : Backend) (τ : Turn Backend) (past : List (Turn Backend)) (s : State Unit Backend)
      (t : Transaction) (x : Execution),
      Course connection w₀ (τ :: past) s ∧ τ.before.scope = .transaction () t ∧
        τ.action = .commit ∧ τ.answer = .ok .done ∧ x ∈ keptWork past ∧
        x ∉ s.world.database.committed := by
  let fates := servedBut 5 (.unanswered (.timeout (.ofMillis 50)))
  let b₁ := (fresh fates).take (.batch TransactionOptions.default.beginSql)
  let b₂ := b₁.take (.batch savepointSql)
  let b₃ := b₂.take (.batch rollbackToSql)
  let b₄ := b₃.take (.statement "INSERT INTO t VALUES (1)" [])
  let b₅ := b₄.take (.batch savepointSql)
  let b₆ := b₅.take (.batch settleSql)
  let b₈ := (b₆.take (.batch settleSql)).take (.batch "COMMIT")
  have hstart : start connection .default (fresh fates) = (.ok (idle false), b₁) := rfl
  have h₁ := Course.start hstart
  have h₂ := h₁.of_act nofun
    (rfl : act connection (.begin .default) _ = (.ok .done, ⟨.savepoint () nested, b₂⟩))
  have h₃ := h₂.of_act nofun
    (rfl : act connection .rollback _ = (.ok .done, ⟨.transaction () (idle false), b₃⟩))
  have h₄ := h₃.of_act nofun
    (rfl : act connection (.run (.exec "INSERT INTO t VALUES (1)" [])) _ =
      (.ok (.count 1), ⟨.transaction () (idle false), b₄⟩))
  have h₅ := h₄.of_act nofun
    (rfl : act connection (.begin .default) _ = (.ok .done, ⟨.savepoint () nested, b₅⟩))
  have h₆ := h₅.of_act nofun
    (rfl : act connection .drop _ = (.ok .done, ⟨.transaction () (idle true), b₅⟩))
  have h₇ := h₆.of_act nofun
    (rfl : act connection (.run (.exec "SELECT 1" [])) _ =
      (.error (.timeout (.ofMillis 50)), ⟨.transaction () (idle true), b₆⟩))
  have h₈ := h₇.of_act nofun (rfl : act connection .commit _ = (.ok .done, ⟨.outside, b₈⟩))
  refine ⟨_, _, _, _, idle true, ⟨3, "INSERT INTO t VALUES (1)", []⟩, h₈, rfl, rfl, rfl, ?_, ?_⟩
  · simp [keptWork, Turn.keeps, b₄, b₃, b₂, b₁, take, fresh]
  · have hcommitted : b₈.database.committed = [] := rfl
    simp [hcommitted]

end Transaction

end BoundSql
