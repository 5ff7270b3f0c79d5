import BoundSql.Proofs.Database.Backend
/-!
A connection is watched through the log of what it is asked to do, from which it can be told whether
a savepoint waits to be settled.
-/

namespace BoundSql

/-- What a connection can be asked to do. A batch is seen with its answer. -/
inductive Seen where
  | query (sql : String) (args : List Value)
  | exec (sql : String) (args : List Value)
  | batch (sql : String) (answer : Except Error Unit)
  | noted (e : Event)
  | abandoned

def Run.seen : Run → Seen
  | exec sql args => .exec sql args
  | query sql args | queryStream sql args | queryRow sql args => .query sql args

def Connection.traced {σ : Type} (c : Connection σ) : Connection (σ × List Seen) where
  query sql args w :=
    ((c.query sql args w.1).1, (c.query sql args w.1).2, w.2 ++ [.query sql args])
  exec sql args w := ((c.exec sql args w.1).1, (c.exec sql args w.1).2, w.2 ++ [.exec sql args])
  await time w := (c.await time w.1, w.2)
  batch sql w :=
    ((c.batch sql w.1).1, (c.batch sql w.1).2, w.2 ++ [.batch sql (c.batch sql w.1).1])
  abandon w := (c.abandon w.1, w.2 ++ [.abandoned])
  note e w := (c.note e w.1, w.2 ++ [.noted e])

namespace Seen

open Transaction

/-- Whether a savepoint waits to be settled. It begins to wait when it is dropped and when it cannot
be rolled back to; it ends to wait when a batch that settles it has succeeded. -/
def pendingAfter (p : Bool) : Seen → Bool
  | noted (.abandoned .savepoint) => true
  | batch sql (.error _) => if sql = rollbackToSql then true else p
  | batch sql (.ok ()) => if sql = settleSql then false else p
  | _ => p

def pending (log : List Seen) : Bool := log.foldl pendingAfter false

def Permitted : Seen → Prop
  | query _ _ | exec _ _ => False
  | batch sql _ => sql = settleSql ∨ sql = "ROLLBACK"
  | noted _ | abandoned => True

def Lawful (log : List Seen) : Prop :=
  ∀ earlier x later, log = earlier ++ x :: later → pending earlier = true → x.Permitted

theorem pending_concat (log : List Seen) (x : Seen) :
    pending (log ++ [x]) = pendingAfter (pending log) x := by
  simp [pending]

theorem lawful_nil : Lawful [] := by
  intro earlier x later h
  simp at h

/-- What holds of every entry, given those before it, still does after one more. -/
theorem forall_split_concat {α : Type} {P : List α → α → Prop} {xs : List α} {x : α}
    (h : ∀ earlier y later, xs = earlier ++ y :: later → P earlier y) (hx : P xs x) :
    ∀ earlier y later, xs ++ [x] = earlier ++ y :: later → P earlier y := by
  intro earlier y later hsplit
  rcases List.eq_nil_or_concat later with rfl | ⟨later, z, rfl⟩
  · obtain ⟨rfl, hy⟩ := List.append_inj' hsplit rfl
    obtain rfl := List.singleton_inj.mp hy
    exact hx
  · have hsplit' : xs ++ [x] = (earlier ++ y :: later) ++ [z] := by simpa using hsplit
    exact h earlier y later (List.append_inj' hsplit' rfl).1

theorem lawful_concat {log : List Seen} {x : Seen} (h : Lawful log)
    (hx : pending log = true → x.Permitted) : Lawful (log ++ [x]) :=
  forall_split_concat (P := fun earlier y => pending earlier = true → y.Permitted) h hx

end Seen

namespace Transaction

open Seen

def sent (step sql : String) (r : Except Error Unit) : List Seen :=
  [.noted (.transaction step sql), .batch sql r]

def ended (sql : String) : Except Error Unit → List Seen
  | .ok () => sent sql sql (.ok ())
  | .error e => sent sql sql (.error e) ++ [.abandoned]

def settlement (r : Except Error Unit) : List Seen := sent "settle savepoint" settleSql r

variable {σ : Type} (c : Connection σ)

theorem send_traced (step sql : String) (v : σ × List Seen) :
    send c.traced step sql v = ((send c step sql v.1).1, (send c step sql v.1).2,
      v.2 ++ sent step sql (send c step sql v.1).1) := by
  simp only [send, Connection.traced, sent, List.append_assoc, List.cons_append, List.nil_append]

theorem settling_traced (v : σ × List Seen) :
    settling c.traced true v = ((settling c true v.1).1, (settling c true v.1).2,
      v.2 ++ settlement (settling c true v.1).1) := by
  simp only [settling, if_true, send_traced, settlement]

theorem ending_traced (sql : String) (v : σ × List Seen) :
    ending c.traced sql v = ((ending c sql v.1).1, (ending c sql v.1).2,
      v.2 ++ ended sql (ending c sql v.1).1) := by
  simp only [ending, send_traced]
  rcases send c sql sql v.1 with ⟨e | _, w⟩
  · simp only [Connection.traced, ended, List.append_assoc]
  · rfl

theorem run_traced (r : Run) (v : σ × List Seen) :
    c.traced.run r v = ((c.run r v.1).1, (c.run r v.1).2, v.2 ++ [r.seen]) := by
  cases r with
  | exec sql args =>
    simp only [Executor.run, Connection.traced, Run.seen]
    rcases c.exec sql args v.1 with ⟨e | n, w⟩ <;> rfl
  | query sql args | queryStream sql args | queryRow sql args =>
    simp only [Executor.run, Executor.reading, Connection.traced, Run.seen]
    rcases c.query sql args v.1 with ⟨e | rows, w⟩ <;> rfl

theorem pending_sent (log : List Seen) (step sql : String) (r : Except Error Unit) :
    pending (log ++ sent step sql r) = pendingAfter (pending log) (.batch sql r) := by
  simp [pending, sent, pendingAfter]

theorem lawful_sent {log : List Seen} (h : Lawful log) {step sql : String}
    {r : Except Error Unit} (hp : pending log = true → sql = settleSql ∨ sql = "ROLLBACK") :
    Lawful (log ++ sent step sql r) := by
  have hnoted : Lawful (log ++ [.noted (.transaction step sql)]) :=
    lawful_concat h fun _ => trivial
  have hsent : log ++ sent step sql r =
      (log ++ [.noted (.transaction step sql)]) ++ [.batch sql r] := by simp [sent]
  rw [hsent]
  refine lawful_concat hnoted fun hpending => hp ?_
  rw [pending_concat] at hpending
  exact hpending

theorem lawful_ended {log : List Seen} (h : Lawful log) {sql : String} {r : Except Error Unit}
    (hp : pending log = true → sql = settleSql ∨ sql = "ROLLBACK") :
    Lawful (log ++ ended sql r) := by
  cases r with
  | ok _ => exact lawful_sent h hp
  | error e =>
    rw [ended, ← List.append_assoc]
    exact lawful_concat (lawful_sent h hp) fun _ => trivial

/-- A settlement that succeeds leaves nothing waiting, and one that fails changes nothing. -/
theorem pending_settlement (log : List Seen) (r : Except Error Unit) :
    pending (log ++ settlement r) = (pending log && !r.toBool) := by
  have hne : settleSql ≠ rollbackToSql := by decide
  rw [settlement, pending_sent]
  cases r <;> simp [pendingAfter, hne, Except.toBool]

theorem lawful_settlement {log : List Seen} (h : Lawful log) (r : Except Error Unit) :
    Lawful (log ++ settlement r) := lawful_sent h fun _ => .inl rfl

theorem watched_send {v v' : σ × List Seen} {step sql : String} {r : Except Error Unit}
    (hl : Lawful v.2) (hp : pending v.2 = false) (hs : send c.traced step sql v = (r, v')) :
    Lawful v'.2 ∧ pending v'.2 = pendingAfter false (.batch sql r) := by
  rw [send_traced] at hs
  obtain ⟨rfl, rfl⟩ := Prod.mk.inj hs
  refine ⟨lawful_sent hl fun h => absurd h (by simp [hp]), ?_⟩
  rw [pending_sent, hp]

theorem watched_run {v : σ × List Seen} (hl : Lawful v.2) (hp : pending v.2 = false) (r : Run) :
    Lawful (c.traced.run r v).2.2 ∧ pending (c.traced.run r v).2.2 = false := by
  rw [run_traced]
  refine ⟨lawful_concat hl fun h => absurd h (by simp [hp]), ?_⟩
  rw [pending_concat, hp]
  cases r <;> rfl

theorem watched_settled {b : Bool} {v v' : σ × List Seen} (hl : Lawful v.2) (hp : pending v.2 = b)
    (hs : settling c.traced b v = (.ok (), v')) : Lawful v'.2 ∧ pending v'.2 = false := by
  cases b with
  | false =>
    cases hs
    exact ⟨hl, hp⟩
  | true =>
    rw [settling_traced] at hs
    obtain ⟨hr, rfl⟩ := Prod.mk.inj hs
    refine ⟨lawful_settlement hl _, ?_⟩
    rw [pending_settlement, hr]
    exact Bool.and_false _

theorem watched_unsettled {v v' : σ × List Seen} {e : Error} (hl : Lawful v.2)
    (hp : pending v.2 = true) (hs : settling c.traced true v = (.error e, v')) :
    Lawful v'.2 ∧ pending v'.2 = true := by
  rw [settling_traced] at hs
  obtain ⟨hr, rfl⟩ := Prod.mk.inj hs
  refine ⟨lawful_settlement hl _, ?_⟩
  rw [pending_settlement, hr, hp]
  rfl

theorem watched_ending {v v' : σ × List Seen} {sql : String} {r : Except Error Unit}
    (hl : Lawful v.2) (hp : pending v.2 = true → sql = settleSql ∨ sql = "ROLLBACK")
    (he : ending c.traced sql v = (r, v')) : Lawful v'.2 := by
  rw [ending_traced] at he
  obtain ⟨rfl, rfl⟩ := Prod.mk.inj he
  exact lawful_ended hl hp

def handle? : Scope Unit → Option Transaction
  | .outside => none
  | .transaction _ t | .savepoint _ t => some t

/-- The log was lawful, and tells what the transaction knows of its savepoint. -/
def Watched (s : State Unit (σ × List Seen)) : Prop :=
  Lawful s.world.2 ∧ ∀ t, handle? s.scope = some t → pending s.world.2 = t.savepointAbandoned

theorem watched_transaction {b : Bool} {v : σ × List Seen} :
    Watched ⟨.transaction () (idle b), v⟩ ↔ Lawful v.2 ∧ pending v.2 = b := by
  simp [Watched, handle?, idle]

theorem watched_savepoint {v : σ × List Seen} :
    Watched ⟨.savepoint () nested, v⟩ ↔ Lawful v.2 ∧ pending v.2 = false := by
  simp [Watched, handle?, nested]

theorem watched_outside {v : σ × List Seen} : Watched ⟨.outside, v⟩ ↔ Lawful v.2 := by
  simp [Watched, handle?]

variable {c}

/-- No move sends anything else while a savepoint waits, and each leaves the log telling whether one
does. -/
theorem Moves.watched {s s' : State Unit (σ × List Seen)} {a : Action} {r : Except Error Answer}
    (h : Moves c.traced s a r s') (hs : Watched s) : Watched s' := by
  cases h with
  | unsettled ha hsettle =>
    obtain ⟨hl, hp⟩ := watched_transaction.mp hs
    exact watched_transaction.mpr (watched_unsettled c hl hp hsettle)
  | run hsettle =>
    obtain ⟨hl, hp⟩ := watched_transaction.mp hs
    obtain ⟨hl₁, hp₁⟩ := watched_settled c hl hp hsettle
    exact watched_transaction.mpr (watched_run c hl₁ hp₁ _)
  | refused hsettle hb =>
    obtain ⟨hl, hp⟩ := watched_transaction.mp hs
    obtain ⟨hl₁, hp₁⟩ := watched_settled c hl hp hsettle
    obtain ⟨hl₂, hp₂⟩ := watched_send c hl₁ hp₁ hb
    have hne : savepointSql ≠ rollbackToSql := by decide
    exact watched_transaction.mpr ⟨hl₂, by simp [hp₂, pendingAfter, hne]⟩
  | begun hsettle hb =>
    obtain ⟨hl, hp⟩ := watched_transaction.mp hs
    obtain ⟨hl₁, hp₁⟩ := watched_settled c hl hp hsettle
    obtain ⟨hl₂, hp₂⟩ := watched_send c hl₁ hp₁ hb
    exact watched_savepoint.mpr ⟨hl₂, by simp [hp₂, pendingAfter]⟩
  | undone ha hsettle he =>
    obtain ⟨hl, hp⟩ := watched_transaction.mp hs
    obtain ⟨hl₁, -⟩ := watched_unsettled c hl hp hsettle
    exact watched_outside.mpr (watched_ending c hl₁ (fun _ => .inr rfl) he)
  | committed ha hsettle he =>
    obtain ⟨hl, hp⟩ := watched_transaction.mp hs
    obtain ⟨hl₁, hp₁⟩ := watched_settled c hl hp hsettle
    exact watched_outside.mpr (watched_ending c hl₁ (fun h => absurd h (by simp [hp₁])) he)
  | rolledBack ha he =>
    exact watched_outside.mpr (watched_ending c hs.1 (fun _ => .inr rfl) he)
  | dropped =>
    refine watched_outside.mpr ?_
    exact lawful_concat (lawful_concat hs.1 fun _ => trivial) fun _ => trivial
  | described => exact hs
  | nestedRun =>
    obtain ⟨hl, hp⟩ := watched_savepoint.mp hs
    exact watched_savepoint.mpr (watched_run c hl hp _)
  | nestedBegin => exact hs
  | @nestedCommit _ _ _ r ha hb =>
    obtain ⟨hl, hp⟩ := watched_savepoint.mp hs
    obtain ⟨hl₁, hp₁⟩ := watched_send c hl hp hb
    have hne : releaseSql ≠ rollbackToSql := by decide
    refine watched_transaction.mpr ⟨hl₁, ?_⟩
    rcases r with e | _ <;> simp [hp₁, pendingAfter, hne]
  | @nestedRollback _ _ _ r ha hb =>
    obtain ⟨hl, hp⟩ := watched_savepoint.mp hs
    obtain ⟨hl₁, hp₁⟩ := watched_send c hl hp hb
    refine watched_transaction.mpr ⟨hl₁, ?_⟩
    rcases r with e | _ <;> simp [hp₁, pendingAfter, Except.toBool]
  | nestedDrop =>
    refine watched_transaction.mpr ⟨lawful_concat hs.1 fun _ => trivial, ?_⟩
    exact pending_concat _ _
  | nestedDescribe => exact hs

theorem Course.watched {w₀ : σ} {past : List (Turn (σ × List Seen))}
    {s : State Unit (σ × List Seen)} (h : Course c.traced (w₀, []) past s) : Watched s := by
  refine h.invariant (P := fun _ s => Watched s) ?_ fun _ hs hm => hm.watched hs
  intro o w hb
  obtain ⟨hl, hp⟩ := watched_send c (v := (w₀, [])) lawful_nil rfl hb
  exact watched_transaction.mpr ⟨hl, by simp [hp, pendingAfter]⟩

variable (c)

/-- A transaction with nothing to settle sends statements of its own. -/
structure SendsOwn (t : Transaction) (w : σ) (log : List Seen) : Prop where
  run : ∀ r, act c.traced (.run r) ⟨.transaction () t, w, log⟩ =
    ((c.run r w).1, ⟨.transaction () t, (c.run r w).2, log ++ [r.seen]⟩)
  begin : ∀ o r w', send c "savepoint" savepointSql w = (r, w') →
    (act c.traced (.begin o) ⟨.transaction () t, w, log⟩).2.world =
      (w', log ++ sent "savepoint" savepointSql r)
  commit : ∀ a r w', a.commits = true → ending c "COMMIT" w = (r, w') →
    act c.traced a ⟨.transaction () t, w, log⟩ =
      (a.answer r, ⟨.outside, w', log ++ ended "COMMIT" r⟩)

/-- A transaction with a savepoint to settle sends the settling batch. If that fails the savepoint
is still to be settled and nothing else is sent, but that a transaction to be committed is rolled
back; if it succeeds the transaction goes on with nothing to settle. -/
structure SettlesFirst (t : Transaction) (w : σ) (log : List Seen) : Prop where
  failed : ∀ a e w', a.goesOn = true →
    send c "settle savepoint" settleSql w = (.error e, w') →
    act c.traced a ⟨.transaction () t, w, log⟩ =
      (.error e, ⟨.transaction () t, w', log ++ settlement (.error e)⟩)
  undone : ∀ a e w' r w'', a.commits = true →
    send c "settle savepoint" settleSql w = (.error e, w') →
    ending c "ROLLBACK" w' = (r, w'') →
    act c.traced a ⟨.transaction () t, w, log⟩ =
      (.error (joinErrors e r),
        ⟨.outside, w'', log ++ settlement (.error e) ++ ended "ROLLBACK" r⟩)
  settled : ∀ a w', a.goesOn = true ∨ a.commits = true →
    send c "settle savepoint" settleSql w = (.ok (), w') →
    act c.traced a ⟨.transaction () t, w, log⟩ =
      act c.traced a ⟨.transaction () { t with savepointAbandoned := false }, w',
        log ++ settlement (.ok ())⟩

theorem sendsOwn_idle (w : σ) (log : List Seen) : SendsOwn c (idle false) w log where
  run r := by
    rw [act_run, settling_false]
    dsimp only
    rw [run_traced]
  begin o r w' hb := by
    rw [act_begin, settling_false]
    dsimp only
    rw [send_traced, hb]
    rcases r with e | _ <;> rfl
  commit a r w' ha he := by
    rw [act_commits ha, settling_false]
    dsimp only
    rw [ending_traced, he]

theorem settling_send {w w' : σ} {r : Except Error Unit} (log : List Seen)
    (hs : send c "settle savepoint" settleSql w = (r, w')) :
    settling c.traced true (w, log) = (r, w', log ++ settlement r) := by
  rw [settling_traced]
  simp only [settling, if_true, hs]

theorem settlesFirst_idle (w : σ) (log : List Seen) : SettlesFirst c (idle true) w log where
  failed a e w' ha hs := by
    have hsettle := settling_send c log hs
    cases a with
    | run r => rw [act_run, hsettle]
    | begin o => rw [act_begin, hsettle]
    | commit | rollback | conclude _ | drop | describe => cases ha
  undone a e w' r w'' ha hs he := by
    rw [act_commits ha, settling_send c log hs]
    dsimp only
    rw [ending_traced, he]
  settled a w' ha hs := by
    have hsettle := settling_send c log hs
    have hidle : { idle true with savepointAbandoned := false } = idle false := rfl
    rw [hidle]
    rcases ha with ha | ha
    · cases a with
      | run r => rw [act_run, act_run, hsettle, settling_false]
      | begin o => rw [act_begin, act_begin, hsettle, settling_false]
      | commit | rollback | conclude _ | drop | describe => cases ha
    · rw [act_commits ha, act_commits ha, hsettle, settling_false]

variable {c}

/-- In every course the log is lawful and tells whether the transaction has a savepoint to settle;
if it has, settling comes first, and if not, its statements are sent. -/
theorem Course.settles_abandoned_first {w₀ : σ} {past : List (Turn (σ × List Seen))}
    {s : State Unit (σ × List Seen)} (h : Course c.traced (w₀, []) past s) :
    Lawful s.world.2 ∧
      (∀ t, handle? s.scope = some t → pending s.world.2 = t.savepointAbandoned) ∧
      ∀ t w log, s = ⟨.transaction () t, w, log⟩ →
        (t.savepointAbandoned = false → SendsOwn c t w log) ∧
        (t.savepointAbandoned = true → SettlesFirst c t w log) := by
  obtain ⟨hl, hp⟩ := h.watched
  refine ⟨hl, hp, ?_⟩
  rintro t w log rfl
  obtain ⟨b, rfl⟩ := h.tidy.eq_idle
  constructor
  · rintro rfl
    exact sendsOwn_idle c w log
  · rintro rfl
    exact settlesFirst_idle c w log

/-- A connection that fails after the first two requests. -/
theorem commit_joins_failures :
    ∃ (w₀ : Backend) (past : List (Turn (Backend × List Seen)))
      (s : State Unit (Backend × List Seen)) (e e' : Error),
      Course Backend.connection.traced (w₀, []) past s ∧ pending s.world.2 = true ∧
        (act Backend.connection.traced .commit s).1 = .error (.rollbackFailed e e') := by
  let e : Error := .timeout (.ofMillis 50)
  let fates : Nat → Fate := fun n => if n < 2 then .served 1 .empty else .lost e
  let b₁ := (Backend.fresh fates).take (.batch TransactionOptions.default.beginSql)
  let b₂ := b₁.take (.batch savepointSql)
  let log₁ := sent "begin" TransactionOptions.default.beginSql (.ok ())
  let log₂ := log₁ ++ sent "savepoint" savepointSql (.ok ())
  let log₃ := log₂ ++ [.noted (.abandoned .savepoint)]
  have hstart : start Backend.connection.traced .default (Backend.fresh fates, []) =
      (.ok (idle false), b₁, log₁) := rfl
  have h₁ := Course.start hstart
  have h₂ := h₁.of_act nofun
    (rfl : act Backend.connection.traced (.begin .default) _ =
      (.ok .done, ⟨.savepoint () nested, b₂, log₂⟩))
  have h₃ := h₂.of_act nofun
    (rfl : act Backend.connection.traced .drop _ =
      (.ok .done, ⟨.transaction () (idle true), b₂, log₃⟩))
  obtain ⟨-, hpending, hsettles⟩ := h₃.settles_abandoned_first
  have hundone := ((hsettles _ _ _ rfl).2 rfl).undone .commit e b₂.skip (.error e) b₂.skip.skip
    rfl rfl rfl
  exact ⟨_, _, _, e, e, h₃, hpending _ rfl, congrArg Prod.fst hundone⟩

end Transaction

end BoundSql
