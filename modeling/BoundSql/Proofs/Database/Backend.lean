import BoundSql.Proofs.Database.Basic
import BoundSql.Proofs.Transaction.Course

namespace BoundSql

inductive Message where
  | batch (sql : String)
  | statement (sql : String) (args : List Value)

/-- What the database makes of a message, unless it refuses it. -/
def Message.apply (number : Nat) (m : Message) (d : Database) : Option Database :=
  match m with
  | batch sql => d.batch sql
  | statement sql args => some (d.execute ⟨number, sql, args⟩)

def Run.message : Run → Message
  | exec sql args | query sql args | queryStream sql args | queryRow sql args =>
    .statement sql args

def Run.execution (number : Nat) : Run → Execution
  | exec sql args | query sql args | queryStream sql args | queryRow sql args =>
    ⟨number, sql, args⟩

@[simp] theorem Run.message_apply (r : Run) (number : Nat) (d : Database) :
    r.message.apply number d = some (d.execute (r.execution number)) := by
  cases r <;> rfl

@[simp] theorem Run.execution_number (r : Run) (number : Nat) :
    (r.execution number).number = number := by
  cases r <;> rfl

/-- What becomes of a request. -/
inductive Fate where
  | served (affected : Nat) (rows : Rows)
  | lost (e : Error)
  | unanswered (e : Error)

/-- The database after some messages, each with the number of its request, the last one first. -/
def Database.replay : List (Nat × Message) → Database
  | [] => ⟨[], none⟩
  | (n, m) :: done => (m.apply n (replay done)).getD (replay done)

namespace Database

/-- What holds of the empty database, and is kept by messages, holds of every replay. -/
theorem replay_induction {P : List (Nat × Message) → Database → Prop} (hnil : P [] ⟨[], none⟩)
    (hskip : ∀ {p done d}, P done d → P (p :: done) d)
    (htake : ∀ {n m done d d'}, m.apply n d = some d' → P done d → P ((n, m) :: done) d')
    (done : List (Nat × Message)) : P done (replay done) := by
  induction done with
  | nil => exact hnil
  | cons p done ih =>
    obtain ⟨n, m⟩ := p
    rw [replay]
    rcases hm : m.apply n (replay done) with _ | d'
    · exact hskip ih
    · exact htake hm ih

theorem nested_replay (done : List (Nat × Message)) : (replay done).Nested := by
  refine replay_induction (P := fun _ d => d.Nested) nested_none (fun h => h) ?_ done
  intro n m done d d' hm hd
  cases m with
  | batch sql => exact of_batch Command.nested_of_run hm hd
  | statement sql args =>
    cases hm
    exact hd.execute _

theorem number_mem_of_holds {done : List (Nat × Message)} {x : Execution}
    (hx : (replay done).Holds x) : x.number ∈ done.map Prod.fst := by
  refine replay_induction (P := fun done d => d.Holds x → x.number ∈ done.map Prod.fst)
    (by simp [Holds]) (fun h hx => List.mem_cons_of_mem _ (h hx)) ?_ done hx
  intro n m done d d' hm hd hx'
  cases m with
  | batch sql =>
    have hmem : d'.Holds x → x.number ∈ done.map Prod.fst :=
      of_batch (P := fun d => d.Holds x → x.number ∈ done.map Prod.fst)
        (fun hrun hd hx => hd (Command.holds_of_run hrun hx)) hm hd
    exact List.mem_cons_of_mem _ (hmem hx')
  | statement sql args =>
    cases hm
    rcases holds_execute hx' with hx' | rfl
    · exact List.mem_cons_of_mem _ (hd hx')
    · exact List.mem_cons_self

end Database

/-- A connection to a database: the fates of all requests, how many there were, and the messages
that were carried out, the last one first. -/
structure Backend where
  fates : Nat → Fate
  requests : Nat
  done : List (Nat × Message)
  numbered : ∀ p ∈ done, p.1 < requests

namespace Backend

def database (b : Backend) : Database := .replay b.done

def fresh (fates : Nat → Fate) : Backend := ⟨fates, 0, [], by simp⟩

def servedBut (n : Nat) (fate : Fate) : Nat → Fate :=
  fun k => if k = n then fate else .served 1 .empty

def skip (b : Backend) : Backend :=
  ⟨b.fates, b.requests + 1, b.done, fun p hp => Nat.lt_succ_of_lt (b.numbered p hp)⟩

def take (m : Message) (b : Backend) : Backend where
  fates := b.fates
  requests := b.requests + 1
  done := (b.requests, m) :: b.done
  numbered p hp := by
    rcases List.mem_cons.mp hp with rfl | hp
    · exact Nat.lt_succ_self _
    · exact Nat.lt_succ_of_lt (b.numbered p hp)

def refusal : Error := .unknown (.foreign "db error" [])

def request (m : Message) (b : Backend) : Except Error (Nat × Rows) × Backend :=
  match b.fates b.requests, m.apply b.requests b.database with
  | .served affected rows, some _ => (.ok (affected, rows), b.take m)
  | .served _ _, none => (.error refusal, b.skip)
  | .unanswered e, some _ => (.error e, b.take m)
  | .unanswered e, none | .lost e, _ => (.error e, b.skip)

def connection : Connection Backend where
  query sql args b :=
    ((b.request (.statement sql args)).1.map Prod.snd, (b.request (.statement sql args)).2)
  exec sql args b :=
    ((b.request (.statement sql args)).1.map Prod.fst, (b.request (.statement sql args)).2)
  await _ b := b
  batch sql b := ((b.request (.batch sql)).1.map fun _ => (), (b.request (.batch sql)).2)
  abandon b := b
  note _ b := b

/-- What a request can come to. Only one that was carried out is answered well. -/
inductive Handled (m : Message) (b : Backend) : Bool → Backend → Prop
  | skipped : Handled m b false b.skip
  | taken {ok : Bool} {d : Database} (h : m.apply b.requests b.database = some d)
      (hd : (b.take m).database = d) : Handled m b ok (b.take m)

theorem request_handled (m : Message) (b : Backend) :
    Handled m b (b.request m).1.toBool (b.request m).2 := by
  have htake {d : Database} (h : m.apply b.requests b.database = some d) :
      (b.take m).database = d := by
    simp only [database] at h
    simp [database, take, Database.replay, h]
  simp only [request]
  rcases hm : m.apply b.requests b.database with _ | d <;>
    rcases hf : b.fates b.requests with ⟨affected, rows⟩ | e | e
  · exact .skipped
  · exact .skipped
  · exact .skipped
  · exact .taken hm (htake hm)
  · exact .skipped
  · exact .taken hm (htake hm)

open Transaction

theorem handled_send {step sql : String} {b b' : Backend} {r : Except Error Unit}
    (h : send connection step sql b = (r, b')) : Handled (.batch sql) b r.toBool b' := by
  have hr := request_handled (.batch sql) b
  simp only [send, connection, Prod.mk.injEq] at h
  obtain ⟨rfl, rfl⟩ := h
  rcases hq : (b.request (.batch sql)).1 with e | q <;> rw [hq] at hr <;> exact hr

theorem handled_ending {sql : String} {b b' : Backend} {r : Except Error Unit}
    (h : ending connection sql b = (r, b')) : Handled (.batch sql) b r.toBool b' := by
  rcases hs : send connection sql sql b with ⟨e | _, w⟩
  · simp only [ending, hs, Prod.mk.injEq] at h
    obtain ⟨rfl, rfl⟩ := h
    exact handled_send hs
  · simp only [ending, hs, Prod.mk.injEq] at h
    obtain ⟨rfl, rfl⟩ := h
    exact handled_send hs

/-- A run of a statement is one request. Its rows may be bad although it was answered well. -/
theorem run_request (r : Run) (b : Backend) :
    (connection.run r b).2 = (b.request r.message).2 ∧
      ((connection.run r b).1.toBool = true → (b.request r.message).1.toBool = true) := by
  cases r with
  | exec sql args =>
    simp only [Executor.run, connection, Run.message]
    rcases b.request (.statement sql args) with ⟨e | q, b'⟩
    · exact ⟨rfl, fun h => h⟩
    · exact ⟨rfl, fun _ => rfl⟩
  | query sql args | queryStream sql args | queryRow sql args =>
    simp only [Executor.run, Executor.reading, connection, Run.message]
    rcases b.request (.statement sql args) with ⟨e | q, b'⟩
    · exact ⟨rfl, fun h => h⟩
    · exact ⟨rfl, fun _ => rfl⟩

theorem handled_run (r : Run) (b : Backend) :
    ∃ ok, Handled r.message b ok (connection.run r b).2 ∧
      ((connection.run r b).1.toBool = true → ok = true) := by
  obtain ⟨hb, hok⟩ := run_request r b
  rw [hb]
  exact ⟨_, request_handled r.message b, hok⟩

variable {m : Message} {sql : String} {b b' : Backend} {ok : Bool}

theorem Handled.requests_eq (h : Handled m b ok b') : b'.requests = b.requests + 1 := by
  cases h <;> rfl

theorem Handled.of_batch (h : Handled (.batch sql) b ok b') :
    ok = false ∧ b'.database = b.database ∨ b.database.batch sql = some b'.database := by
  cases h with
  | skipped => exact .inl ⟨rfl, rfl⟩
  | taken h hd =>
    rw [hd]
    exact .inr h

theorem Handled.of_run {r : Run} (h : Handled r.message b ok b') :
    ok = false ∧ b'.database = b.database ∨
      b'.database = b.database.execute (r.execution b.requests) := by
  cases h with
  | skipped => exact .inl ⟨rfl, rfl⟩
  | taken h hd =>
    rw [Run.message_apply, Option.some.injEq] at h
    rw [hd, ← h]
    exact .inr rfl

def Opened (b : Backend) : Prop := b.database.block.isSome

/-- A batch leaves the block open if it does whenever it is carried out. -/
theorem Opened.of_batch (ho : Opened b) (h : Handled (.batch sql) b ok b')
    (hsql : ∀ {d}, b.database.batch sql = some d → d.block.isSome) : Opened b' := by
  rcases h.of_batch with ⟨-, hd⟩ | hd
  · rwa [Opened, hd]
  · exact hsql hd

theorem Opened.settle (ho : Opened b) (h : Handled (.batch settleSql) b ok b') : Opened b' := by
  refine ho.of_batch h fun hd => ?_
  obtain ⟨done, work, saved, older, -, rfl⟩ := Database.of_batch_settle hd
  rfl

theorem Opened.rollbackTo (ho : Opened b) (h : Handled (.batch rollbackToSql) b ok b') :
    Opened b' := by
  refine ho.of_batch h fun hd => ?_
  rw [Database.batch_rollbackTo] at hd
  obtain ⟨done, work, saved, older, -, rfl⟩ := Database.of_run_rollbackTo hd
  rfl

theorem Opened.savepoint (ho : Opened b) (h : Handled (.batch savepointSql) b ok b') :
    Opened b' := by
  refine ho.of_batch h fun hd => ?_
  rw [Database.batch_savepoint] at hd
  obtain ⟨done, k, -, rfl⟩ := Database.of_run_savepoint hd
  rfl

theorem Opened.release (ho : Opened b) (h : Handled (.batch releaseSql) b ok b') : Opened b' := by
  refine ho.of_batch h fun hd => ?_
  rw [Database.batch_release] at hd
  obtain ⟨done, work, saved, older, -, rfl⟩ := Database.of_run_release hd
  rfl

theorem Opened.run (ho : Opened b) {r : Run} (h : Handled r.message b ok b') : Opened b' := by
  rcases h.of_run with ⟨-, hd⟩ | hd
  · rwa [Opened, hd]
  · rw [Opened, hd]
    exact Database.isSome_execute ho

theorem Opened.settling {abandoned : Bool} {r : Except Error Unit} (ho : Opened b)
    (hs : settling connection abandoned b = (r, b')) : Opened b' := by
  cases abandoned with
  | false =>
    cases hs
    exact ho
  | true => exact ho.settle (handled_send hs)

/-- The block of a transaction is open as long as the transaction is. -/
def Ongoing (s : State Unit Backend) : Prop := s.scope ≠ .outside → Opened s.world

theorem ongoing_moves {s s' : State Unit Backend} {a : Action} {r : Except Error Answer}
    (hm : Moves connection s a r s') (h : Ongoing s) : Ongoing s' := by
  intro hopen
  cases hm with
  | unsettled ha hs => exact (h nofun).settling hs
  | @run _ q _ _ hs =>
    obtain ⟨ok, hh, -⟩ := handled_run q _
    exact ((h nofun).settling hs).run hh
  | refused hs hb => exact ((h nofun).settling hs).savepoint (handled_send hb)
  | begun hs hb => exact ((h nofun).settling hs).savepoint (handled_send hb)
  | undone | committed | rolledBack | dropped => exact absurd rfl hopen
  | described => exact h hopen
  | @nestedRun q b =>
    obtain ⟨ok, hh, -⟩ := handled_run q b
    exact (h nofun).run hh
  | nestedBegin => exact h hopen
  | nestedCommit ha hb => exact (h nofun).release (handled_send hb)
  | nestedRollback ha hb => exact (h nofun).rollbackTo (handled_send hb)
  | nestedDrop => exact h nofun
  | nestedDescribe => exact h hopen

theorem opened_of_begin {o : TransactionOptions} {step : String}
    (h : send connection step o.beginSql b = (.ok (), b')) : Opened b' := by
  rcases (handled_send h).of_batch with ⟨hok, -⟩ | hd
  · cases hok
  · rw [Database.batch_begin] at hd
    exact Database.isSome_of_run_begin hd

theorem ongoing_course {w₀ : Backend} {past : List (Turn Backend)} {s : State Unit Backend}
    (h : Course connection w₀ past s) : Ongoing s :=
  h.invariant (P := fun _ s => Ongoing s) (fun hb _ => opened_of_begin hb) fun _ hs hm =>
    ongoing_moves hm hs

/-- Everything that a move does to a backend it does by requests. -/
inductive Leads (b : Backend) : Backend → Prop
  | refl : Leads b b
  | request {b₁ b₂ : Backend} {m : Message} {ok : Bool} (h : Leads b b₁)
      (hh : Handled m b₁ ok b₂) : Leads b b₂

theorem Leads.settling {abandoned : Bool} {r : Except Error Unit}
    (hs : settling connection abandoned b = (r, b')) : Leads b b' := by
  cases abandoned with
  | false =>
    cases hs
    exact .refl
  | true => exact Leads.refl.request (handled_send hs)

theorem leads_of_moves {s s' : State Unit Backend} {a : Action} {r : Except Error Answer}
    (hm : Moves connection s a r s') : Leads s.world s'.world := by
  cases hm with
  | unsettled ha hs => exact .settling hs
  | @run _ q _ _ hs =>
    obtain ⟨ok, hh, -⟩ := handled_run q _
    exact (Leads.settling hs).request hh
  | refused hs hb => exact (Leads.settling hs).request (handled_send hb)
  | begun hs hb => exact (Leads.settling hs).request (handled_send hb)
  | undone ha hs he => exact (Leads.settling hs).request (handled_ending he)
  | committed ha hs he => exact (Leads.settling hs).request (handled_ending he)
  | rolledBack ha he => exact Leads.refl.request (handled_ending he)
  | @nestedRun q b =>
    obtain ⟨ok, hh, -⟩ := handled_run q b
    exact Leads.refl.request hh
  | nestedCommit ha hb => exact Leads.refl.request (handled_send hb)
  | nestedRollback ha hb => exact Leads.refl.request (handled_send hb)
  | dropped | described | nestedBegin | nestedDrop | nestedDescribe => exact .refl

/-- A statement is not held before it is sent. -/
theorem not_holds_execution (r : Run) (b : Backend) :
    ¬ b.database.Holds (r.execution b.requests) := by
  intro h
  obtain ⟨p, hp, hnumber⟩ := List.mem_map.mp (Database.number_mem_of_holds h)
  have hlt := b.numbered p hp
  rw [Run.execution_number] at hnumber
  omega

end Backend

end BoundSql
