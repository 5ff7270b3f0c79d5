import BoundSql.Proofs.Client.Basic
import BoundSql.Proofs.Database.Backend
/-!
A statement runs inside a transaction that nobody owns in one case only: a `BEGIN` was carried out
without an answer, so that there is no transaction for its block, and nothing has ended the block
since.
-/

namespace BoundSql

namespace Database

variable {d d' : Database} {sql : String}

theorem Command.isSome_of_run {command : Command} (hc : command ≠ .commit)
    (hr : command ≠ .rollback) (h : command.run d = some d') (hd : d.block.isSome) :
    d'.block.isSome := by
  rcases d with ⟨done, _ | k⟩
  · cases hd
  · cases command with
    | begin =>
      cases h
      rfl
    | commit => exact absurd rfl hc
    | rollback => exact absurd rfl hr
    | savepoint =>
      obtain ⟨_, _, -, rfl⟩ := of_run_savepoint h
      rfl
    | release =>
      obtain ⟨_, _, _, _, -, rfl⟩ := of_run_release h
      rfl
    | rollbackTo =>
      obtain ⟨_, _, _, _, -, rfl⟩ := of_run_rollbackTo h
      rfl

theorem exists_run_begin (d : Database) :
    ∃ d', Command.begin.run d = some d' ∧ d'.block.isSome := by
  rcases d with ⟨done, _ | k⟩
  · exact ⟨⟨done, some ⟨[], []⟩⟩, rfl, rfl⟩
  · exact ⟨⟨done, some k⟩, rfl, rfl⟩

theorem eq_commit_of_mem {cs : List Command} (h : commands sql = some cs)
    (hm : Command.commit ∈ cs) : sql = "COMMIT" := by
  unfold commands at h
  repeat' split at h
  all_goals cases h
  all_goals first | assumption | simp at hm

theorem eq_rollback_of_mem {cs : List Command} (h : commands sql = some cs)
    (hm : Command.rollback ∈ cs) : sql = "ROLLBACK" := by
  unfold commands at h
  repeat' split at h
  all_goals cases h
  all_goals first | assumption | simp at hm

/-- Blocks are ended by `COMMIT` and `ROLLBACK` only. -/
theorem isSome_of_batch (hc : sql ≠ "COMMIT") (hr : sql ≠ "ROLLBACK") (h : d.batch sql = some d')
    (hd : d.block.isSome) : d'.block.isSome := by
  obtain ⟨cs, hcs, hfold⟩ := Option.bind_eq_some_iff.mp h
  refine of_commands (P := fun d => d.block.isSome) ?_ hfold hd
  intro command d d' hm hrun hopen
  refine Command.isSome_of_run ?_ ?_ hrun hopen
  · rintro rfl
    exact hc (eq_commit_of_mem hcs hm)
  · rintro rfl
    exact hr (eq_rollback_of_mem hcs hm)

theorem block_of_batch (hsql : sql = "COMMIT" ∨ sql = "ROLLBACK") (h : d.batch sql = some d') :
    d'.block = none := by
  rcases hsql with rfl | rfl
  · rw [batch_commit] at h
    rcases d with ⟨done, _ | k⟩ <;> cases h <;> rfl
  · rw [batch_rollback] at h
    cases h
    rfl

theorem isSome_of_execute {x : Execution} (h : (d.execute x).block.isSome) : d.block.isSome := by
  rcases d with ⟨done, _ | k⟩
  · cases h
  · rfl

end Database

namespace Message

/-- A batch of a caller is a statement like any other, unless it controls a transaction. -/
def ofBatch (sql : String) : Message :=
  if (Database.commands sql).isSome then .batch sql else .statement sql []

theorem ofBatch_of_none {sql : String} (h : Database.commands sql = none) :
    ofBatch sql = .statement sql [] := by
  simp [ofBatch, h]

theorem ofBatch_of_some {sql : String} (h : (Database.commands sql).isSome) :
    ofBatch sql = .batch sql := if_pos h

def Ends (m : Message) : Prop := m = .batch "COMMIT" ∨ m = .batch "ROLLBACK"

theorem isSome_of_apply {m : Message} {n : Nat} {d d' : Database} (hm : ¬ m.Ends)
    (h : m.apply n d = some d') (hd : d.block.isSome) : d'.block.isSome := by
  cases m with
  | batch sql =>
    refine Database.isSome_of_batch ?_ ?_ h hd
    · rintro rfl
      exact hm (.inl rfl)
    · rintro rfl
      exact hm (.inr rfl)
  | statement sql args =>
    cases h
    exact Database.isSome_execute hd

end Message

namespace Backend

/-- Among the messages that were carried out there is a `BEGIN` that was not answered, and none
after it that ends its block. -/
inductive OrphanedBy (fates : Nat → Fate) : List (Nat × Message) → Prop
  | begun {n : Nat} {o : TransactionOptions} {e : Error} {done : List (Nat × Message)}
      (h : fates n = .unanswered e) : OrphanedBy fates ((n, .batch o.beginSql) :: done)
  | later {n : Nat} {m : Message} {done : List (Nat × Message)} (h : OrphanedBy fates done)
      (hm : ¬ m.Ends) : OrphanedBy fates ((n, m) :: done)

def Orphaned (b : Backend) : Prop := OrphanedBy b.fates b.done

theorem OrphanedBy.opened {fates : Nat → Fate} {done : List (Nat × Message)}
    (h : OrphanedBy fates done) : (Database.replay done).block.isSome := by
  induction h with
  | @begun n o e done he =>
    obtain ⟨d, hd, hopen⟩ := Database.exists_run_begin (Database.replay done)
    rw [Database.replay, Message.apply, Database.batch_begin, hd]
    exact hopen
  | @later n m done h hm ih =>
    rw [Database.replay]
    rcases hd : m.apply n (Database.replay done) with _ | d
    · exact ih
    · exact Message.isSome_of_apply hm hd ih

/-- If a block is open it is orphaned. -/
def Accounted (b : Backend) : Prop := b.database.block.isSome → b.Orphaned

/-- A connection on which callers' batches are carried out too. -/
def server : Connection Backend where
  toExecutor := connection.toExecutor
  batch sql b :=
    ((b.request (.ofBatch sql)).1.map fun _ => (), (b.request (.ofBatch sql)).2)
  abandon b := b
  note _ b := b

open Transaction

variable {b b' : Backend} {m : Message} {ok : Bool} {sql step : String}

theorem send_server (h : (Database.commands sql).isSome) (step : String) (b : Backend) :
    send server step sql b = send connection step sql b := by
  simp only [send, server, connection, Message.ofBatch_of_some h]

theorem accounted_of_none (h : b.database.block = none) : Accounted b := by
  intro hopen
  rw [h] at hopen
  cases hopen

theorem none_of_ending (hsql : sql = "COMMIT" ∨ sql = "ROLLBACK")
    (hs : send server step sql b = (.ok (), b')) : b'.database.block = none := by
  have hcommands : (Database.commands sql).isSome := by
    rcases hsql with rfl | rfl <;> decide
  rw [send_server hcommands] at hs
  rcases (handled_send hs).of_batch with ⟨hok, -⟩ | hd
  · cases hok
  · exact Database.block_of_batch hsql hd

/-- Statements open no block, and end none. -/
theorem Accounted.statement {args : List Value} (h : Accounted b)
    (hh : Handled (.statement sql args) b ok b') : Accounted b' := by
  intro hopen
  cases hh with
  | skipped => exact h hopen
  | @taken _ d hm hd =>
    rw [hd] at hopen
    cases hm
    have horphaned := h (Database.isSome_of_execute hopen)
    exact .later horphaned (by rintro (hm | hm) <;> cases hm)

theorem unanswered_of_error {e : Error} (h : b.request m = (.error e, b')) :
    b' = b.skip ∨ b' = b.take m ∧ b.fates b.requests = .unanswered e := by
  simp only [request] at h
  split at h
  next => cases h
  next => exact .inl (Prod.mk.inj h).2.symm
  next e' d hf hd =>
    cases h
    exact .inr ⟨rfl, hf⟩
  next => exact .inl (Prod.mk.inj h).2.symm
  next => exact .inl (Prod.mk.inj h).2.symm

theorem Accounted.begin {o : TransactionOptions} {e : Error} (h : Accounted b)
    (hb : server.batch o.beginSql b = (.error e, b')) : Accounted b' := by
  have hcommands : (Database.commands o.beginSql).isSome := by rw [Database.commands_begin]; rfl
  simp only [server, Message.ofBatch_of_some hcommands] at hb
  rcases hq : b.request (.batch o.beginSql) with ⟨e' | q, b₁⟩ <;> rw [hq] at hb <;> cases hb
  rcases unanswered_of_error hq with rfl | ⟨rfl, hf⟩
  · exact h
  · exact fun _ => .begun hf

end Backend

namespace Client

open Transaction Backend

/-- Batches of callers that control no transaction. -/
def Opaque (sql : String) : Prop := Database.commands sql = none

variable {b : Backend} {x : Order}

theorem Order.accounted_send (h : Accounted b) (hx : ∀ sql, x = .batch sql → Opaque sql)
    (ho : x.opened (x.send server b).1 = .outside) : Accounted (x.send server b).2 := by
  cases x with
  | run r =>
    obtain ⟨ok, hh, -⟩ := handled_run r b
    cases r <;> exact h.statement hh
  | batch sql =>
    have hh := request_handled (.ofBatch sql) b
    rw [Message.ofBatch_of_none (hx sql rfl)] at hh
    simp only [send, server, Message.ofBatch_of_none (hx sql rfl)]
    exact h.statement hh
  | begin o =>
    rcases hb : server.batch o.beginSql b with ⟨e | _, b'⟩
    · simp only [send, hb]
      exact h.begin hb
    · simp only [send, hb] at ho
      cases ho

/-- An order is refused because the client cannot clean up, or it is sent where every open block is
orphaned. -/
theorem place_server {g : Client Backend} (h : g.abandoned = false → Accounted g.inner)
    (x : Order) :
    (∃ e b, g.settle server = (.error e, ⟨b, true⟩) ∧
      x.place (connection server) g = (.error e, ⟨.outside, b, true⟩)) ∨
    ∃ b, g.settle server = (.ok (), ⟨b, false⟩) ∧
      x.place (connection server) g =
        ((x.send server b).1, ⟨x.opened (x.send server b).1, (x.send server b).2, false⟩) ∧
      Accounted b := by
  have hannounce : x.announce server g.inner = g.inner := by cases x <;> rfl
  cases hg : g.abandoned with
  | false =>
    refine .inr ⟨g.inner, ?_, ?_, h hg⟩
    · rw [settle_of_settled hg, ← hg]
    · rw [Order.place_of_settled hg, hannounce]
  | true =>
    rw [settle_of_abandoned hg, Order.place_of_abandoned hg, hannounce]
    rcases hs : send server "settle transaction" "ROLLBACK" g.inner with ⟨e | _, b⟩
    · exact .inl ⟨e, b, rfl, rfl⟩
    · exact .inr ⟨b, rfl, rfl, accounted_of_none (none_of_ending (.inr rfl) hs)⟩

/-- With nothing open on a client that has nothing to clean up, every block is orphaned. -/
theorem Use.accounted {fates : Nat → Fate} {s : State Unit (Client Backend)}
    (h : Use server Opaque (fresh fates) s) :
    s.scope = .outside → s.world.abandoned = false → Accounted s.world.inner := by
  refine h.invariant
    (P := fun s => s.scope = .outside → s.world.abandoned = false → Accounted s.world.inner)
    ?_ ?_ ?_ ?_
  · exact fun _ _ => accounted_of_none rfl
  · intro g x hg hx ho hs
    rcases place_server (hg rfl) x with ⟨e, b, -, hp⟩ | ⟨b, -, hp, hb⟩ <;> rw [hp] at ho hs ⊢
    · cases hs
    · exact Order.accounted_send hb hx ho
  · exact fun _ _ ho hout => absurd hout ho
  · intro scope b g _ hl _ hg
    cases hl with
    | dropped => cases hg
    | @ended _ _ r _ _ _ _ hsql he hr =>
      -- the client has nothing to clean up only if the last statement has succeeded
      rcases r with e | _
      · rw [hr] at hg
        cases hg
      · exact accounted_of_none (none_of_ending hsql he)

/-- A statement on a client with no transaction open on it is not sent, because the client cannot
clean up, or it runs inside a block if and only if the block is orphaned. -/
theorem Use.inside_iff_orphaned {fates : Nat → Fate} {g : Client Backend}
    (h : Use server Opaque (fresh fates) ⟨.outside, g⟩) (x : Order) :
    (∃ e b, g.settle server = (.error e, ⟨b, true⟩) ∧
      x.place (connection server) g = (.error e, ⟨.outside, b, true⟩)) ∨
    ∃ b, g.settle server = (.ok (), ⟨b, false⟩) ∧
      x.place (connection server) g =
        ((x.send server b).1, ⟨x.opened (x.send server b).1, (x.send server b).2, false⟩) ∧
      (b.database.block.isSome ↔ b.Orphaned) := by
  rcases place_server (h.accounted rfl) x with hrefused | ⟨b, hs, hp, hb⟩
  · exact .inl hrefused
  · exact .inr ⟨b, hs, hp, hb, OrphanedBy.opened⟩

/-- A `COMMIT` is carried out without an answer, so a `ROLLBACK` comes before the next statement. -/
theorem unanswered_commit_leaves_nothing_open :
    ∃ (fates : Nat → Fate) (g : Client Backend) (x : Order) (b : Backend),
      Use server Opaque (fresh fates) ⟨.outside, g⟩ ∧ g.abandoned = true ∧
        (x.place (connection server) g).1 = (x.send server b).1 ∧
        b.database = ⟨[⟨1, "INSERT INTO t VALUES (1)", []⟩], none⟩ ∧ ¬ b.Orphaned := by
  let fates := servedBut 2 (.unanswered (.timeout (.ofMillis 50)))
  let b₁ := (fresh fates).take (.batch TransactionOptions.default.beginSql)
  let b₂ := b₁.take (.statement "INSERT INTO t VALUES (1)" [])
  let b₃ := b₂.take (.batch "COMMIT")
  let b₄ := b₃.take (.batch "ROLLBACK")
  have h₁ : Use server Opaque (fresh fates) ⟨.transaction () (idle false), b₁, false⟩ :=
    Use.unused.of_place (.begin .default) nofun rfl
  have h₂ : Use server Opaque (fresh fates) ⟨.transaction () (idle false), b₂, false⟩ :=
    h₁.of_act nofun (rfl : act _ (.run (.exec "INSERT INTO t VALUES (1)" [])) _ = _)
  have h₃ : Use server Opaque (fresh fates) ⟨.outside, b₃, true⟩ :=
    h₂.of_act nofun (rfl : act _ .commit _ = _)
  have hsettle : (Client.mk b₃ true).settle server = (.ok (), ⟨b₄, false⟩) := rfl
  have hdatabase : b₄.database = ⟨[⟨1, "INSERT INTO t VALUES (1)", []⟩], none⟩ := rfl
  rcases h₃.inside_iff_orphaned (.run (.exec "SELECT 1" [])) with ⟨e, b, hs, -⟩ | ⟨b, hs, hp, hiff⟩
  · rw [hsettle] at hs
    cases hs
  · rw [hsettle] at hs
    cases hs
    refine ⟨fates, _, .run (.exec "SELECT 1" []), b₄, h₃, rfl, congrArg Prod.fst hp, hdatabase, ?_⟩
    intro ho
    have hopen := hiff.mpr ho
    rw [hdatabase] at hopen
    cases hopen

/-- A `BEGIN` is carried out without an answer. The next statement is answered well, and is part of
the work of a block that nobody will commit. -/
theorem unanswered_begin_leaves_block_open :
    ∃ (fates : Nat → Fate) (g g' : Client Backend) (r : Run) (n : Nat) (k : Block),
      Use server Opaque (fresh fates) ⟨.outside, g⟩ ∧
        (Order.run r).place (connection server) g = (.ok (.count n), ⟨.outside, g'⟩) ∧
        g'.inner.database.block = some k ∧ r.execution g.inner.requests ∈ k.work := by
  let fates := servedBut 0 (.unanswered (.timeout (.ofMillis 50)))
  let b₁ := (fresh fates).take (.batch TransactionOptions.default.beginSql)
  let b₂ := b₁.take (.statement "INSERT INTO t VALUES (1)" [])
  have h₁ : Use server Opaque (fresh fates) ⟨.outside, b₁, false⟩ :=
    Use.unused.of_place (.begin .default) nofun rfl
  have hdatabase : b₂.database = ⟨[], some ⟨[⟨1, "INSERT INTO t VALUES (1)", []⟩], []⟩⟩ := rfl
  refine ⟨fates, ⟨b₁, false⟩, ⟨b₂, false⟩, .exec "INSERT INTO t VALUES (1)" [], 1, _, h₁, rfl,
    congrArg Database.block hdatabase, List.mem_cons_self⟩

end Client

end BoundSql
