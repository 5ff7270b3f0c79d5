import BoundSql.Proofs.Client.Basic
import BoundSql.Proofs.Database.Backend
/-!
The actions alone say which statements are meant to be kept. The stack of savepoints of one name,
the oldest of which may have been rolled back to and left in place, makes exactly them the work of
the block.
-/

namespace BoundSql

def Run.statement : Run → Statement
  | exec sql args | query sql args | queryStream sql args | queryRow sql args => ⟨sql, args⟩

def Execution.statement (x : Execution) : Statement := ⟨x.sql, x.args⟩

@[simp] theorem Run.execution_statement (r : Run) (number : Nat) :
    (r.execution number).statement = r.statement := by
  cases r <;> rfl

/-- The statements that a transaction is to commit, and those of its open savepoint. -/
structure Intent where
  kept : List Statement
  inner : Option (List Statement)

/-- Statements of a savepoint join those of the transaction when it is committed, and are forgotten
when it is rolled back or dropped. -/
def Intent.act (a : Action) : Intent → Intent
  | ⟨kept, none⟩ =>
    match a with
    | .run r => ⟨kept ++ [r.statement], none⟩
    | .begin _ => ⟨kept, some []⟩
    | .commit | .rollback | .conclude _ | .drop | .describe => ⟨kept, none⟩
  | ⟨kept, some inner⟩ =>
    match a with
    | .run r => ⟨kept, some (inner ++ [r.statement])⟩
    | .commit | .conclude (.ok _) => ⟨kept ++ inner, none⟩
    | .rollback | .conclude (.error _) | .drop => ⟨kept, none⟩
    | .begin _ | .describe => ⟨kept, some inner⟩

theorem Intent.act_of_commits {a : Action} (ha : a.commits = true) (kept inner : List Statement) :
    Intent.act a ⟨kept, some inner⟩ = ⟨kept ++ inner, none⟩ := by
  rcases a with _ | _ | _ | _ | (_ | _) | _ | _ <;> first | rfl | cases ha

theorem Intent.act_of_rollsBack {a : Action} (ha : a.rollsBack = true)
    (kept inner : List Statement) : Intent.act a ⟨kept, some inner⟩ = ⟨kept, none⟩ := by
  rcases a with _ | _ | _ | _ | (_ | _) | _ | _ <;> first | rfl | cases ha

namespace Backend

open Transaction

/-- Every request is served. -/
def Reliable (b : Backend) : Prop := ∀ n, ∃ affected rows, b.fates n = .served affected rows

variable {b : Backend} {d : Database}

theorem Reliable.request (hb : b.Reliable) {m : Message}
    (h : m.apply b.requests b.database = some d) :
    ∃ q, b.request m = (.ok q, b.take m) := by
  obtain ⟨affected, rows, hf⟩ := hb b.requests
  exact ⟨(affected, rows), by simp only [Backend.request, hf, h]⟩

theorem Reliable.send (hb : b.Reliable) {sql : String} (h : b.database.batch sql = some d)
    (step : String) :
    ∃ b', send connection step sql b = (.ok (), b') ∧ b'.Reliable ∧ b'.database = d := by
  obtain ⟨q, hq⟩ := hb.request (m := .batch sql) h
  have hs : Transaction.send connection step sql b = (.ok (), b.take (.batch sql)) := by
    simp only [Transaction.send, connection, hq]
    rfl
  refine ⟨_, hs, hb, ?_⟩
  rcases (handled_send hs).of_batch with ⟨hok, -⟩ | hd
  · cases hok
  · rw [h] at hd
    exact (Option.some.inj hd).symm

theorem Reliable.run (hb : b.Reliable) (r : Run) :
    (connection.run r b).2.Reliable ∧
      (connection.run r b).2.database = b.database.execute (r.execution b.requests) := by
  obtain ⟨q, hq⟩ := hb.request (r.message_apply b.requests b.database)
  have hh := request_handled r.message b
  rw [(run_request r b).1]
  rw [hq] at hh ⊢
  refine ⟨hb, ?_⟩
  rcases hh.of_run with ⟨hok, -⟩ | hd
  · cases hok
  · exact hd

/-- The client of a backend. -/
abbrev client : Connection (Client Backend) := Client.connection connection

end Backend

namespace Client

open Transaction

/-- A client that never fails and has nothing to clean up, and its database. -/
structure Serving (g : Client Backend) (d : Database) : Prop where
  reliable : g.inner.Reliable
  settled : g.abandoned = false
  database_eq : g.inner.database = d

variable {g g' : Client Backend} {d d' : Database} {step sql : String} {r : Except Error Unit}

theorem Serving.send (h : Serving g d) (hd : d.batch sql = some d')
    (hs : send Backend.client step sql g = (r, g')) :
    r = .ok () ∧ Serving g' d' := by
  rw [← h.database_eq] at hd
  obtain ⟨b, hb, hr, hdb⟩ := h.reliable.send hd step
  rw [send_of_settled h.settled, hb] at hs
  cases hs
  exact ⟨rfl, hr, rfl, hdb⟩

theorem Serving.ending (h : Serving g d) (hd : d.batch sql = some d')
    (he : ending Backend.client sql g = (r, g')) :
    r = .ok () ∧ Serving g' d' := by
  rcases hs : Transaction.send Backend.client sql sql g with ⟨r', g''⟩
  obtain ⟨rfl, hg⟩ := h.send hd hs
  simp only [Transaction.ending, hs] at he
  cases he
  exact ⟨rfl, hg⟩

theorem Serving.run (h : Serving g d) (r : Run) :
    ∃ number, Serving (Backend.client.run r g).2
      (d.execute (r.execution number)) := by
  obtain ⟨hr, hdb⟩ := h.reliable.run r
  rw [h.database_eq] at hdb
  rw [run_of_settled h.settled]
  exact ⟨g.inner.requests, hr, rfl, hdb⟩

/-- An open block is rolled back before the next statement if a transaction left it behind. -/
theorem settle_of_reliable (hr : g.inner.Reliable)
    (hg : g.inner.database.block = none ∨ g.abandoned = true) :
    ∃ g', g.settle Backend.connection = (.ok (), g') ∧
      Serving g' ⟨g.inner.database.committed, none⟩ := by
  cases hab : g.abandoned with
  | false =>
    have hblock : g.inner.database.block = none := by simpa [hab] using hg
    exact ⟨g, settle_of_settled hab, hr, hab, by rw [← hblock]⟩
  | true =>
    have hd : g.inner.database.batch "ROLLBACK" = some ⟨g.inner.database.committed, none⟩ :=
      Database.batch_rollback _
    obtain ⟨b, hb, hr', hdb⟩ := hr.send hd "settle transaction"
    refine ⟨⟨b, false⟩, ?_, hr', rfl, hdb⟩
    rw [settle_of_abandoned hab, hb]
    rfl

theorem send_of_settle (hs : g.settle Backend.connection = (.ok (), g'))
    (hg : g'.abandoned = false) :
    send Backend.client step sql g =
      send Backend.client step sql g' := by
  have hs' : g'.settle Backend.connection = (.ok (), g') := settle_of_settled hg
  simp only [Transaction.send, Backend.client, connection, settled]
  have hnote (g : Client Backend) (e : Event) :
      { g with inner := Backend.connection.note e g.inner } = g := rfl
  rw [hnote, hnote, hs, hs']

theorem send_begin (hr : g.inner.Reliable)
    (hg : g.inner.database.block = none ∨ g.abandoned = true) (o : TransactionOptions)
    (hs : send Backend.client step o.beginSql g = (r, g')) :
    r = .ok () ∧ Serving g' ⟨g.inner.database.committed, some ⟨[], []⟩⟩ := by
  obtain ⟨g₁, hsettle, hserving⟩ := settle_of_reliable hr hg
  rw [send_of_settle hsettle hserving.settled] at hs
  exact hserving.send (Database.batch_begin o _) hs

end Client

namespace Transaction

open Client

def statements (xs : List Execution) : List Statement := xs.map Execution.statement

/-- What the actions on a transaction mean to keep, the last turn first. -/
def intent {σ : Type} : List (Turn σ) → Intent
  | [] => ⟨[], none⟩
  | τ :: past => (intent past).act τ.action

/-- How an open block stands to what is meant. The work of an abandoned savepoint is still in the
block; savepoints that were rolled back to are left below, and do not matter. -/
inductive Mirrors (committed : List Execution) : Intent → State Unit (Client Backend) → Prop
  | idle {g : Client Backend} {work : List Execution} {savepoints : List (List Execution)}
      (hg : Serving g ⟨committed, some ⟨work, savepoints⟩⟩) :
      Mirrors committed ⟨statements work, none⟩ ⟨.transaction () (idle false), g⟩
  | abandoned {g : Client Backend} {work saved : List Execution} {older : List (List Execution)}
      (hg : Serving g ⟨committed, some ⟨work, saved :: older⟩⟩) :
      Mirrors committed ⟨statements saved, none⟩ ⟨.transaction () (idle true), g⟩
  | nested {g : Client Backend} {saved inner : List Execution} {older : List (List Execution)}
      (hg : Serving g ⟨committed, some ⟨saved ++ inner, saved :: older⟩⟩) :
      Mirrors committed ⟨statements saved, some (statements inner)⟩ ⟨.savepoint () nested, g⟩
  | outside {n : Intent} {g : Client Backend} : Mirrors committed n ⟨.outside, g⟩

variable {committed : List Execution} {n : Intent} {g g' : Client Backend} {b : Bool}

/-- Once it is settled the work of the block is all that is meant. -/
theorem Mirrors.settling {r : Except Error Unit}
    (h : Mirrors committed n ⟨.transaction () (Transaction.idle b), g⟩)
    (hs : settling Backend.client b g = (r, g')) :
    r = .ok () ∧ ∃ work savepoints, n = ⟨statements work, none⟩ ∧
      Serving g' ⟨committed, some ⟨work, savepoints⟩⟩ := by
  cases h with
  | @idle _ work savepoints hg =>
    cases hs
    exact ⟨rfl, work, savepoints, rfl, hg⟩
  | @abandoned _ work saved older hg =>
    obtain ⟨hok, hg'⟩ := hg.send (Database.batch_settle _) hs
    exact ⟨hok, saved, older, rfl, hg'⟩

theorem statements_concat (xs : List Execution) (r : Run) (number : Nat) :
    statements (xs ++ [r.execution number]) = statements xs ++ [r.statement] := by
  simp [statements]

theorem Mirrors.move {s s' : State Unit (Client Backend)} {a : Action} {r : Except Error Answer}
    (h : Mirrors committed n s) (hm : Moves Backend.client s a r s') :
    Mirrors committed (n.act a) s' := by
  cases hm with
  | unsettled ha hs =>
    obtain ⟨hok, -⟩ := h.settling hs
    cases hok
  | @run _ q _ _ hs =>
    obtain ⟨-, work, savepoints, rfl, hg⟩ := h.settling hs
    obtain ⟨number, hg'⟩ := hg.run q
    rw [Intent.act, ← statements_concat work q number]
    exact .idle hg'
  | refused hs hb =>
    obtain ⟨-, work, savepoints, rfl, hg⟩ := h.settling hs
    obtain ⟨hok, -⟩ := hg.send (Database.batch_savepoint _) hb
    cases hok
  | @begun _ _ _ _ g₂ hs hb =>
    obtain ⟨-, work, savepoints, rfl, hg⟩ := h.settling hs
    obtain ⟨-, hg'⟩ := hg.send (Database.batch_savepoint _) hb
    have hnested : Serving g₂ ⟨committed, some ⟨work ++ [], work :: savepoints⟩⟩ := by
      rw [List.append_nil]
      exact hg'
    exact .nested hnested
  | undone ha hs =>
    obtain ⟨hok, -⟩ := h.settling hs
    cases hok
  | committed | rolledBack | dropped => exact .outside
  | described =>
    cases h with
    | idle hg => exact .idle hg
    | abandoned hg => exact .abandoned hg
  | @nestedRun q g =>
    cases h with
    | @nested _ saved inner older hg =>
      obtain ⟨number, hg'⟩ := hg.run q
      have hnested : Serving (Backend.client.run q g).2
          ⟨committed, some ⟨saved ++ (inner ++ [q.execution number]), saved :: older⟩⟩ := by
        rw [← List.append_assoc]
        exact hg'
      rw [Intent.act, ← statements_concat inner q number]
      exact .nested hnested
  | nestedBegin | nestedDescribe =>
    cases h with
    | nested hg => exact .nested hg
  | nestedCommit ha hb =>
    cases h with
    | @nested _ saved inner older hg =>
      obtain ⟨-, hg'⟩ := hg.send (Database.batch_release _) hb
      rw [Intent.act_of_commits ha, statements, statements, ← List.map_append]
      exact .idle hg'
  | nestedRollback ha hb =>
    cases h with
    | @nested _ saved inner older hg =>
      -- the savepoint stays on the stack of the server
      obtain ⟨rfl, hg'⟩ := hg.send (Database.batch_rollbackTo _) hb
      rw [Intent.act_of_rollsBack ha]
      exact .idle hg'
  | nestedDrop =>
    cases h with
    | nested hg => exact .abandoned hg

theorem Course.mirrors {g₀ : Client Backend} {past : List (Turn (Client Backend))}
    {s : State Unit (Client Backend)}
    (h : Course Backend.client g₀ past s) (hr : g₀.inner.Reliable)
    (hg : g₀.inner.database.block = none ∨ g₀.abandoned = true) :
    Mirrors g₀.inner.database.committed (intent past) s := by
  refine h.invariant (P := fun past s => Mirrors g₀.inner.database.committed (intent past) s) ?_ ?_
  · intro o w hb
    exact .idle (send_begin hr hg o hb).2
  · intro past s a r s' _ hs hm
    exact hs.move hm

theorem Mirrors.serving (h : Mirrors committed n ⟨.transaction () (Transaction.idle b), g⟩) :
    ∃ block, Serving g ⟨committed, block⟩ := by
  cases h with
  | idle hg => exact ⟨_, hg⟩
  | abandoned hg => exact ⟨_, hg⟩

/-- What the last action on a transaction leaves, given what was committed before it and what is to
be kept of it. -/
structure Outcome (committed : List Execution) (kept : List Statement) (a : Action)
    (r : Except Error Answer) (g : Client Backend) : Prop where
  of_commits : a.commits = true → r = a.answer (.ok ()) ∧
    ∃ work, statements work = kept ∧ Serving g ⟨committed ++ work, none⟩
  of_rollsBack : a.rollsBack = true → r = a.answer (.ok ()) ∧ Serving g ⟨committed, none⟩
  of_drop : a = .drop → ∃ g', g.settle Backend.connection = (.ok (), g') ∧
    Serving g' ⟨committed, none⟩

theorem Moves.ended {s s' : State Unit (Client Backend)} {a : Action} {r : Except Error Answer}
    (hm : Moves Backend.client s a r s') (h : Mirrors committed n s) (hend : s'.scope = .outside) :
    Outcome committed n.kept a r s'.world := by
  cases hm with
  | undone ha hs =>
    obtain ⟨hok, -⟩ := h.settling hs
    cases hok
  | committed ha hs he =>
    obtain ⟨-, work, savepoints, rfl, hg⟩ := h.settling hs
    obtain ⟨rfl, hg'⟩ := hg.ending (Database.batch_commit _) he
    refine ⟨fun _ => ⟨rfl, work, rfl, hg'⟩, fun hb => ?_, ?_⟩
    · rw [Action.rollsBack_of_commits ha] at hb
      cases hb
    · rintro rfl
      cases ha
  | rolledBack ha he =>
    obtain ⟨block, hg⟩ := h.serving
    obtain ⟨rfl, hg'⟩ := hg.ending (Database.batch_rollback _) he
    refine ⟨fun hb => ?_, fun _ => ⟨rfl, hg'⟩, ?_⟩
    · rw [Action.rollsBack_of_commits hb] at ha
      cases ha
    · rintro rfl
      cases ha
  | dropped =>
    obtain ⟨block, hg⟩ := h.serving
    obtain ⟨g, hsettle, hg'⟩ := settle_of_reliable (g := Client.mk _ true) hg.reliable (.inr rfl)
    rw [hg.database_eq] at hg'
    exact ⟨nofun, nofun, fun _ => ⟨g, hsettle, hg'⟩⟩
  | unsettled | run | refused | begun | described | nestedRun | nestedBegin | nestedCommit
  | nestedRollback | nestedDrop | nestedDescribe => cases hend

/-- On a connection that never fails, and is outside any block or cleans up first, every transaction
begins. A commit of it adds to what is committed exactly the statements that are meant to be kept,
in their order; after a rollback, or a drop once the connection has settled, nothing is added. -/
theorem Course.outcome {g₀ : Client Backend} (hr : g₀.inner.Reliable)
    (hg : g₀.inner.database.block = none ∨ g₀.abandoned = true) :
    (∀ o, ∃ g, Transaction.start Backend.client o g₀ = (.ok (Transaction.idle false), g)) ∧
      ∀ {τ : Turn (Client Backend)} {past : List (Turn (Client Backend))}
        {s : State Unit (Client Backend)}, Course Backend.client g₀ (τ :: past) s →
        s.scope = .outside →
          Outcome g₀.inner.database.committed (intent past).kept τ.action τ.answer s.world := by
  refine ⟨fun o => ?_, fun h hend => ?_⟩
  · rcases hs : send Backend.client "begin" o.beginSql g₀ with ⟨r, g⟩
    obtain ⟨rfl, -⟩ := send_begin hr hg o hs
    exact ⟨g, by simp only [Transaction.start, hs]; rfl⟩
  · obtain ⟨hpast, hm, rfl⟩ := h.moves
    exact hm.ended (hpast.mirrors hr hg) hend

/-- A client of a database that nothing was sent to, and that will serve everything. -/
def newClient : Client Backend := .ofInner (.fresh fun _ => .served 1 .empty)

theorem reliable_newClient : newClient.inner.Reliable := fun _ => ⟨1, .empty, rfl⟩

/-- One savepoint is rolled back, one is dropped, and one is committed. -/
theorem committed_savepoint_kept :
    ∃ (past : List (Turn (Client Backend))) (s : State Unit (Client Backend)),
      Course Backend.client newClient past s ∧
      ∃ work,
        statements work =
          [⟨"INSERT INTO t VALUES (1)", []⟩, ⟨"INSERT INTO t VALUES (4)", []⟩] ∧
        Serving s.world ⟨work, none⟩ := by
  let b₁ := newClient.inner.take (.batch TransactionOptions.default.beginSql)
  let b₂ := b₁.take (.statement "INSERT INTO t VALUES (1)" [])
  let b₃ := b₂.take (.batch savepointSql)
  let b₄ := b₃.take (.statement "INSERT INTO t VALUES (2)" [])
  let b₅ := b₄.take (.batch rollbackToSql)
  let b₆ := b₅.take (.batch savepointSql)
  let b₇ := b₆.take (.statement "INSERT INTO t VALUES (3)" [])
  let b₈ := (b₇.take (.batch settleSql)).take (.batch savepointSql)
  let b₉ := b₈.take (.statement "INSERT INTO t VALUES (4)" [])
  let b₁₀ := b₉.take (.batch releaseSql)
  let b₁₁ := b₁₀.take (.batch "COMMIT")
  have hstart : Transaction.start Backend.client .default newClient =
      (.ok (Transaction.idle false), .ofInner b₁) := rfl
  have h₁ := Course.start hstart
  have h₂ := h₁.of_act nofun
    (rfl : act _ (.run (.exec "INSERT INTO t VALUES (1)" [])) _ =
      (.ok (.count 1), ⟨.transaction () (Transaction.idle false), .ofInner b₂⟩))
  have h₃ := h₂.of_act nofun
    (rfl : act _ (.begin .default) _ = (.ok .done, ⟨.savepoint () Transaction.nested, .ofInner b₃⟩))
  have h₄ := h₃.of_act nofun
    (rfl : act _ (.run (.exec "INSERT INTO t VALUES (2)" [])) _ =
      (.ok (.count 1), ⟨.savepoint () Transaction.nested, .ofInner b₄⟩))
  have h₅ := h₄.of_act nofun
    (rfl : act _ .rollback _ =
      (.ok .done, ⟨.transaction () (Transaction.idle false), .ofInner b₅⟩))
  have h₆ := h₅.of_act nofun
    (rfl : act _ (.begin .default) _ = (.ok .done, ⟨.savepoint () Transaction.nested, .ofInner b₆⟩))
  have h₇ := h₆.of_act nofun
    (rfl : act _ (.run (.exec "INSERT INTO t VALUES (3)" [])) _ =
      (.ok (.count 1), ⟨.savepoint () Transaction.nested, .ofInner b₇⟩))
  have hdropped := h₇.of_act nofun
    (rfl : act _ .drop _ = (.ok .done, ⟨.transaction () (Transaction.idle true), .ofInner b₇⟩))
  have h₈ := hdropped.of_act nofun
    (rfl : act _ (.begin .default) _ = (.ok .done, ⟨.savepoint () Transaction.nested, .ofInner b₈⟩))
  have h₉ := h₈.of_act nofun
    (rfl : act _ (.run (.exec "INSERT INTO t VALUES (4)" [])) _ =
      (.ok (.count 1), ⟨.savepoint () Transaction.nested, .ofInner b₉⟩))
  have h₁₀ := h₉.of_act nofun
    (rfl : act _ .commit _ =
      (.ok .done, ⟨.transaction () (Transaction.idle false), .ofInner b₁₀⟩))
  have h₁₁ := h₁₀.of_act nofun (rfl : act _ .commit _ = (.ok .done, ⟨.outside, .ofInner b₁₁⟩))
  obtain ⟨-, houtcome⟩ := Course.outcome reliable_newClient (.inl rfl)
  obtain ⟨-, work, hwork, hserving⟩ := (houtcome h₁₁ rfl).of_commits rfl
  exact ⟨_, _, h₁₁, work, hwork, hserving⟩

end Transaction

end BoundSql
