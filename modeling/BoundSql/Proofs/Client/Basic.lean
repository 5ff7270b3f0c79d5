import BoundSql.Client
import BoundSql.Proofs.Transaction.Course

namespace BoundSql

namespace Client

open Transaction

section Settled

variable {σ : Type} {c : Connection σ} {g g' : Client σ} {step sql : String}

theorem settle_of_settled (h : g.abandoned = false) : g.settle c = (.ok (), g) := by
  simp [settle, h]

theorem settled_of_settled {α : Type} (h : g.abandoned = false) (run : σ → Except Error α × σ) :
    g.settled c run = ((run g.inner).1, ⟨(run g.inner).2, false⟩) := by
  obtain ⟨w, b⟩ := g
  cases h
  rfl

/-- A client that has to clean up sends a `ROLLBACK`, and is done once it has succeeded. -/
theorem settle_of_abandoned (h : g.abandoned = true) :
    g.settle c = ((send c "settle transaction" "ROLLBACK" g.inner).1,
      ⟨(send c "settle transaction" "ROLLBACK" g.inner).2,
        !(send c "settle transaction" "ROLLBACK" g.inner).1.toBool⟩) := by
  simp only [settle, h, if_true, send]
  rcases c.batch "ROLLBACK" (c.note (.transaction "settle transaction" "ROLLBACK") g.inner) with
    ⟨e | _, w⟩ <;> rfl

theorem run_connection (r : Run) (g : Client σ) :
    (connection c).run r g = g.settled c (c.run r) := by
  cases r with
  | exec sql args =>
    simp only [Executor.run, connection, settled]
    rcases g.settle c with ⟨e | _, g⟩
    · rfl
    · rcases hx : c.exec sql args g.inner with ⟨e | n, w⟩ <;> simp only [hx]
  | query sql args | queryStream sql args | queryRow sql args =>
    simp only [Executor.run, Executor.reading, connection, settled]
    rcases g.settle c with ⟨e | _, g⟩
    · rfl
    · rcases hq : c.query sql args g.inner with ⟨e | rows, w⟩ <;> simp only [hq]

theorem send_of_settled (h : g.abandoned = false) (step sql : String) :
    send (connection c) step sql g =
      ((send c step sql g.inner).1, ⟨(send c step sql g.inner).2, false⟩) := by
  obtain ⟨w, b⟩ := g
  cases h
  rfl

theorem run_of_settled (h : g.abandoned = false) (r : Run) :
    (connection c).run r g = ((c.run r g.inner).1, ⟨(c.run r g.inner).2, false⟩) := by
  rw [run_connection, settled_of_settled h]

/-! A client that has nothing to clean up passes on what a transaction sends. -/

variable {b : Bool} {r : Except Error Unit}

theorem of_send (hg : g.abandoned = false) (hs : send (connection c) step sql g = (r, g')) :
    send c step sql g.inner = (r, g'.inner) ∧ g'.abandoned = false := by
  rw [send_of_settled hg] at hs
  obtain ⟨rfl, rfl⟩ := Prod.mk.inj hs
  exact ⟨rfl, rfl⟩

theorem of_settling (hg : g.abandoned = false) (hs : settling (connection c) b g = (r, g')) :
    settling c b g.inner = (r, g'.inner) ∧ g'.abandoned = false := by
  cases b with
  | false =>
    cases hs
    exact ⟨rfl, hg⟩
  | true => exact of_send hg hs

theorem of_ending (hg : g.abandoned = false) (he : ending (connection c) sql g = (r, g')) :
    send c sql sql g.inner = (r, g'.inner) ∧ g'.abandoned = !r.toBool := by
  simp only [ending, send_of_settled hg] at he
  rcases hs : send c sql sql g.inner with ⟨e | _, w⟩ <;> rw [hs] at he <;> cases he <;>
    exact ⟨rfl, rfl⟩

end Settled

section Moves

variable {σ : Type} {c : Connection σ} {s s' : State Unit (Client σ)} {a : Action}
  {r : Except Error Answer}

/-- While a transaction goes on, its moves are moves on the connection of the client. -/
theorem inner_of_moves (hm : Moves (connection c) s a r s') (hg : s.world.abandoned = false)
    (ho : s'.scope ≠ .outside) :
    Moves c ⟨s.scope, s.world.inner⟩ a r ⟨s'.scope, s'.world.inner⟩ ∧
      s'.world.abandoned = false := by
  cases hm with
  | unsettled ha hs =>
    obtain ⟨hs, hg⟩ := of_settling hg hs
    exact ⟨.unsettled ha hs, hg⟩
  | run hs =>
    obtain ⟨hs, hg⟩ := of_settling hg hs
    rw [run_of_settled hg]
    exact ⟨.run hs, rfl⟩
  | refused hs hb =>
    obtain ⟨hs, hg⟩ := of_settling hg hs
    obtain ⟨hb, hg⟩ := of_send hg hb
    exact ⟨.refused hs hb, hg⟩
  | begun hs hb =>
    obtain ⟨hs, hg⟩ := of_settling hg hs
    obtain ⟨hb, hg⟩ := of_send hg hb
    exact ⟨.begun hs hb, hg⟩
  | undone | committed | rolledBack | dropped => exact absurd rfl ho
  | described => exact ⟨.described, hg⟩
  | nestedRun =>
    rw [run_of_settled hg]
    exact ⟨.nestedRun, rfl⟩
  | nestedBegin => exact ⟨.nestedBegin, hg⟩
  | nestedCommit ha hb =>
    obtain ⟨hb, hg⟩ := of_send hg hb
    exact ⟨.nestedCommit ha hb, hg⟩
  | nestedRollback ha hb =>
    obtain ⟨hb, hg⟩ := of_send hg hb
    exact ⟨.nestedRollback ha hb, hg⟩
  | nestedDrop => exact ⟨.nestedDrop, hg⟩
  | nestedDescribe => exact ⟨.nestedDescribe, hg⟩

/-- How the end of a transaction leaves a client: it has to clean up after one that was dropped, and
after one whose last statement failed. -/
inductive Left (c : Connection σ) (w : σ) : Client σ → Prop
  | dropped : Left c w ⟨c.note (.abandoned .transaction) w, true⟩
  | ended {b : Bool} {r₁ r₂ : Except Error Unit} {sql : String} {w₁ : σ} {g : Client σ}
      (hs : settling c b w = (r₁, w₁)) (hsql : sql = "COMMIT" ∨ sql = "ROLLBACK")
      (he : send c sql sql w₁ = (r₂, g.inner)) (hg : g.abandoned = !r₂.toBool) : Left c w g

theorem left_of_moves (hm : Moves (connection c) s a r s') (hg : s.world.abandoned = false)
    (ho : s'.scope = .outside) : Left c s.world.inner s'.world := by
  cases hm with
  | undone ha hs he =>
    obtain ⟨hs, hg⟩ := of_settling hg hs
    obtain ⟨he, hg⟩ := of_ending hg he
    exact .ended hs (.inr rfl) he hg
  | committed ha hs he =>
    obtain ⟨hs, hg⟩ := of_settling hg hs
    obtain ⟨he, hg⟩ := of_ending hg he
    exact .ended hs (.inl rfl) he hg
  | rolledBack ha he =>
    obtain ⟨he, hg⟩ := of_ending hg he
    exact .ended (settling_false _) (.inr rfl) he hg
  | dropped => exact .dropped
  | unsettled | run | refused | begun | described | nestedRun | nestedBegin | nestedCommit
  | nestedRollback | nestedDrop | nestedDescribe => cases ho

end Moves

/-- What can be asked of a client that has nothing open on it. -/
inductive Order where
  | run (r : Run)
  | batch (sql : String)
  | begin (o : TransactionOptions)

namespace Order

variable {σ : Type}

def announce (c : Connection σ) : Order → σ → σ
  | begin o, w => c.note (.transaction "begin" o.beginSql) w
  | run _, w | batch _, w => w

/-- Send the order's own statement. -/
def send (c : Connection σ) : Order → σ → Except Error Answer × σ
  | run r, w => c.run r w
  | batch sql, w => (Answer.ofUnit (c.batch sql w).1, (c.batch sql w).2)
  | begin o, w => (Answer.ofUnit (c.batch o.beginSql w).1, (c.batch o.beginSql w).2)

/-- What is open after the answer. -/
def opened : Order → Except Error Answer → Scope Unit
  | begin _, .ok _ => .transaction () (idle false)
  | _, _ => .outside

def place (c : Connection σ) (x : Order) (w : σ) : Except Error Answer × State Unit σ :=
  match x with
  | run r => act c (.run r) ⟨.outside, w⟩
  | begin o => act c (.begin o) ⟨.outside, w⟩
  | batch sql => (Answer.ofUnit (c.batch sql w).1, ⟨.outside, (c.batch sql w).2⟩)

theorem place_eq (c : Connection σ) (x : Order) (w : σ) :
    x.place c w = ((x.send c (x.announce c w)).1,
      ⟨x.opened (x.send c (x.announce c w)).1, (x.send c (x.announce c w)).2⟩) := by
  cases x with
  | run r | batch sql => rfl
  | begin o =>
    simp only [place, act, Scope.step, Scope.stepOutside, Scope.beginOn, Host.single, start,
      Transaction.send, send, announce]
    rcases c.batch o.beginSql (c.note (.transaction "begin" o.beginSql) w) with ⟨e | _, w'⟩ <;> rfl

variable {c : Connection σ} {g : Client σ}

theorem announce_connection (x : Order) :
    x.announce (connection c) g = ⟨x.announce c g.inner, g.abandoned⟩ := by
  cases x <;> rfl

theorem send_connection (x : Order) : x.send (connection c) g = g.settled c (x.send c) := by
  cases x with
  | run r => exact run_connection r g
  | batch sql | begin o =>
    simp only [send, connection, settled]
    rcases g.settle c with ⟨e | _, g⟩ <;> rfl

/-- A client with nothing to clean up sends the order's own statement. -/
theorem place_of_settled (hg : g.abandoned = false) (x : Order) :
    x.place (connection c) g = ((x.send c (x.announce c g.inner)).1,
      ⟨x.opened (x.send c (x.announce c g.inner)).1,
        (x.send c (x.announce c g.inner)).2, false⟩) := by
  obtain ⟨w, b⟩ := g
  cases hg
  rw [place_eq, announce_connection, send_connection, settled_of_settled rfl]

/-- A client that has to clean up sends the order's own statement after a `ROLLBACK` that has
succeeded, and otherwise returns the error of the `ROLLBACK`. -/
theorem place_of_abandoned (hg : g.abandoned = true) (x : Order) :
    x.place (connection c) g =
      match Transaction.send c "settle transaction" "ROLLBACK" (x.announce c g.inner) with
      | (.error e, w) => (.error e, ⟨.outside, w, true⟩)
      | (.ok (), w) => ((x.send c w).1, ⟨x.opened (x.send c w).1, (x.send c w).2, false⟩) := by
  obtain ⟨w, b⟩ := g
  cases hg
  rw [place_eq, announce_connection, send_connection, settled, settle_of_abandoned rfl]
  rcases Transaction.send c "settle transaction" "ROLLBACK" (x.announce c w) with ⟨e | _, w'⟩
  · cases x <;> rfl
  · rfl

end Order

/-- The states that the use of a client leads to. Orders are placed while nothing is open, and
`sends` tells which batches its callers send; a transaction that is open acts. -/
inductive Use {σ : Type} (c : Connection σ) (sends : String → Prop) (w₀ : σ) :
    State Unit (Client σ) → Prop
  | unused : Use c sends w₀ ⟨.outside, .ofInner w₀⟩
  | order {g : Client σ} (h : Use c sends w₀ ⟨.outside, g⟩) (x : Order)
      (hx : ∀ sql, x = .batch sql → sends sql) : Use c sends w₀ (x.place (connection c) g).2
  | act {s : State Unit (Client σ)} (h : Use c sends w₀ s) (ho : s.scope ≠ .outside) (a : Action) :
      Use c sends w₀ (act (connection c) a s).2

namespace Use

variable {σ : Type} {c : Connection σ} {sends : String → Prop} {w₀ : σ}
  {s s' : State Unit (Client σ)}

theorem tidy (h : Use c sends w₀ s) : Tidy s.scope := by
  induction h with
  | unused => exact .outside
  | @order g h x hx ih =>
    rw [Order.place_eq]
    rcases x with r | sql | o
    · exact .outside
    · exact .outside
    · rcases (Order.send _ (.begin o) _).1 with e | _
      · exact .outside
      · exact .transaction false
  | act h ho a ih => exact (moves_act ih ho a).tidy

/-- A client never has to clean up while a transaction is open. -/
theorem settled (h : Use c sends w₀ s) (ho : s.scope ≠ .outside) : s.world.abandoned = false := by
  induction h with
  | unused => exact absurd rfl ho
  | @order g h x hx ih =>
    cases hg : g.abandoned with
    | false => rw [Order.place_of_settled hg]
    | true =>
      rw [Order.place_of_abandoned hg] at ho ⊢
      rcases hs : Transaction.send c "settle transaction" "ROLLBACK" (x.announce c g.inner) with
        ⟨e | _, w⟩
      · rw [hs] at ho
        exact absurd rfl ho
      · rfl
  | act h hopen a ih => exact (inner_of_moves (moves_act h.tidy hopen a) (ih hopen) ho).2

/-- What holds of an unused client, and is kept by every order, by the moves of a transaction that
goes on and by its end, holds throughout. -/
theorem invariant {P : State Unit (Client σ) → Prop} (hunused : P ⟨.outside, .ofInner w₀⟩)
    (horder : ∀ {g : Client σ} {x : Order}, P ⟨.outside, g⟩ → (∀ sql, x = .batch sql → sends sql) →
      P (x.place (connection c) g).2)
    (hmove : ∀ {s s' : State Unit σ} {a r}, P ⟨s.scope, s.world, false⟩ → Moves c s a r s' →
      s'.scope ≠ .outside → P ⟨s'.scope, s'.world, false⟩)
    (hleft : ∀ {scope w g}, P ⟨scope, w, false⟩ → Left c w g → P ⟨.outside, g⟩)
    (h : Use c sends w₀ s) : P s := by
  induction h with
  | unused => exact hunused
  | order h x hx ih => exact horder ih hx
  | @act s h hopen a ih =>
    have hm := moves_act (c := connection c) h.tidy hopen a
    have hg := h.settled hopen
    obtain ⟨scope, w, b⟩ := s
    cases hg
    rcases hs' : Transaction.act (connection c) a ⟨scope, w, false⟩ with ⟨r, scope', w', b'⟩
    rw [hs'] at hm
    by_cases ho : scope' = .outside
    · subst ho
      exact hleft ih (left_of_moves hm rfl rfl)
    · obtain ⟨hinner, rfl⟩ := inner_of_moves hm rfl ho
      exact hmove ih hinner ho

theorem of_place {g : Client σ} {r : Except Error Answer} (h : Use c sends w₀ ⟨.outside, g⟩)
    (x : Order) (hx : ∀ sql, x = .batch sql → sends sql) (hp : x.place (connection c) g = (r, s')) :
    Use c sends w₀ s' := by
  have hu := h.order x hx
  rwa [hp] at hu

theorem of_act {a : Action} {r : Except Error Answer} (h : Use c sends w₀ s)
    (ho : s.scope ≠ .outside) (ha : Transaction.act (connection c) a s = (r, s')) :
    Use c sends w₀ s' := by
  have hu := h.act ho a
  rwa [ha] at hu

end Use

end Client

end BoundSql
