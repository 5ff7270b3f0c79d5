import Mathlib.Logic.Function.Basic
import Mathlib.Logic.Relation
import BoundSql.Pool
import BoundSql.Proofs.Client.Ownership
import BoundSql.Proofs.Transaction.Keeping
/-!
Steps on a pool are small, so that those of many checkouts can come in any order.
-/

namespace BoundSql

/-- The links to a server, in the order in which they are opened. -/
structure Cluster where
  links : Nat → Backend
  opened : Nat
  attempts : Nat

namespace Cluster

def fresh (fates : Nat → Nat → Fate) : Cluster := ⟨fun n => .fresh (fates n), 0, 0⟩

def setLink (n : Nat) (b : Backend) (w : Cluster) : Cluster :=
  { w with links := Function.update w.links n b }

def request (n : Nat) (m : Message) (w : Cluster) : Cluster :=
  w.setLink n ((w.links n).request m).2

def opening (w : Cluster) : Cluster :=
  { w with opened := w.opened + 1, attempts := w.attempts + 1 }

def failing (w : Cluster) : Cluster := { w with attempts := w.attempts + 1 }

/-- The refusals tell whether a link can be opened. A link that was closed is found so before it is
rolled back. -/
def dock (refusal : Cluster → Option Error) (closed : Nat → Cluster → Bool) : Dock Cluster where
  connect w :=
    match refusal w with
    | some e => (.error e, w.failing)
    | none => (.ok w.opened, w.opening)
  isClosed := closed
  rollback n w :=
    (((w.links n).request (.batch "ROLLBACK")).1.map fun _ => (), w.request n (.batch "ROLLBACK"))
  connection n := Backend.server.within (fun w => w.links n) (setLink n)
  await _ w := w

@[simp] theorem request_links_self (n : Nat) (m : Message) (w : Cluster) :
    (w.request n m).links n = ((w.links n).request m).2 := by
  simp [request, setLink]

theorem request_links_of_ne {n n' : Nat} (h : n' ≠ n) (m : Message) (w : Cluster) :
    (w.request n m).links n' = w.links n' := by
  simp [request, setLink, h]

@[simp] theorem setLink_self (n : Nat) (w : Cluster) : w.setLink n (w.links n) = w := by
  simp [setLink]

end Cluster

/-- The use of one link from its being handed out to its being given back. -/
structure Checkout where
  link : Nat
  out : Bool

/-- A pool, the checkouts that were made from it, and which of them has sent the requests on each
link. The rest was sent by the pool itself. -/
structure Traffic where
  pool : Pool Cluster
  checkouts : List Checkout
  sender : Nat → Nat → Option Nat

namespace Traffic

def start (fates : Nat → Nat → Fate) (maxSize : Nat) : Traffic where
  pool := .ofWorld (.fresh fates) maxSize
  checkouts := []
  sender _ _ := none

def link (u : Traffic) (n : Nat) : Backend := u.pool.world.links n

/-- Whether a checkout has a link that was not given back. -/
def Has (u : Traffic) (κ n : Nat) : Prop := u.checkouts[κ]? = some ⟨n, true⟩

/-- A checkout sends a message on a link. -/
def send (κ n : Nat) (m : Message) (u : Traffic) : Traffic where
  pool := { u.pool with world := u.pool.world.request n m }
  checkouts := u.checkouts
  sender := Function.update u.sender n
    (Function.update (u.sender n) (u.link n).requests (some κ))

def handOut (n : Nat) (p : Pool Cluster) (u : Traffic) : Traffic where
  pool := { p with taken := p.taken + 1 }
  checkouts := u.checkouts ++ [⟨n, true⟩]
  sender := u.sender

/-- The pool rolls its oldest idle link back, which is not idle any more. -/
def recycled (n : Nat) (idle : List Nat) (p : Pool Cluster) : Pool Cluster :=
  { p with world := p.world.request n (.batch "ROLLBACK"), idle }

/-- One step of a checkout, or of the pool on the way to it. How many links may be out at once is
left open, so that the steps are those of pools of every size. -/
inductive Step (κ : Nat) (u : Traffic) : Traffic → Prop
  /-- The oldest idle link is given up. -/
  | discarded {n : Nat} {idle : List Nat} (h : u.pool.idle = n :: idle) :
      Step κ u { u with pool := { u.pool with idle } }
  /-- It cannot be rolled back. -/
  | spoiled {n : Nat} {idle : List Nat} {e : Error} (h : u.pool.idle = n :: idle)
      (hr : ((u.link n).request (.batch "ROLLBACK")).1 = .error e) :
      Step κ u { u with pool := recycled n idle u.pool }
  /-- It is rolled back and handed out. -/
  | reused {n : Nat} {idle : List Nat} {q : Nat × Rows} (h : u.pool.idle = n :: idle)
      (hr : ((u.link n).request (.batch "ROLLBACK")).1 = .ok q) (hκ : κ = u.checkouts.length) :
      Step κ u (u.handOut n (recycled n idle u.pool))
  | refused : Step κ u { u with pool := { u.pool with world := u.pool.world.failing } }
  | connected (hκ : κ = u.checkouts.length) :
      Step κ u (u.handOut u.pool.world.opened { u.pool with world := u.pool.world.opening })
  | sent {n : Nat} {m : Message} (h : u.Has κ n) : Step κ u (u.send κ n m)
  | gaveBack {n : Nat} (h : u.Has κ n) :
      Step κ u ⟨u.pool.giveBack n, u.checkouts.set κ ⟨n, false⟩, u.sender⟩
  | closed : Step κ u { u with pool := u.pool.close }
  /-- Which links are held one by one is written down. -/
  | noted {held : List (Option Nat)} : Step κ u { u with pool := { u.pool with held } }

def Steps (κ : Nat) : Traffic → Traffic → Prop := Relation.ReflTransGen (Step κ)

/-- Steps of a checkout lead to a pool and to a list of checkouts. -/
def Leads (κ : Nat) (u : Traffic) (p : Pool Cluster) (checkouts : List Checkout) : Prop :=
  ∃ u', Steps κ u u' ∧ u'.pool = p ∧ u'.checkouts = checkouts

variable {κ n : Nat} {u u' : Traffic} {p : Pool Cluster} {checkouts : List Checkout}

theorem Leads.refl (u : Traffic) : Leads κ u u.pool u.checkouts := ⟨u, .refl, rfl, rfl⟩

theorem Leads.of_step (h : Step κ u u') : Leads κ u u'.pool u'.checkouts :=
  ⟨u', .single h, rfl, rfl⟩

theorem Leads.after (hs : Steps κ u u') (h : Leads κ u' p checkouts) : Leads κ u p checkouts := by
  obtain ⟨u₂, hsteps, hp, hc⟩ := h
  exact ⟨u₂, hs.trans hsteps, hp, hc⟩

theorem Leads.step (hs : Step κ u u') (h : Leads κ u' p checkouts) : Leads κ u p checkouts :=
  h.after (.single hs)

section Dock

variable {refusal : Cluster → Option Error} {closed : Nat → Cluster → Bool}

/-- Going through the idle links leads to one of them, or to none. -/
theorem leads_of_reuse (idle : List Nat) :
    ∀ {u : Traffic} {w : Cluster}, u.pool.idle = idle → κ = u.checkouts.length →
      (∀ n rest, Pool.reuse (Cluster.dock refusal closed) idle u.pool.world = (some (n, rest), w) →
        Leads κ u { u.pool with world := w, idle := rest, taken := u.pool.taken + 1 }
          (u.checkouts ++ [⟨n, true⟩])) ∧
      (Pool.reuse (Cluster.dock refusal closed) idle u.pool.world = (none, w) →
        Leads κ u { u.pool with world := w, idle := [] } u.checkouts) := by
  induction idle with
  | nil =>
    intro u w hidle hκ
    refine ⟨nofun, fun h => ?_⟩
    cases h
    rw [← hidle]
    exact .refl u
  | cons n idle ih =>
    intro u w hidle hκ
    rw [Pool.reuse]
    split
    next =>
      obtain ⟨hsome, hnone⟩ := ih (u := { u with pool := { u.pool with idle } }) rfl hκ
      exact ⟨fun m rest h => (hsome m rest h).step (.discarded hidle),
        fun h => (hnone h).step (.discarded hidle)⟩
    next =>
      simp only [Cluster.dock]
      rcases hr : ((u.link n).request (.batch "ROLLBACK")).1 with e | q <;>
        rw [link] at hr <;> rw [hr]
      · obtain ⟨hsome, hnone⟩ := ih (u := { u with pool := recycled n idle u.pool }) rfl hκ
        exact ⟨fun m rest h => (hsome m rest h).step (.spoiled hidle hr),
          fun h => (hnone h).step (.spoiled hidle hr)⟩
      · refine ⟨fun m rest h => ?_, nofun⟩
        cases h
        exact .of_step (.reused hidle hr hκ)

theorem leads_of_take (hκ : κ = u.checkouts.length) :
    (∀ n p, u.pool.take (Cluster.dock refusal closed) = (.ok n, p) →
      Leads κ u p (u.checkouts ++ [⟨n, true⟩])) ∧
    ∀ e p, u.pool.take (Cluster.dock refusal closed) = (.error e, p) → Leads κ u p u.checkouts := by
  simp only [Pool.take]
  split
  next =>
    refine ⟨nofun, fun e p h => ?_⟩
    cases h
    exact .refl u
  next =>
    split
    next =>
      refine ⟨nofun, fun e p h => ?_⟩
      cases h
      exact .refl u
    next =>
      rcases hreuse : Pool.reuse (Cluster.dock refusal closed) u.pool.idle u.pool.world with
        ⟨_ | ⟨n, rest⟩, w⟩
      · obtain ⟨u', hs, hpool, hc⟩ := (leads_of_reuse _ rfl hκ).2 hreuse
        have hκ' : κ = u'.checkouts.length := by rw [hc, hκ]
        dsimp only [Cluster.dock]
        rcases refusal w with _ | e
        · refine ⟨fun m p h => ?_, nofun⟩
          cases h
          have hled := (Leads.of_step (.connected hκ')).after hs
          simpa only [handOut, hpool, hc] using hled
        · refine ⟨nofun, fun e p h => ?_⟩
          cases h
          have hled := (Leads.of_step .refused).after hs
          simpa only [hpool, hc] using hled
      · refine ⟨fun m p h => ?_, nofun⟩
        cases h
        exact (leads_of_reuse _ rfl hκ).1 n rest hreuse

/-- A checkout that has a link gets from one pool to the other without a new checkout. -/
def Carries (κ n : Nat) (p p' : Pool Cluster) : Prop :=
  ∀ u : Traffic, u.pool = p → u.Has κ n → Leads κ u p' u.checkouts

theorem carries_request (m : Message) (p : Pool Cluster) :
    Carries κ n p { p with world := p.world.request n m } := by
  rintro u rfl h
  exact .of_step (.sent h)

theorem carries_same (p : Pool Cluster) :
    Carries κ n p { p with world := p.world.setLink n (p.world.links n) } := by
  rintro u rfl h
  rw [Cluster.setLink_self]
  exact .refl u

theorem keeps_connection :
    (Pool.connection (Cluster.dock refusal closed) n).Keeps (Carries κ n) where
  refl p := by
    rintro u rfl h
    exact .refl u
  trans h h' u hp hu := by
    obtain ⟨u₁, hs, hp₁, hc⟩ := h u hp hu
    have hu₁ : u₁.Has κ n := by rwa [Has, hc]
    have hled := h' u₁ hp₁ hu₁
    rw [hc] at hled
    exact hled.after hs
  query sql args p := carries_request (.statement sql args) p
  exec sql args p := carries_request (.statement sql args) p
  batch sql p := carries_request (.ofBatch sql) p
  await _ p := carries_same p
  abandon p := carries_same p
  note _ p := carries_same p

theorem keeps_host (limit : Option Duration) (lease : Lease) :
    ((Pool.host (Cluster.dock refusal closed) limit).connection lease).Keeps
      (Carries κ lease.link) :=
  keeps_connection

/-- Whether what is open in a scope is on a link that a checkout has. -/
def Holds (u : Traffic) (κ : Nat) : Scope Lease → Prop
  | .outside => True
  | .transaction lease _ | .savepoint lease _ => u.Has κ lease.link

/-- Steps of a checkout lead to a pool, and to a scope on its link. -/
def Does (κ : Nat) (u : Traffic) (s : State Lease (Pool Cluster)) : Prop :=
  ∃ u', Steps κ u u' ∧ u'.pool = s.world ∧ u'.Holds κ s.scope

variable {limit : Option Duration} {lease : Lease} {s : State Lease (Pool Cluster)}

theorem Does.after (hs : Steps κ u u') (h : Does κ u' s) : Does κ u s := by
  obtain ⟨u₂, hsteps, hp, hscope⟩ := h
  exact ⟨u₂, hs.trans hsteps, hp, hscope⟩

theorem does_of_led (h : u.Has κ lease.link)
    (hl : Led (Pool.host (Cluster.dock refusal closed) limit) lease (Carries κ lease.link)
      u.pool s) : Does κ u s := by
  cases hl with
  | transaction hw | savepoint hw =>
    obtain ⟨u', hs, hp, hc⟩ := hw u rfl h
    exact ⟨u', hs, hp, by rwa [Holds, Has, hc]⟩
  | left hw =>
    obtain ⟨u', hs, hp, hc⟩ := hw u rfl h
    have h' : u'.Has κ lease.link := by rwa [Has, hc]
    cases lease with
    | taken n => exact ⟨_, hs.tail (.gaveBack h'), congrArg (Pool.giveBack n) hp, trivial⟩
    | held n => exact ⟨u', hs, hp, trivial⟩

theorem has_of_concat (hκ : κ = u.checkouts.length)
    (hc : u'.checkouts = u.checkouts ++ [⟨n, true⟩]) : u'.Has κ n := by
  rw [Has, hc, hκ, List.getElem?_concat_length]

theorem does_onTaken {α : Type} (hκ : κ = u.checkouts.length)
    {run : Connection (Pool Cluster) → Pool Cluster → Except Error α × Pool Cluster}
    (hrun : ∀ n p, Carries κ n p (run (Pool.connection (Cluster.dock refusal closed) n) p).2) :
    Does κ u ⟨.outside, (u.pool.onTaken (Cluster.dock refusal closed) run).2⟩ := by
  rw [Pool.onTaken]
  rcases htake : u.pool.take (Cluster.dock refusal closed) with ⟨e | n, p⟩
  · obtain ⟨u', hs, hp, -⟩ := (leads_of_take hκ).2 e p htake
    exact ⟨u', hs, hp, trivial⟩
  · obtain ⟨u₁, hs₁, hp₁, hc₁⟩ := (leads_of_take hκ).1 n p htake
    have hu₁ := has_of_concat hκ hc₁
    obtain ⟨u₂, hs₂, hp₂, hc₂⟩ := hrun n p u₁ hp₁ hu₁
    have hu₂ : u₂.Has κ n := by rwa [Has, hc₂]
    exact ⟨_, (hs₁.trans hs₂).tail (.gaveBack hu₂), congrArg (Pool.giveBack n) hp₂, trivial⟩

theorem does_outer (hκ : κ = u.checkouts.length) (r : Run) :
    Does κ u ⟨.outside, ((Pool.executor (Cluster.dock refusal closed)).run r u.pool).2⟩ := by
  obtain ⟨sql, args, w₁, hsent, hrun⟩ := (Pool.executor (Cluster.dock refusal closed)).run_world r
    u.pool
  have hdoes : Does κ u ⟨.outside, w₁⟩ := by
    rcases hsent with rfl | rfl
    · exact does_onTaken hκ fun n p => keeps_connection.query sql args p
    · exact does_onTaken hκ fun n p => keeps_connection.exec sql args p
  rcases hrun with hrun | ⟨time, hrun⟩ <;> rw [hrun] <;> exact hdoes

theorem does_begin (hκ : κ = u.checkouts.length) (o : TransactionOptions) :
    Does κ u (Scope.stepOutside (Pool.host (Cluster.dock refusal closed) limit) (.begin o)
      u.pool).2 := by
  simp only [Scope.stepOutside, Pool.host]
  rcases htake : u.pool.take (Cluster.dock refusal closed) with ⟨e | n, p⟩
  · obtain ⟨u', hs, hp, -⟩ := (leads_of_take hκ).2 e p htake
    exact ⟨u', hs, hp, trivial⟩
  · obtain ⟨u', hs, rfl, hc⟩ := (leads_of_take hκ).1 n p htake
    have hhas : u'.Has κ (Lease.taken n).link := has_of_concat hκ hc
    exact (does_of_led hhas ((keeps_host limit (.taken n)).led_begin o u'.pool)).after hs

/-- What is done in a scope is done by the checkout of its link. Outside any transaction it is done
by a new one. -/
theorem does_step (a : Action) {scope : Scope Lease}
    (hκ : scope = .outside → κ = u.checkouts.length) (h : u.Holds κ scope) :
    Does κ u (Scope.step (Pool.host (Cluster.dock refusal closed) limit) a ⟨scope, u.pool⟩).2 := by
  cases scope with
  | outside =>
    cases a with
    | run r => exact does_outer (hκ rfl) r
    | begin o => exact does_begin (hκ rfl) o
    | commit | rollback | conclude | drop | describe => exact ⟨u, .refl, rfl, trivial⟩
  | transaction lease t => exact does_of_led h ((keeps_host limit lease).led_transaction a t u.pool)
  | savepoint lease t => exact does_of_led h ((keeps_host limit lease).led_savepoint a t u.pool)

end Dock

/-- Everything done with a pool is made of steps of one checkout. -/
structure Covers (d : Dock Cluster) (u : Traffic) : Prop where
  /-- A statement on the pool, or in a transaction, and each beginning and end. -/
  step {limit : Option Duration} {a : Action} {scope : Scope Lease} {κ : Nat}
    (hκ : scope = .outside → κ = u.checkouts.length) (h : u.Holds κ scope) :
    Does κ u (Scope.step (Pool.host d limit) a ⟨scope, u.pool⟩).2
  acquire {i : Nat} {p : Pool Cluster} (h : u.pool.acquire d = (.ok i, p)) :
    ∃ n, p.held? i = some n ∧ Leads u.checkouts.length u p (u.checkouts ++ [⟨n, true⟩])
  acquire_failed {e : Error} {p : Pool Cluster} (h : u.pool.acquire d = (.error e, p)) :
    Leads u.checkouts.length u p u.checkouts
  /-- A link that is held can be used by itself, and a transaction can be begun on it. -/
  client {κ n : Nat} (h : u.Has κ n) : (Pool.connection d n).Keeps (Carries κ n) ∧
    ∀ limit o, Does κ u (Scope.beginOn (Pool.host d limit) (.held n) o u.pool).2
  release {κ i n : Nat} (hi : u.pool.held? i = some n) (h : u.Has κ n) :
    Leads κ u (u.pool.release i) (u.checkouts.set κ ⟨n, false⟩)
  close {κ : Nat} : Leads κ u u.pool.close u.checkouts

theorem covers (refusal : Cluster → Option Error) (closed : Nat → Cluster → Bool) (u : Traffic) :
    Covers (Cluster.dock refusal closed) u where
  step hκ h := does_step _ hκ h
  acquire {i p} h := by
    rw [Pool.acquire] at h
    rcases htake : u.pool.take (Cluster.dock refusal closed) with ⟨e | n, q⟩ <;>
      rw [htake] at h <;> cases h
    refine ⟨n, by simp [Pool.held?], ?_⟩
    obtain ⟨u', hs, rfl, hc⟩ := (leads_of_take rfl).1 n q htake
    rw [← hc]
    exact (Leads.of_step .noted).after hs
  acquire_failed {e p} h := by
    rw [Pool.acquire] at h
    rcases htake : u.pool.take (Cluster.dock refusal closed) with ⟨e' | n, q⟩ <;>
      rw [htake] at h <;> cases h
    exact (leads_of_take rfl).2 e p htake
  client {κ n} h := by
    have hhas : u.Has κ (Lease.held n).link := h
    exact ⟨keeps_connection, fun limit o =>
      does_of_led hhas ((keeps_host limit (.held n)).led_begin o u.pool)⟩
  release {κ i n} hi h := by
    rw [Pool.release, hi]
    exact (Leads.of_step .noted).step (.gaveBack h)
  close := .of_step .closed

end Traffic

end BoundSql
