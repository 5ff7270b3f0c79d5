import BoundSql.Transaction.Basic

namespace BoundSql

/-- Where transactions come from: connections are leased for their time. `outer` runs statements
outside any transaction. -/
structure Host (ι σ : Type) where
  outer : Executor σ
  connection : ι → Connection σ
  lease : σ → Except Error ι × σ
  release : ι → σ → σ
  describe : σ → String

/-- A single connection, which every transaction uses. -/
def Host.single {σ : Type} (c : Connection σ) (describe : σ → String) : Host Unit σ where
  outer := c.toExecutor
  connection _ := c
  lease w := (.ok (), w)
  release _ w := w
  describe := describe

/-- The innermost open handle. -/
inductive Scope (ι : Type) where
  | outside
  | transaction (lease : ι) (t : Transaction)
  | savepoint (lease : ι) (t : Transaction)

inductive Action where
  | run (r : Run)
  | begin (o : TransactionOptions)
  | commit
  | rollback
  | conclude (r : Except Error Json)
  | drop
  | describe

structure State (ι σ : Type) where
  scope : Scope ι
  world : σ

namespace Scope

variable {ι σ : Type} (h : Host ι σ)

/-- Begin a transaction on a leased connection. If that fails the lease ends. -/
def beginOn (lease : ι) (o : TransactionOptions) (w : σ) : Except Error Answer × State ι σ :=
  match Transaction.start (h.connection lease) o w with
  | (.error e, w) => (.error e, ⟨.outside, h.release lease w⟩)
  | (.ok t, w) => (.ok .done, ⟨.transaction lease t, w⟩)

def stepOutside (a : Action) (w : σ) : Except Error Answer × State ι σ :=
  match a with
  | .run r => let (r, w) := h.outer.run r w; (r, ⟨.outside, w⟩)
  | .begin o =>
    match h.lease w with
    | (.error e, w) => (.error e, ⟨.outside, w⟩)
    | (.ok lease, w) => beginOn h lease o w
  | .describe => (.ok (.text (h.describe w)), ⟨.outside, w⟩)
  | .commit | .rollback | .conclude _ | .drop => (.ok (.text "nothing open"), ⟨.outside, w⟩)

def leave (lease : ι) (r : Except Error Answer) (s : Transaction × σ) :
    Except Error Answer × State ι σ :=
  (r, ⟨.outside, h.release lease (s.1.drop (h.connection lease) s.2)⟩)

def stepTransaction (lease : ι) (a : Action) (t : Transaction) (w : σ) :
    Except Error Answer × State ι σ :=
  let c := h.connection lease
  match a with
  | .run r => let (r, t, w) := (Transaction.executor c).run r (t, w); (r, ⟨.transaction lease t, w⟩)
  | .begin _ =>
    match t.beginSavepoint c w with
    | (.error e, t, w) => (.error e, ⟨.transaction lease t, w⟩)
    | (.ok (), t, w) => (.ok .done, ⟨.savepoint lease t, w⟩)
  | .commit => let (r, s) := t.commit c w; leave h lease (Answer.ofUnit r) s
  | .rollback => let (r, s) := t.rollback c w; leave h lease (Answer.ofUnit r) s
  | .conclude r =>
    let (r, s) := Transaction.conclude (fun s => s.1.commit c s.2) (fun s => s.1.rollback c s.2)
      r (t, w)
    leave h lease (r.map .value) s
  | .drop => leave h lease (.ok .done) (t, w)
  | .describe => (.ok (.text t.describe), ⟨.transaction lease t, w⟩)

def stepSavepoint (lease : ι) (a : Action) (t : Transaction) (w : σ) :
    Except Error Answer × State ι σ :=
  let c := h.connection lease
  match a with
  | .run r => let (r, t, w) := (Savepoint.executor c).run r (t, w); (r, ⟨.savepoint lease t, w⟩)
  | .begin _ =>
    let (r, t, w) := t.beginSavepoint c w
    (Answer.ofUnit r, ⟨.savepoint lease t, w⟩)
  | .commit => let (r, t, w) := Savepoint.commit c t w; (Answer.ofUnit r, ⟨.transaction lease t, w⟩)
  | .rollback =>
    let (r, t, w) := Savepoint.rollback c t w
    (Answer.ofUnit r, ⟨.transaction lease t, w⟩)
  | .conclude r =>
    let (r, t, w) := Transaction.conclude (fun s => Savepoint.commit c s.1 s.2)
      (fun s => Savepoint.rollback c s.1 s.2) r (t, w)
    (r.map .value, ⟨.transaction lease t, w⟩)
  | .drop => let (t, w) := Savepoint.drop c t w; (.ok .done, ⟨.transaction lease t, w⟩)
  | .describe => (.ok (.text Savepoint.describe), ⟨.savepoint lease t, w⟩)

def step (a : Action) (s : State ι σ) : Except Error Answer × State ι σ :=
  match s.scope with
  | .outside => stepOutside h a s.world
  | .transaction lease t => stepTransaction h lease a t s.world
  | .savepoint lease t => stepSavepoint h lease a t s.world

end Scope

end BoundSql
