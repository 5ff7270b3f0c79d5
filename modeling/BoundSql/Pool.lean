import BoundSql.Client
import BoundSql.Transaction.Scope

namespace BoundSql

structure Dock (σ : Type) where
  connect : σ → Except Error Nat × σ
  isClosed : Nat → σ → Bool
  /-- Makes a link fit for its next use. -/
  rollback : Nat → σ → Except Error Unit × σ
  connection : Nat → Connection σ
  await : Nat → σ → σ

structure Pool (σ : Type) where
  world : σ
  /-- Links to take, the oldest first. -/
  idle : List Nat
  taken : Nat
  maxSize : Nat
  closed : Bool
  /-- Links held one by one, at the index under which they were handed out. -/
  held : List (Option Nat)

inductive Lease where
  | taken (link : Nat)
  | held (link : Nat)
  deriving DecidableEq

def Lease.link : Lease → Nat
  | taken n => n
  | held n => n

namespace Pool

variable {σ : Type} (d : Dock σ)

def ofWorld (w : σ) (maxSize : Nat) : Pool σ := ⟨w, [], 0, maxSize, false, []⟩

/-- The first idle link that is open and can be rolled back, and the idle links behind it. Those
before it are given up. -/
def reuse : List Nat → σ → Option (Nat × List Nat) × σ
  | [], w => (none, w)
  | n :: idle, w =>
    if d.isClosed n w then reuse idle w
    else
      match d.rollback n w with
      | (.ok (), w) => (some (n, idle), w)
      | (.error _, w) => reuse idle w

def take (p : Pool σ) : Except Error Nat × Pool σ :=
  if p.closed then (.error (.pool "Pool has been closed"), p)
  else if p.maxSize ≤ p.taken then (.error (.pool "every connection is in use"), p)
  else
    match reuse d p.idle p.world with
    | (some (n, idle), w) => (.ok n, { p with world := w, idle, taken := p.taken + 1 })
    | (none, w) =>
      match d.connect w with
      | (.error e, w) => (.error e, { p with world := w, idle := [] })
      | (.ok n, w) => (.ok n, { p with world := w, idle := [], taken := p.taken + 1 })

/-- Give a link back. A closed pool does not keep it. -/
def giveBack (n : Nat) (p : Pool σ) : Pool σ :=
  if p.closed then { p with taken := p.taken - 1 }
  else { p with taken := p.taken - 1, idle := p.idle ++ [n] }

/-- Close the pool: idle links are dropped, links that are out stay usable. -/
def close (p : Pool σ) : Pool σ := { p with closed := true, idle := [], maxSize := 0 }

def connection (n : Nat) : Connection (Pool σ) :=
  (d.connection n).within Pool.world fun w p => { p with world := w }

def onTaken {α : Type} (run : Connection (Pool σ) → Pool σ → Except Error α × Pool σ)
    (p : Pool σ) : Except Error α × Pool σ :=
  match p.take d with
  | (.error e, p) => (.error e, p)
  | (.ok n, p) =>
    let (r, p) := run (connection d n) p
    (r, p.giveBack n)

/-- Statements on the pool take a link for themselves. Their rows are read after it has gone
back. -/
def executor : Executor (Pool σ) where
  query sql args p := p.onTaken d fun c => c.query sql args
  exec sql args p := p.onTaken d fun c => c.exec sql args
  await time p := { p with world := d.await time p.world }

def size (p : Pool σ) : Nat := p.idle.length + p.taken

def describe (limit : Option Duration) (p : Pool σ) : String :=
  "PgPool \x7b status: Status \x7b max_size: " ++ toString p.maxSize ++ ", size: " ++
    toString p.size ++ ", available: " ++ toString p.idle.length ++
    ", waiting: 0 \x7d, timeout: " ++ Client.describeLimit limit ++ " \x7d"

def describeLink (limit : Option Duration) : String :=
  "PooledClient \x7b timeout: " ++ Client.describeLimit limit ++ ", .. \x7d"

def host (limit : Option Duration) : Host Lease (Pool σ) where
  outer := executor d
  connection lease := connection d lease.link
  lease p :=
    match p.take d with
    | (.error e, p) => (.error e, p)
    | (.ok n, p) => (.ok (.taken n), p)
  release
    | .taken n, p => p.giveBack n
    | .held _, p => p
  describe := describe limit

def acquire (p : Pool σ) : Except Error Nat × Pool σ :=
  match p.take d with
  | (.error e, p) => (.error e, p)
  | (.ok n, p) => (.ok p.held.length, { p with held := p.held ++ [some n] })

def held? (i : Nat) (p : Pool σ) : Option Nat :=
  match p.held[i]? with
  | some (some n) => some n
  | _ => none

def release (i : Nat) (p : Pool σ) : Pool σ :=
  match p.held? i with
  | some n => { p.giveBack n with held := p.held.set i none }
  | none => p

end Pool

end BoundSql
