import BoundSql.Connection

namespace BoundSql

/-- A world with a connection in it, and whether a transaction on the connection was left
unfinished. -/
structure Client (σ : Type) where
  inner : σ
  abandoned : Bool

namespace Client

variable {σ : Type} (c : Connection σ)

def ofInner (w : σ) : Client σ := ⟨w, false⟩

/-- Roll an unfinished transaction back. If that fails it stays to be done. -/
def settle (g : Client σ) : Except Error Unit × Client σ :=
  if g.abandoned then
    match c.batch "ROLLBACK" (c.note (.transaction "settle transaction" "ROLLBACK") g.inner) with
    | (.error e, w) => (.error e, ⟨w, true⟩)
    | (.ok (), w) => (.ok (), ⟨w, false⟩)
  else (.ok (), g)

def settled {α : Type} (run : σ → Except Error α × σ) (g : Client σ) :
    Except Error α × Client σ :=
  match g.settle c with
  | (.error e, g) => (.error e, g)
  | (.ok (), g) =>
    let (r, w) := run g.inner
    (r, { g with inner := w })

def connection : Connection (Client σ) where
  query sql args g := g.settled c (c.query sql args)
  exec sql args g := g.settled c (c.exec sql args)
  await time g := { g with inner := c.await time g.inner }
  batch sql g := g.settled c (c.batch sql)
  abandon g := { g with abandoned := true }
  note e g := { g with inner := c.note e g.inner }

def describeLimit : Option Duration → String
  | some d => "Some(" ++ d.text ++ ")"
  | none => "None"

def describe (limit : Option Duration) (g : Client σ) : String :=
  "PgClient \x7b timeout: " ++ describeLimit limit ++ ", abandoned: " ++ toString g.abandoned ++
    ", .. \x7d"

end Client

end BoundSql
