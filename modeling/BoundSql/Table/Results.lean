import BoundSql.Rows

namespace BoundSql

structure Results (α : Type) where
  rows : Rows
  scan : Row → Except Error α
  done : Bool

namespace Results

variable {α : Type}

def ofRows (scan : Row → Except Error α) (rows : Rows) : Results α := ⟨rows, scan, false⟩

def next (r : Results α) : Option (Except Error α) × Results α :=
  if r.done then (none, r)
  else
    match r.rows.next with
    | (some (.ok row), rows) => (some (r.scan row), { r with rows := rows })
    | (some (.error e), rows) => (some (.error e), { r with rows := rows, done := true })
    | (none, rows) => (none, { r with rows := rows, done := true })

/-- Objects up to the first error, be it of a row or of the connection. -/
def collectItems (scan : Row → Except Error α) :
    List (Except Error Row) → Except Error (List α)
  | [] => .ok []
  | .error e :: _ => .error e
  | .ok row :: items =>
    match scan row with
    | .error e => .error e
    | .ok a =>
      match collectItems scan items with
      | .error e => .error e
      | .ok as => .ok (a :: as)

def collect (r : Results α) : Except Error (List α) := collectItems r.scan r.rows.toList

/-- Read objects until there are no more, `fuel` bounding their number. -/
def readAll (r : Results α) : Nat → List (Except Error α) × Results α
  | 0 => ([], r)
  | fuel + 1 =>
    match r.next with
    | (none, r) => ([], r)
    | (some a, r) =>
      let (as, r) := r.readAll fuel
      (a :: as, r)

def stream (r : Results α) : List (Except Error α) × Results α :=
  r.readAll (r.rows.items.length + 2)

end Results

end BoundSql
