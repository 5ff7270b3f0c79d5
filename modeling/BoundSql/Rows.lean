import BoundSql.Error.Basic
import BoundSql.Value.Wire

namespace BoundSql

inductive Cell where
  | null
  | integer (n : Int)
  | text (s : String)
  deriving DecidableEq

structure Row where
  columns : List (String × WireType)
  cells : List Cell
  deriving DecidableEq

namespace Row

def lowerAscii (s : String) : String := s.map Char.toLower

/-- The first column of that name; if there is none, the first one that differs from it only in
the case of ASCII letters. -/
def index? (r : Row) (name : String) : Option Nat :=
  match r.columns.findIdx? fun c => c.1 == name with
  | some i => some i
  | none => r.columns.findIdx? fun c => lowerAscii c.1 == lowerAscii name

/-- The text in a column. A null and a column of another type cannot be read as text. -/
def text (r : Row) (name : String) : Except Error String :=
  match r.index? name with
  | none => .error (.decode name ("invalid column \x60" ++ name ++ "\x60"))
  | some i =>
    let unreadable : Error := .decode name ("error deserializing column " ++ toString i)
    match r.columns[i]?, r.cells[i]? with
    | some (_, type), some (.text s) => if type.isTextual then .ok s else .error unreadable
    | _, _ => .error unreadable

def texts (r : Row) : List String → Except Error (List String)
  | [] => .ok []
  | name :: names =>
    match r.text name with
    | .error e => .error e
    | .ok s =>
      match r.texts names with
      | .error e => .error e
      | .ok ss => .ok (s :: ss)

end Row

structure Rows where
  items : List (Except Error Row)
  /-- What every further reading yields once the items are used up, if the connection is gone. -/
  ending : Option Error
  /-- When the items are there to be read. -/
  arrival : Nat

namespace Rows

def ofList (items : List (Except Error Row)) : Rows := ⟨items, none, 0⟩

def empty : Rows := ofList []

def next (r : Rows) : Option (Except Error Row) × Rows :=
  match r.items with
  | i :: items => (some i, { r with items := items })
  | [] =>
    match r.ending with
    | some e => (some (.error e), r)
    | none => (none, r)

/-- What there is to read up to the first repetition. -/
def toList (r : Rows) : List (Except Error Row) :=
  match r.ending with
  | some e => r.items ++ [.error e]
  | none => r.items

def collectItems : List (Except Error Row) → Except Error (List Row)
  | [] => .ok []
  | .error e :: _ => .error e
  | .ok row :: items =>
    match collectItems items with
    | .error e => .error e
    | .ok rows => .ok (row :: rows)

def collect (r : Rows) : Except Error (List Row) := collectItems r.toList

def countItems (n : Nat) : List (Except Error Row) → Except Error Nat
  | [] => .ok n
  | .error e :: _ => .error e
  | .ok _ :: items => countItems (n + 1) items

/-- The one row there is. All items are read, so that a failure comes first and several rows are
counted. -/
def exactlyOne (r : Rows) : Except Error Row :=
  match r.toList with
  | [] => .error (.noRowFound none)
  | .error e :: _ => .error e
  | .ok row :: items =>
    match countItems 1 items with
    | .error e => .error e
    | .ok n => if 1 < n then .error (.multipleRowsFound (some n)) else .ok row

/-- The items one by one, until the run ends or so many failures were read. -/
def drain (failures : Nat) (r : Rows) : List (Except Error Row) :=
  go failures (r.items ++
    match r.ending with
    | some e => List.replicate failures (.error e)
    | none => [])
where
  go : Nat → List (Except Error Row) → List (Except Error Row)
    | 0, _ => []
    | _, [] => []
    | n, .ok row :: items => .ok row :: go n items
    | n + 1, .error e :: items => .error e :: go n items

end Rows

end BoundSql
