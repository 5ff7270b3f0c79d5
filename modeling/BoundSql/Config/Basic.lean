import BoundSql.Config.ConnectionString
import BoundSql.Error.Basic
import BoundSql.Json.Basic
import BoundSql.Text.Quoted

namespace BoundSql

structure Config where
  url : String
  maxConnections : UInt64
  timeoutMillis : Option UInt64
  applicationName : Option String
  deriving DecidableEq

namespace Config

def ofUrl (url : String) : Config := ⟨url, 16, none, none⟩

def withMaxConnections (c : Config) (n : UInt64) : Config := { c with maxConnections := n }

/-- Limit the time of a statement; more milliseconds than can be kept become the greatest number. -/
def withTimeout (c : Config) (limit : Duration) : Config :=
  { c with timeoutMillis := some (UInt64.ofNat (min limit.toMillis (UInt64.size - 1))) }

def withApplicationName (c : Config) (name : String) : Config :=
  { c with applicationName := some name }

def timeout (c : Config) : Option Duration := c.timeoutMillis.map Duration.ofMillis

structure Target where
  applicationName : Option String
  deriving DecidableEq

def target (c : Config) : Except Error Target :=
  if c.url.isEmpty then .error (.config "database url is empty")
  else if c.maxConnections = 0 then .error (.config "max_connections must be positive")
  else
    match ConnectionString.read? c.url with
    | none => .error (.config "invalid connection string")
    | some s =>
      match c.applicationName with
      | some name => .ok ⟨some name⟩
      | none => .ok ⟨s.applicationName⟩

section Document

def word? : Json → Option UInt64
  | .number (.integer n) => if 0 ≤ n ∧ n < UInt64.size then some (UInt64.ofNat n.toNat) else none
  | _ => none

def text? : Json → Option String
  | .string s => some s
  | _ => none

def nullable? {α : Type} (read : Json → Option α) : Json → Option (Option α)
  | .null => some none
  | j => (read j).map some

def setting? {α : Type} (read : Json → Option α) (default : α) : Option Json → Option α
  | none => some default
  | some j => read j

def ofSettings? (url max timeout name : Option Json) : Option Config :=
  match setting? text? "" url, setting? word? 16 max, setting? (nullable? word?) none timeout,
    setting? (nullable? text?) none name with
  | some url, some max, some timeout, some name => some ⟨url, max, timeout, name⟩
  | _, _, _, _ => none

/-- Reads an object, whose unknown fields are passed over, or a list of at most four settings in
order. -/
def ofDocument? : Json → Option Config
  | .object fields =>
    ofSettings? (fields.lookup "url") (fields.lookup "max_connections")
      (fields.lookup "statement_timeout_ms") (fields.lookup "application_name")
  | .array items =>
    if 4 < items.length then none else ofSettings? items[0]? items[1]? items[2]? items[3]?
  | _ => none

def toDocument (c : Config) : Json :=
  .ofFields
    [("url", .string c.url), ("max_connections", .ofNat c.maxConnections.toNat),
      ("statement_timeout_ms",
        match c.timeoutMillis with
        | some n => .ofNat n.toNat
        | none => .null),
      ("application_name",
        match c.applicationName with
        | some name => .string name
        | none => .null)]

end Document

section Environment

abbrev Environment := List (String × List UInt8)

def decode? (bytes : List UInt8) : Option String :=
  String.fromUTF8? (ByteArray.mk bytes.toArray)

/-- A number of 64 bits: blanks around it, an optional plus sign, decimal digits. -/
def number? (raw : String) : Option UInt64 :=
  let cs := Blank.trim raw.toList
  let digits := match cs with
    | '+' :: cs => cs
    | cs => cs
  if digits.isEmpty || !digits.all fun c => '0' ≤ c && c ≤ '9' then none
  else
    let n := digits.foldl (fun n c => 10 * n + (c.toNat - 48)) 0
    if n < UInt64.size then some (UInt64.ofNat n) else none

def numberIn (env : Environment) (name : String) : Except Error (Option UInt64) :=
  match env.lookup name with
  | none => .ok none
  | some bytes =>
    match decode? bytes with
    | none =>
      .error (.config (name ++ ": environment variable was not valid unicode: " ++
        Quoted.quoteBytes bytes))
    | some raw =>
      match number? raw with
      | some n => .ok (some n)
      | none => .error (.config (name ++ " is not a number: " ++ raw))

/-- Reads `DATABASE_URL`, which is required, `DATABASE_MAX_CONNECTIONS` and
`DATABASE_STATEMENT_TIMEOUT_MS`. -/
def ofEnvironment (env : Environment) : Except Error Config :=
  match (env.lookup "DATABASE_URL").bind decode? with
  | none => .error (.config "DATABASE_URL is not set")
  | some url =>
    match numberIn env "DATABASE_MAX_CONNECTIONS" with
    | .error e => .error e
    | .ok max =>
      match numberIn env "DATABASE_STATEMENT_TIMEOUT_MS" with
      | .error e => .error e
      | .ok timeout => .ok ⟨url, max.getD 16, timeout, none⟩

end Environment

end Config

end BoundSql
