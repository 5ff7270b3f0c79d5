import BoundSql.Condition

namespace BoundSql

structure Table where
  schema : String
  name : String
  columns : List String
  aliasName : Option String
  deriving DecidableEq

namespace Table

def withAlias (t : Table) (name : String) : Table := { t with aliasName := some name }

/-- What columns are qualified with: the alias, or else the name. -/
def qualifier (t : Table) : String := t.aliasName.getD t.name

def hasColumn (t : Table) (name : String) : Bool := t.columns.contains name

def column (t : Table) (name : String) : Column := .named t.qualifier name

def owns (t : Table) (c : Column) : Bool := c.table == t.qualifier && t.hasColumn c.name

def allColumns (t : Table) : Columns := t.columns.map t.column

def fromClause (t : Table) : String :=
  match t.aliasName with
  | some name => t.schema ++ "." ++ t.name ++ " AS " ++ name
  | none => t.schema ++ "." ++ t.name

def existsWhere (t : Table) (k : Condition) : Condition := .existsIn t.fromClause k

def instances : Table :=
  ⟨"core", "instances", ["id", "name", "default_org_id", "created_at", "updated_at"], none⟩

def orgs : Table :=
  ⟨"core", "orgs", ["id", "instance_id", "name", "state", "created_at", "updated_at"], none⟩

def users : Table :=
  ⟨"core", "users",
    ["id", "instance_id", "org_id", "username", "state", "created_at", "updated_at"], none⟩

end Table

end BoundSql
