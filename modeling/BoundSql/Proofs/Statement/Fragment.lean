import BoundSql.Step

namespace BoundSql

/-- A piece of a statement: text, or a literal to bind. -/
inductive Piece where
  | text (s : String)
  | value (v : Value)

abbrev Fragment := List Piece

namespace Fragment

def join (separator : String) : List Fragment → Fragment
  | [] => []
  | f :: fs => f ++ fs.flatMap fun g => .text separator :: g

/-- A group of the fragments of its members, in parentheses if there are several. -/
def group (separator : String) : List Fragment → Fragment
  | [] => []
  | [f] => f
  | fs => .text "(" :: join separator fs ++ [.text ")"]

end Fragment

def Arg.fragment : Arg → Fragment
  | value v => [.value v]
  | instruction i => [.text i.sql]
  | function f inner => .text (f.name ++ "(") :: inner.fragment ++ [.text ")"]
  | coalesce arg fallback =>
    .text "COALESCE(" :: arg.fragment ++ .text ", " :: fallback.fragment ++ [.text ")"]

namespace Column

def qualified : Column → Fragment
  | named table name => [.text table, .text ".", .text name]
  | function f inner => .text (f.name ++ "(") :: inner.qualified ++ [.text ")"]
  | coalesce inner fallback =>
    .text "COALESCE(" :: inner.qualified ++ .text ", " :: fallback.fragment ++ [.text ")"]

def unqualified : Column → Fragment
  | named _ name => [.text name]
  | function f inner => .text (f.name ++ "(") :: inner.unqualified ++ [.text ")"]
  | coalesce inner fallback =>
    .text "COALESCE(" :: inner.unqualified ++ .text ", " :: fallback.fragment ++ [.text ")"]

end Column

namespace Columns

def qualified (cs : Columns) : Fragment := Fragment.join ", " (cs.map Column.qualified)

def unqualified (cs : Columns) : Fragment := Fragment.join ", " (cs.map Column.unqualified)

end Columns

def TextOperation.fragment (op : TextOperation) (c : Column) (a : Arg) : Fragment :=
  if op.ignoresCase then
    (Column.function .lower c).qualified ++ .text op.infixText ::
      (Arg.function .lower a).fragment ++ [.text op.suffix]
  else c.qualified ++ .text op.infixText :: a.fragment ++ [.text op.suffix]

namespace Operation

def comparison (symbol : String) (c : Column) (a : Arg) : Fragment :=
  c.qualified ++ .text (" " ++ symbol ++ " ") :: a.fragment

def fragment (op : Operation) (c : Column) (a : Arg) : Fragment :=
  match op with
  | text op => op.fragment c a
  | number op => comparison op.symbol c a
  | boolean _ => comparison "=" c a
  | bytes op => comparison op.symbol c a

end Operation

namespace Condition

mutual

def fragment : Condition → Fragment
  | and children => Fragment.group " AND " (fragments children)
  | or children => Fragment.group " OR " (fragments children)
  | isNull c => c.qualified ++ [.text " IS NULL"]
  | isNotNull c => c.qualified ++ [.text " IS NOT NULL"]
  | comparison c op a => op.fragment c a
  | columnsEqual a b => a.qualified ++ .text " = " :: b.qualified
  | existsIn table inner =>
    .text "EXISTS (SELECT 1 FROM " :: .text table ::
      (if inner.isEmpty then [] else .text " WHERE " :: fragment inner) ++ [.text ")"]

def fragments : List Condition → List Fragment
  | [] => []
  | k :: ks => if k.isEmpty then fragments ks else fragment k :: fragments ks

end

def whereFragment (k : Condition) : Fragment :=
  if k.isEmpty then [] else .text " WHERE " :: k.fragment

end Condition

def Join.fragment (j : Join) : Fragment :=
  .text (" " ++ j.kind.sql ++ " " ++ j.table ++ " ON ") ::
    if j.on.isEmpty then [.text "TRUE"] else j.on.fragment

def OrderBy.fragment (o : OrderBy) : Fragment :=
  match o.direction with
  | .ascending => o.column.qualified
  | .descending => o.column.qualified ++ [.text " DESC"]

namespace Options

def clause {α : Type} (keyword : String) (fragment : List α → Fragment) (as : List α) : Fragment :=
  if as.isEmpty then [] else .text keyword :: fragment as

def countFragment (keyword : String) (n : UInt32) : Fragment :=
  if n = 0 then [] else [.text keyword, .value (.number (.bigInt (Int64.ofNat n.toNat)))]

def filterFragment : Option Condition → Fragment
  | some k => k.whereFragment
  | .none => []

def lockFragment (lock : Bool) : Fragment := if lock then [.text " FOR UPDATE"] else []

def orderFragment (os : List OrderBy) : Fragment := Fragment.join ", " (os.map OrderBy.fragment)

def fragment (o : Options) : Fragment :=
  o.joins.flatMap Join.fragment ++ filterFragment o.condition ++
    clause " GROUP BY " Columns.qualified o.groupBy ++
    clause " ORDER BY " orderFragment o.orderBy ++
    countFragment " LIMIT " o.limit ++ countFragment " OFFSET " o.offset ++ lockFragment o.lock

end Options

namespace Change

def pathFragment (path : List String) : Fragment :=
  if path.isEmpty then [.text "ARRAY[]::TEXT[]"]
  else .text "ARRAY[" :: Fragment.join ", " (path.map fun s => [.value (.text s)]) ++ [.text "]"]

mutual

def fragment : Change → Fragment
  | set c a => c.unqualified ++ .text " = " :: a.fragment
  | increment c source => c.unqualified ++ .text " = " :: source.unqualified ++ [.text " + 1"]
  | setJson c path value =>
    c.unqualified ++ .text " = jsonb_set(" :: c.unqualified ++ .text ", " :: pathFragment path ++
      [.text ", ", .value (.json value), .text ")"]
  | cte _ _ assignment => optionalFragment assignment

def optionalFragment : Option Change → Fragment
  | none => []
  | some ch => fragment ch

end

end Change

def Changes.fragment (chs : Changes) : Fragment :=
  Fragment.join ", " ((chs.filter Change.hasAssignment).map Change.fragment)

namespace Step

mutual

def fragment : Step → Except Misuse Fragment
  | text s => .ok [.text s]
  | arg a => .ok a.fragment
  | args as => .ok (Fragment.join ", " (as.map Arg.fragment))
  | qualified c => .ok c.qualified
  | unqualified c => .ok c.unqualified
  | columns cs => .ok cs.qualified
  | columnsUnqualified cs => .ok cs.unqualified
  | condition k => .ok k.fragment
  | whereClause k => .ok k.whereFragment
  | options o => .ok o.fragment
  | set chs => .ok (Changes.fragment chs)
  | ctes chs => ctesFrom 0 chs
  | operation op c a => .ok (op.fragment c a)
  | fromTable t => .ok [.text t.fromClause]
  | wrong m => .error m

/-- The steps one after the other, up to the first that is wrong. -/
def fragments : List Step → Except Misuse Fragment
  | [] => .ok []
  | s :: steps =>
    match fragment s with
    | .error m => .error m
    | .ok f => (fragments steps).map fun g => f ++ g

def cteBody : Change → Except Misuse Fragment
  | .cte body _ _ => fragments body
  | .set _ _ | .increment _ _ | .setJson _ _ _ => .ok []

def ctesFrom : Nat → Changes → Except Misuse Fragment
  | _, [] => .ok []
  | position, ch :: chs =>
    if ch.isCte then
      match cteBody ch with
      | .error m => .error m
      | .ok f => (ctesFrom (position + 1) chs).map fun g =>
          .text (", cte_" ++ toString position ++ " AS (") :: f ++ .text ")" :: g
    else ctesFrom (position + 1) chs

end

end Step

end BoundSql
