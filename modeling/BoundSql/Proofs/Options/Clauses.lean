import Mathlib.Data.List.Induction
import BoundSql.Proofs.Condition.Emptiness
import BoundSql.Proofs.Statement.Refinement

namespace BoundSql

open Fragment

/-- A clause behind the FROM of a SELECT. -/
inductive Clause where
  | join (j : Join)
  | filter (k : Condition)
  | group (cs : Columns)
  | order (os : List OrderBy)
  | limit (n : UInt32)
  | offset (n : UInt32)
  | lock

namespace Clause

def keyword : Clause → String
  | join j => " " ++ j.kind.sql ++ " " ++ j.table ++ " ON "
  | filter _ => " WHERE "
  | group _ => " GROUP BY "
  | order _ => " ORDER BY "
  | limit _ => " LIMIT "
  | offset _ => " OFFSET "
  | lock => " FOR UPDATE"

/-- What stands behind the keyword; a lock is a keyword alone. -/
def operand : Clause → Fragment
  | join j => if j.on.isEmpty then [.text "TRUE"] else j.on.fragment
  | filter k => k.fragment
  | group cs => cs.qualified
  | order os => Options.orderFragment os
  | limit n | offset n => [.value (.number (.bigInt (Int64.ofNat n.toNat)))]
  | lock => []

def fragment (c : Clause) : Fragment := .text c.keyword :: c.operand

def text (args : List Value) (c : Clause) : String := c.keyword ++ c.operand.render args

/-- The place of a clause behind the FROM. Only joins share theirs. -/
def rank : Clause → Nat
  | join _ => 0
  | filter _ => 1
  | group _ => 2
  | order _ => 3
  | limit _ => 4
  | offset _ => 5
  | lock => 6

def joined? : Clause → Option Join
  | join j => some j
  | _ => none

/-- The clause if it is set, and no clause otherwise. -/
def given (set : Bool) (c : Clause) : List Clause := if set then [c] else []

@[simp] theorem mem_given {set : Bool} {c d : Clause} : d ∈ given set c ↔ set = true ∧ d = c := by
  cases set <;> simp [given]

theorem flatMap_given (set : Bool) (c : Clause) :
    (given set c).flatMap fragment = if set then c.fragment else [] := by
  cases set <;> simp [given]

/-- Clauses of ranks below a bound, each behind those of lower ranks. -/
structure Ordered (bound : Nat) (xs : List Clause) : Prop where
  pairwise : xs.Pairwise fun c d => c.rank < d.rank ∨ c.rank = 0 ∧ d.rank = 0
  rank_lt : ∀ c ∈ xs, c.rank < bound

variable {bound : Nat} {xs : List Clause}

theorem ordered_joins (js : List Join) : Ordered 1 (js.map join) where
  pairwise := List.pairwise_map.mpr (List.pairwise_of_forall fun _ _ => .inr ⟨rfl, rfl⟩)
  rank_lt := List.forall_mem_map.mpr fun _ _ => Nat.one_pos

theorem Ordered.succ (h : Ordered bound xs) : Ordered (bound + 1) xs :=
  ⟨h.pairwise, fun c hc => (h.rank_lt c hc).trans (Nat.lt_succ_self bound)⟩

theorem Ordered.given (h : Ordered bound xs) (set : Bool) {c : Clause} (hc : c.rank = bound) :
    Ordered (bound + 1) (xs ++ given set c) where
  pairwise := by
    refine List.pairwise_append.mpr ⟨h.pairwise, by cases set <;> simp [Clause.given], ?_⟩
    intro x hx y hy
    obtain ⟨-, rfl⟩ := mem_given.mp hy
    exact .inl (hc ▸ h.rank_lt x hx)
  rank_lt x hx := by
    rcases List.mem_append.mp hx with hx | hx
    · exact h.succ.rank_lt x hx
    · obtain ⟨-, rfl⟩ := mem_given.mp hx
      exact hc ▸ Nat.lt_succ_self _

theorem Ordered.perhaps {α : Type} (h : Ordered bound xs) (o : Option α) (set : α → Bool)
    {clause : α → Clause} (hclause : ∀ a, (clause a).rank = bound) :
    Ordered (bound + 1) (xs ++ o.toList.flatMap fun a => Clause.given (set a) (clause a)) := by
  cases o with
  | none => simpa using h.succ
  | some a => simpa using h.given (set a) (hclause a)

end Clause

theorem OrderBy.shows_fragment (o : OrderBy) : o.fragment.Shows := by
  rw [fragment]
  split
  next => exact o.column.shows_qualified
  next => exact shows_append.mpr (.inl o.column.shows_qualified)

namespace Options

/-- What can be set on options. -/
inductive Call where
  | condition (k : Condition)
  | join (j : Join)
  | leftJoin (table : String) (on : Condition)
  | orderBy (c : Column) (d : Direction)
  | groupBy (c : Column)
  | limit (n : UInt32)
  | offset (n : UInt32)
  | lock
  | permission (s : String)

def call (o : Options) : Call → Options
  | .condition k => o.withCondition k
  | .join j => o.join j
  | .leftJoin table on => o.leftJoin table on
  | .orderBy c d => o.orderByColumn c d
  | .groupBy c => o.groupByColumn c
  | .limit n => o.withLimit n
  | .offset n => o.withOffset n
  | .lock => o.withLock
  | .permission s => o.withPermission s

def ofCalls (cs : List Call) : Options := cs.foldl call none

namespace Call

def condition? : Call → Option Condition
  | condition k => some k
  | _ => .none

/-- A left join is a join like any other. -/
def join? : Call → Option Join
  | join j => some j
  | leftJoin table on => some ⟨.left, table, on⟩
  | _ => .none

def orderBy? : Call → Option OrderBy
  | orderBy c d => some ⟨c, d⟩
  | _ => .none

def groupBy? : Call → Option Column
  | groupBy c => some c
  | _ => .none

def limit? : Call → Option UInt32
  | limit n => some n
  | _ => .none

def offset? : Call → Option UInt32
  | offset n => some n
  | _ => .none

def isLock : Call → Bool
  | lock => true
  | _ => false

def permission? : Call → Option String
  | permission s => some s
  | _ => .none

/-- The setters, a join and a left join apart. -/
inductive Setter where
  | condition | join | leftJoin | orderBy | groupBy | limit | offset | lock | permission
  deriving DecidableEq

def setter : Call → Setter
  | condition _ => .condition
  | join _ => .join
  | leftJoin _ _ => .leftJoin
  | orderBy _ _ => .orderBy
  | groupBy _ => .groupBy
  | limit _ => .limit
  | offset _ => .offset
  | lock => .lock
  | permission _ => .permission

theorem isLock_iff {c : Call} : c.isLock = true ↔ c = lock := by
  cases c <;> simp [isLock]

end Call

/-- The last value that calls set, if one does. -/
def last? {α : Type} (value? : Call → Option α) (cs : List Call) : Option α :=
  (cs.filterMap value?).getLast?

/-- The clauses that calls come to: joins in the order of the calls, and of each other kind at most
one. -/
def clauses (cs : List Call) : List Clause :=
  (cs.filterMap Call.join?).map Clause.join ++
    ((last? Call.condition? cs).toList.flatMap fun k => Clause.given (!k.isEmpty) (.filter k)) ++
    Clause.given (!(cs.filterMap Call.groupBy?).isEmpty) (.group (cs.filterMap Call.groupBy?)) ++
    Clause.given (!(cs.filterMap Call.orderBy?).isEmpty) (.order (cs.filterMap Call.orderBy?)) ++
    ((last? Call.limit? cs).toList.flatMap fun n => Clause.given (n != 0) (.limit n)) ++
    ((last? Call.offset? cs).toList.flatMap fun n => Clause.given (n != 0) (.offset n)) ++
    Clause.given (cs.any Call.isLock) .lock

/-- What clauses say is what calls say, in the order of a SELECT. A clause is left out exactly if it
is unset, empty or zero. -/
structure Tell (cs : List Call) (xs : List Clause) : Prop where
  ordered : xs.Pairwise fun c d => c.rank < d.rank ∨ c.rank = 0 ∧ d.rank = 0
  joins : xs.filterMap Clause.joined? = cs.filterMap Call.join?
  filter : ∀ k, .filter k ∈ xs ↔ last? Call.condition? cs = some k ∧ k.isEmpty = false
  group : ∀ gs, .group gs ∈ xs ↔ gs = cs.filterMap Call.groupBy? ∧ gs ≠ []
  order : ∀ os, .order os ∈ xs ↔ os = cs.filterMap Call.orderBy? ∧ os ≠ []
  limit : ∀ n, .limit n ∈ xs ↔ last? Call.limit? cs = some n ∧ n ≠ 0
  offset : ∀ n, .offset n ∈ xs ↔ last? Call.offset? cs = some n ∧ n ≠ 0
  lock : .lock ∈ xs ↔ Call.lock ∈ cs

/-- The same calls of each kind in the same order, where joins and left joins are of one kind: they
go into one list, and stand in its order. Of conditions, limits and offsets the last one counts, of
locks whether there is one, and permissions do not. -/
structure Alike (cs cs' : List Call) : Prop where
  joins : cs.filterMap Call.join? = cs'.filterMap Call.join?
  condition : last? Call.condition? cs = last? Call.condition? cs'
  groupBy : cs.filterMap Call.groupBy? = cs'.filterMap Call.groupBy?
  orderBy : cs.filterMap Call.orderBy? = cs'.filterMap Call.orderBy?
  limit : last? Call.limit? cs = last? Call.limit? cs'
  offset : last? Call.offset? cs = last? Call.offset? cs'
  lock : cs.any Call.isLock = cs'.any Call.isLock

variable {cs cs' : List Call}

theorem last?_concat {α : Type} (value? : Call → Option α) (cs : List Call) (c : Call) :
    last? value? (cs ++ [c]) = (value? c).or (last? value? cs) := by
  rw [last?, List.filterMap_append, List.getLast?_append, last?]
  cases h : value? c <;> simp [h]

/-- Every field is set by the calls for it alone. -/
theorem ofCalls_eq (cs : List Call) :
    ofCalls cs = {
      condition := last? Call.condition? cs
      joins := cs.filterMap Call.join?
      orderBy := cs.filterMap Call.orderBy?
      groupBy := cs.filterMap Call.groupBy?
      limit := (last? Call.limit? cs).getD 0
      offset := (last? Call.offset? cs).getD 0
      lock := cs.any Call.isLock
      permission := last? Call.permission? cs } := by
  induction cs using List.reverseRecOn with
  | nil => rfl
  | append_singleton cs c ih =>
    rw [ofCalls, List.foldl_concat, ← ofCalls, ih]
    simp only [List.filterMap_append, last?_concat, List.any_append]
    cases c <;> simp [call, withCondition, Options.join, leftJoin, orderByColumn, groupByColumn,
      withLimit, withOffset, withLock, withPermission, Call.condition?, Call.join?, Call.orderBy?,
      Call.groupBy?, Call.limit?, Call.offset?, Call.isLock, Call.permission?]

theorem flatMap_joins (js : List Join) :
    (js.map Clause.join).flatMap Clause.fragment = js.flatMap Join.fragment := by
  rw [List.flatMap_map]
  rfl

theorem flatMap_filter (k : Option Condition) :
    (k.toList.flatMap fun k => Clause.given (!k.isEmpty) (.filter k)).flatMap Clause.fragment =
      filterFragment k := by
  cases k with
  | none => rfl
  | some k =>
    rw [Option.toList_some, List.flatMap_singleton, Clause.flatMap_given, filterFragment,
      Condition.whereFragment]
    cases k.isEmpty <;> rfl

theorem flatMap_listed {α : Type} {keyword : String} {fragment : List α → Fragment}
    {listed : List α → Clause} (h : ∀ as, (listed as).fragment = .text keyword :: fragment as)
    (as : List α) :
    (Clause.given (!as.isEmpty) (listed as)).flatMap Clause.fragment =
      clause keyword fragment as := by
  rw [Clause.flatMap_given, clause, h]
  cases as <;> rfl

theorem flatMap_counted {keyword : String} {counted : UInt32 → Clause}
    (h : ∀ n, (counted n).fragment =
      [.text keyword, .value (.number (.bigInt (Int64.ofNat n.toNat)))]) (n : Option UInt32) :
    (n.toList.flatMap fun n => Clause.given (n != 0) (counted n)).flatMap Clause.fragment =
      countFragment keyword (n.getD 0) := by
  cases n with
  | none => rfl
  | some n =>
    rw [Option.toList_some, List.flatMap_singleton, Clause.flatMap_given, h, countFragment,
      Option.getD_some]
    by_cases hn : n = 0 <;> simp [hn]

theorem flatMap_lock (lock : Bool) :
    (Clause.given lock .lock).flatMap Clause.fragment = lockFragment lock := by
  cases lock <;> rfl

/-- The clauses have the fragments of the fields. -/
theorem fragment_ofCalls (cs : List Call) :
    (ofCalls cs).fragment = (clauses cs).flatMap Clause.fragment := by
  have hgroup (gs : Columns) : (Clause.given (!gs.isEmpty) (.group gs)).flatMap Clause.fragment =
      clause " GROUP BY " Columns.qualified gs := flatMap_listed (fun _ => rfl) gs
  have horder (os : List OrderBy) :
      (Clause.given (!os.isEmpty) (.order os)).flatMap Clause.fragment =
        clause " ORDER BY " orderFragment os := flatMap_listed (fun _ => rfl) os
  have hlimit := flatMap_counted (fun n => (rfl : (Clause.limit n).fragment =
    [.text " LIMIT ", .value (.number (.bigInt (Int64.ofNat n.toNat)))]))
  have hoffset := flatMap_counted (fun n => (rfl : (Clause.offset n).fragment =
    [.text " OFFSET ", .value (.number (.bigInt (Int64.ofNat n.toNat)))]))
  simp only [ofCalls_eq, fragment, clauses, List.flatMap_append, flatMap_joins, flatMap_filter,
    hgroup, horder, hlimit, hoffset, flatMap_lock]

theorem set_iff_filled {α : Type} {asked as : List α} :
    asked ≠ [] ∧ as = asked ↔ as = asked ∧ as ≠ [] :=
  and_comm.trans (and_congr_right fun h => by rw [h])

theorem tell_clauses (cs : List Call) : Tell cs (clauses cs) where
  ordered := by
    have hjoins := Clause.ordered_joins (cs.filterMap Call.join?)
    have hfilter := hjoins.perhaps (last? Call.condition? cs) (fun k => !k.isEmpty)
      (fun k => (rfl : (Clause.filter k).rank = 1))
    have hgroup := hfilter.given (!(cs.filterMap Call.groupBy?).isEmpty)
      (rfl : (Clause.group (cs.filterMap Call.groupBy?)).rank = 2)
    have horder := hgroup.given (!(cs.filterMap Call.orderBy?).isEmpty)
      (rfl : (Clause.order (cs.filterMap Call.orderBy?)).rank = 3)
    have hlimit := horder.perhaps (last? Call.limit? cs) (fun n => n != 0)
      (fun n => (rfl : (Clause.limit n).rank = 4))
    have hoffset := hlimit.perhaps (last? Call.offset? cs) (fun n => n != 0)
      (fun n => (rfl : (Clause.offset n).rank = 5))
    exact (hoffset.given (cs.any Call.isLock) (rfl : Clause.lock.rank = 6)).pairwise
  joins := by
    have honly {rest : List Clause} (hrest : ∀ c ∈ rest, c.joined? = .none) (js : List Join) :
        (js.map Clause.join ++ rest).filterMap Clause.joined? = js := by
      rw [List.filterMap_append, List.filterMap_map, List.filterMap_eq_nil_iff.mpr hrest,
        List.append_nil]
      exact List.filterMap_some
    simp only [clauses, List.append_assoc]
    refine honly (fun c hc => ?_) _
    simp only [List.mem_append, List.mem_flatMap, Clause.mem_given] at hc
    rcases hc with ⟨_, -, -, rfl⟩ | ⟨-, rfl⟩ | ⟨-, rfl⟩ | ⟨_, -, -, rfl⟩ | ⟨_, -, -, rfl⟩ | ⟨-, rfl⟩
      <;> rfl
  filter k := by simp [clauses]
  group gs := by
    rw [clauses]
    generalize cs.filterMap Call.groupBy? = asked
    simpa using set_iff_filled
  order os := by
    rw [clauses]
    generalize cs.filterMap Call.orderBy? = asked
    simpa using set_iff_filled
  limit n := by simp [clauses]
  offset n := by simp [clauses]
  lock := by simp [clauses, Call.isLock_iff]

theorem shows_operand {c : Clause} (hc : c ∈ clauses cs) (hlock : c ≠ .lock) :
    c.operand.Shows := by
  have htell := tell_clauses cs
  cases c with
  | join j =>
    rw [Clause.operand]
    split
    next => exact shows_text.mpr (.inl (by decide))
    next h => exact Condition.shows_fragment (Bool.eq_false_iff.mpr h)
  | filter k => exact Condition.shows_fragment ((htell.filter k).mp hc).2
  | group gs =>
    have hne : gs.map Column.qualified ≠ [] := by simpa using ((htell.group gs).mp hc).2
    exact shows_join (List.forall_mem_map.mpr fun c _ => c.shows_qualified) hne
  | order os =>
    have hne : os.map OrderBy.fragment ≠ [] := by simpa using ((htell.order os).mp hc).2
    exact shows_join (List.forall_mem_map.mpr fun o _ => o.shows_fragment) hne
  | limit n | offset n => exact shows_value _ _
  | lock => exact absurd rfl hlock

theorem Alike.clauses_eq (h : Alike cs cs') : clauses cs = clauses cs' := by
  rw [clauses, clauses, h.joins, h.condition, h.groupBy, h.orderBy, h.limit, h.offset, h.lock]

end Options

namespace Builder

open Options

/-- The options that calls come to are written clause by clause in the order of a SELECT, whatever
the order of the calls, and their literals are bound in that order. A clause that is not left out
has something behind its keyword. Calls that are alike come to the same statement, and permissions
have no part in it. -/
theorem writeOptions_by_clause {b : Builder} (hb : b.Reachable) (cs : List Call) :
    (b.writeOptions (ofCalls cs)).sql = b.sql ++
        String.join ((clauses cs).map (Clause.text (b.writeOptions (ofCalls cs)).args)) ∧
      (b.writeOptions (ofCalls cs)).args = b.args ++
        Value.unbound b.keys ((clauses cs).flatMap fun c => c.operand.literals) ∧
      Tell cs (clauses cs) ∧
      (∀ c ∈ clauses cs, c ≠ .lock → ∀ args, c.operand.render args ≠ "") ∧
      ∀ cs', Alike cs cs' → ∀ b' : Builder,
        b'.writeOptions (ofCalls cs) = b'.writeOptions (ofCalls cs') := by
  obtain ⟨-, hargs, hsql⟩ := hb.consistent.write ((clauses cs).flatMap Clause.fragment)
  rw [← fragment_ofCalls, ← writeOptions_eq_write] at hargs hsql
  refine ⟨?_, ?_, tell_clauses cs, fun c hc hlock args => ?_, fun cs' halike b' => ?_⟩
  · rw [hsql, fragment_ofCalls, render_flatMap]
    rfl
  · rw [hargs, fragment_ofCalls, literals_flatMap]
    rfl
  · exact shows_iff_render_ne.mp (shows_operand hc hlock)
  · rw [writeOptions_eq_write, writeOptions_eq_write, fragment_ofCalls, fragment_ofCalls,
      halike.clauses_eq]

/-- Calls for every clause, some of them for nothing: a limit and a condition that others replace,
and an offset of zero. -/
def paged : List Call :=
  [.limit 5, .condition (.isNull (.named "docs" "id")),
    .orderBy (.named "docs" "title") .descending,
    .join ⟨.inner, "orgs", .columnsEqual (.named "docs" "org") (.named "orgs" "id")⟩, .offset 0,
    .groupBy (.coalesce (.named "docs" "title") (.value (.text "none"))), .permission "docs.read",
    .condition (.comparison (.named "docs" "state") (.text .equal) (.value (.text "old"))),
    .leftJoin "tags" (.or [.and []]), .limit 20, .lock]

/-- These calls from the last clause to the first, without those that others replace and with
another permission. -/
def pagedBackwards : List Call :=
  [.lock, .permission "docs.write", .limit 20, .orderBy (.named "docs" "title") .descending, .lock,
    .groupBy (.coalesce (.named "docs" "title") (.value (.text "none"))), .offset 0,
    .condition (.comparison (.named "docs" "state") (.text .equal) (.value (.text "old"))),
    .join ⟨.inner, "orgs", .columnsEqual (.named "docs" "org") (.named "orgs" "id")⟩,
    .join ⟨.left, "tags", .or [.and []]⟩]

theorem paged_by_clause :
    ∃ b : Builder, b.Reachable ∧ b.args = [.text "none"] ∧
      (b.writeOptions (ofCalls paged)).args =
        [.text "none", .text "old", .number (.bigInt 20)] ∧
      (b.writeOptions (ofCalls paged)).sql = "SELECT $1 FROM docs" ++ String.join
        [" INNER JOIN orgs ON docs.org = orgs.id", " LEFT JOIN tags ON TRUE",
          " WHERE docs.state = $2", " GROUP BY COALESCE(docs.title, $1)",
          " ORDER BY docs.title DESC", " LIMIT $3", " FOR UPDATE"] ∧
      b.writeOptions (ofCalls paged) = b.writeOptions (ofCalls pagedBackwards) := by
  have hb : ((start "SELECT ").write [.value (.text "none"), .text " FROM docs"]).Reachable :=
    .step (.text " FROM docs")
      (.step (.arg (.value (.text "none"))) (.start "SELECT ") rfl) rfl
  obtain ⟨hsql, hargs, -, -, hreordered⟩ := writeOptions_by_clause hb paged
  rw [keys, args_write_start] at hargs
  have hbound := hargs.trans
    (by rfl : _ = [Value.text "none", .text "old", .number (.bigInt 20)])
  refine ⟨_, hb, args_write_start _ _, hbound, ?_,
    hreordered _ ⟨rfl, rfl, rfl, rfl, rfl, rfl, rfl⟩ _⟩
  rw [hsql, hbound, sql_write_start]
  decide +kernel

/-- Calls of every setter in the same order come to different statements when a join and a left join
change places. -/
theorem joins_written_in_call_order :
    let inner : Call := .join ⟨.inner, "a", .and []⟩
    let left : Call := .leftJoin "b" (.and [])
    (∀ s, [inner, left].filter (fun c => c.setter = s) =
        [left, inner].filter fun c => c.setter = s) ∧
      ((start "SELECT 1 FROM t").writeOptions (ofCalls [inner, left])).sql =
        "SELECT 1 FROM t INNER JOIN a ON TRUE LEFT JOIN b ON TRUE" ∧
      ((start "SELECT 1 FROM t").writeOptions (ofCalls [left, inner])).sql =
        "SELECT 1 FROM t LEFT JOIN b ON TRUE INNER JOIN a ON TRUE" := by
  refine ⟨fun s => ?_, rfl, rfl⟩
  cases s <;> rfl

end Builder

end BoundSql
