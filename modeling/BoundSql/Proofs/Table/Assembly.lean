import Mathlib.Data.List.Forall2
import BoundSql.Table.Query
import BoundSql.Proofs.Table.Declared

namespace BoundSql

/-- A column whose innermost name is given, under any functions and fallbacks. -/
inductive Column.Wraps (table name : String) : Column → Prop
  | named : Wraps table name (.named table name)
  | function {f : SqlFunction} {c : Column} (h : Wraps table name c) :
      Wraps table name (.function f c)
  | coalesce {c : Column} {fallback : Arg} (h : Wraps table name c) :
      Wraps table name (.coalesce c fallback)

theorem Column.wraps_iff {table name : String} {c : Column} :
    c.Wraps table name ↔ c.table = table ∧ c.name = name := by
  constructor
  · intro h
    induction h with
    | named => exact ⟨rfl, rfl⟩
    | function h ih | coalesce h ih => exact ih
  · rintro ⟨rfl, rfl⟩
    induction c with
    | named table name => exact .named
    | function f c ih => exact .function ih
    | coalesce c fallback ih => exact .coalesce ih

namespace Table

/-- Whether the innermost name of a column is declared, under the qualifier of the table. -/
def Declares (t : Table) (c : Column) : Prop := ∃ name ∈ t.columns, c.Wraps t.qualifier name

theorem owns_iff {t : Table} {c : Column} : t.owns c = true ↔ t.Declares c := by
  simp only [owns, hasColumn, Bool.and_eq_true, beq_iff_eq, List.contains_iff_mem, Declares,
    Column.wraps_iff]
  constructor
  · rintro ⟨htable, hname⟩
    exact ⟨c.name, hname, htable, rfl⟩
  · rintro ⟨name, hname, htable, rfl⟩
    exact ⟨htable, hname⟩

instance (t : Table) (c : Column) : Decidable (t.Declares c) := decidable_of_iff _ owns_iff

end Table

namespace Joins

open Registration

/-- Whether a join of two tables of these names was registered, in one direction or the other. -/
def Registered (calls : List Registration) (a b : Table) : Prop :=
  ∃ g ∈ calls, g.Accepted ∧ g.Connects a b

instance (calls : List Registration) (a b : Table) : Decidable (Registered calls a b) :=
  inferInstanceAs (Decidable (∃ g ∈ calls, _))

theorem on?_isSome_iff {calls : List Registration} {a b : Table} :
    ((registered calls).on? a b).isSome ↔ Registered calls a b := by
  rw [on?_eq_deciding, Option.isSome_map, deciding?, List.find?_isSome]
  simp only [decide_eq_true_eq, Registered]

end Joins

namespace Query

/-- What can be asked of a query. -/
inductive Call where
  | join (other : Table)
  | leftJoin (other : Table)
  | filter (k : Condition)
  | orderBy (c : Column) (d : Direction)
  | groupBy (c : Column)
  | limit (n : UInt32)
  | offset (n : UInt32)
  | lock

def call (q : Query) : Call → Except Misuse Query
  | .join other => q.join other
  | .leftJoin other => q.leftJoin other
  | .filter k => .ok (q.filter k)
  | .orderBy c d => .ok (q.orderBy c d)
  | .groupBy c => .ok (q.groupBy c)
  | .limit n => .ok (q.limit n)
  | .offset n => .ok (q.offset n)
  | .lock => .ok q.lock

def calls (q : Query) : List Call → Except Misuse Query
  | [] => .ok q
  | c :: cs =>
    match q.call c with
    | .error m => .error m
    | .ok q => q.calls cs

namespace Call

def join? : Call → Option (JoinKind × Table)
  | join other => some (.inner, other)
  | leftJoin other => some (.left, other)
  | _ => none

def filter? : Call → Option Condition
  | filter k => some k
  | _ => none

def orderBy? : Call → Option OrderBy
  | orderBy c d => some ⟨c, d⟩
  | _ => none

def groupBy? : Call → Option Column
  | groupBy c => some c
  | _ => none

def limit? : Call → Option UInt32
  | limit n => some n
  | _ => none

def offset? : Call → Option UInt32
  | offset n => some n
  | _ => none

def isLock : Call → Bool
  | lock => true
  | _ => false

end Call

/-- The last value that was set; zero if none was. -/
def lastOf (ns : List UInt32) : UInt32 := ns.getLast?.getD 0

/-- How a join stands to the call that asked for it. -/
def JoinedBy (t : Table) (j : Joins) (asked : JoinKind × Table) (join : Join) : Prop :=
  ∃ on, j.on? t asked.2 = some on ∧ join = ⟨asked.1, asked.2.fromClause, on⟩

/-- All clauses that calls describe but the condition, which is put together at the end. -/
structure Clauses (t : Table) (j : Joins) (cs : List Call) (o : Options) : Prop where
  joins : List.Forall₂ (JoinedBy t j) (cs.filterMap Call.join?) o.joins
  orderBy : o.orderBy = (cs.filterMap Call.orderBy?).filter fun x => t.Declares x.column
  groupBy : o.groupBy = cs.filterMap Call.groupBy?
  limit : o.limit = lastOf (cs.filterMap Call.limit?)
  offset : o.offset = lastOf (cs.filterMap Call.offset?)
  lock : o.lock = cs.any Call.isLock
  permission : o.permission = none

/-- The options that calls describe: each clause holds what was asked for it, in order, and the
condition is that of all filters together, unless they say nothing. -/
structure Describes (t : Table) (j : Joins) (cs : List Call) (o : Options) : Prop
    extends Clauses t j cs o where
  condition : o.condition = if (Condition.and (cs.filterMap Call.filter?)).isEmpty then none
    else some (.and (cs.filterMap Call.filter?))

/-- What one call adds to a query. -/
structure Adds (t : Table) (j : Joins) (c : Call) (q q' : Query) : Prop where
  table_eq : q'.table = q.table
  joins_eq : q'.joins = q.joins
  filters : q'.filters = q.filters ++ c.filter?.toList
  condition : q'.options.condition = q.options.condition
  joins : ∃ added, List.Forall₂ (JoinedBy t j) c.join?.toList added ∧
    q'.options.joins = q.options.joins ++ added
  orderBy : q'.options.orderBy =
    q.options.orderBy ++ c.orderBy?.toList.filter fun x => t.Declares x.column
  groupBy : q'.options.groupBy = q.options.groupBy ++ c.groupBy?.toList
  limit : q'.options.limit = c.limit?.getD q.options.limit
  offset : q'.options.offset = c.offset?.getD q.options.offset
  lock : q'.options.lock = (q.options.lock || c.isLock)
  permission : q'.options.permission = q.options.permission

/-- A query after some calls. -/
structure After (t : Table) (j : Joins) (cs : List Call) (q : Query) : Prop
    extends Clauses t j cs q.options where
  table_eq : q.table = t
  joins_eq : q.joins = j
  filters_eq : q.filters = cs.filterMap Call.filter?
  condition : q.options.condition = none

variable {t : Table} {j : Joins} {q q' : Query} {c : Call} {cs : List Call}

theorem joinWith_eq (q : Query) (kind : JoinKind) (other : Table) :
    q.joinWith kind other = match q.joins.on? q.table other with
      | none => .error (.notJoined q.table.name other.name)
      | some on =>
        .ok { q with options := q.options.join ⟨kind, other.fromClause, on⟩ } := rfl

theorem call_of_join? {kind : JoinKind} {other : Table} (hc : c.join? = some (kind, other))
    (q : Query) : q.call c = q.joinWith kind other := by
  cases c <;> cases hc <;> rfl

theorem adds_joinWith {kind : JoinKind} {other : Table} (hc : c.join? = some (kind, other))
    (hok : q.joinWith kind other = .ok q') : Adds q.table q.joins c q q' := by
  rw [joinWith_eq] at hok
  split at hok
  next => cases hok
  next on hon =>
    cases hok
    have hjoined : List.Forall₂ (JoinedBy q.table q.joins) c.join?.toList
        [⟨kind, other.fromClause, on⟩] := by
      rw [hc]
      exact .cons ⟨on, hon, rfl⟩ .nil
    cases c <;> cases hc <;>
      exact ⟨rfl, rfl, (List.append_nil _).symm, rfl, ⟨_, hjoined, rfl⟩, (List.append_nil _).symm,
        (List.append_nil _).symm, rfl, rfl, (Bool.or_false _).symm, rfl⟩

/-- A call adds to one clause, and leaves the others as they were. -/
theorem adds_call (hok : q.call c = .ok q') : Adds q.table q.joins c q q' := by
  have hnone {α : Type} (as : List α) : as = as ++ [] := (List.append_nil as).symm
  have hnojoin : ∃ added, List.Forall₂ (JoinedBy q.table q.joins) [] added ∧
      q.options.joins = q.options.joins ++ added := ⟨[], .nil, hnone _⟩
  have hnolock : q.options.lock = (q.options.lock || false) := (Bool.or_false _).symm
  cases c with
  | join other => exact adds_joinWith rfl hok
  | leftJoin other => exact adds_joinWith rfl hok
  | filter k =>
    cases hok
    exact ⟨rfl, rfl, rfl, rfl, hnojoin, hnone _, hnone _, rfl, rfl, hnolock, rfl⟩
  | orderBy c d =>
    by_cases hc : q.table.Declares c
    · have hq' : q' = { q with options := q.options.orderByColumn c d } := by
        simpa [call, Query.orderBy, Table.owns_iff.mpr hc] using hok.symm
      subst hq'
      refine ⟨rfl, rfl, hnone _, rfl, hnojoin, ?_, hnone _, rfl, rfl, hnolock, rfl⟩
      simp [Call.orderBy?, hc, Options.orderByColumn]
    · have hq' : q' = q := by
        simpa [call, Query.orderBy, mt Table.owns_iff.mp hc] using hok.symm
      subst hq'
      refine ⟨rfl, rfl, hnone _, rfl, hnojoin, ?_, hnone _, rfl, rfl, hnolock, rfl⟩
      simp [Call.orderBy?, hc]
  | groupBy c =>
    cases hok
    exact ⟨rfl, rfl, hnone _, rfl, hnojoin, hnone _, rfl, rfl, rfl, hnolock, rfl⟩
  | limit n | offset n =>
    cases hok
    exact ⟨rfl, rfl, hnone _, rfl, hnojoin, hnone _, hnone _, rfl, rfl, hnolock, rfl⟩
  | lock =>
    cases hok
    exact ⟨rfl, rfl, hnone _, rfl, hnojoin, hnone _, hnone _, rfl, rfl, (Bool.or_true _).symm, rfl⟩

theorem filterMap_concat {β : Type} (f : Call → Option β) (cs : List Call) (c : Call) :
    (cs ++ [c]).filterMap f = cs.filterMap f ++ (f c).toList := by
  cases h : f c <;> simp [h]

theorem lastOf_append (ns : List UInt32) (n : Option UInt32) :
    lastOf (ns ++ n.toList) = n.getD (lastOf ns) := by
  cases n <;> simp [lastOf]

theorem after_on (t : Table) (j : Joins) (select : Option (List String)) :
    After t j [] (Query.on t j select) :=
  ⟨⟨.nil, rfl, rfl, rfl, rfl, rfl, rfl⟩, rfl, rfl, rfl, rfl⟩

theorem After.concat (h : After t j cs q) (hc : Adds t j c q q') : After t j (cs ++ [c]) q' := by
  obtain ⟨added, hadded, hjoins⟩ := hc.joins
  refine ⟨⟨?_, ?_, ?_, ?_, ?_, ?_, ?_⟩, ?_, ?_, ?_, ?_⟩
  · rw [hjoins, filterMap_concat]
    exact List.rel_append h.joins hadded
  · rw [hc.orderBy, h.orderBy, filterMap_concat, List.filter_append]
  · rw [hc.groupBy, h.groupBy, filterMap_concat]
  · rw [hc.limit, h.limit, filterMap_concat, lastOf_append]
  · rw [hc.offset, h.offset, filterMap_concat, lastOf_append]
  · rw [hc.lock, h.lock, List.any_append, List.any_cons, List.any_nil, Bool.or_false]
  · exact hc.permission.trans h.permission
  · exact hc.table_eq.trans h.table_eq
  · exact hc.joins_eq.trans h.joins_eq
  · rw [hc.filters, h.filters_eq, filterMap_concat]
  · exact hc.condition.trans h.condition

theorem After.call (h : After t j cs q) (hok : q.call c = .ok q') : After t j (cs ++ [c]) q' := by
  have hadds := adds_call hok
  rw [h.table_eq, h.joins_eq] at hadds
  exact h.concat hadds

theorem After.calls {later : List Call} (h : After t j cs q) (hok : q.calls later = .ok q') :
    After t j (cs ++ later) q' := by
  induction later generalizing cs q with
  | nil =>
    cases hok
    rwa [List.append_nil]
  | cons c later ih =>
    rw [Query.calls] at hok
    split at hok
    next => cases hok
    next q₁ hc =>
      rw [List.append_cons]
      exact ih (h.call hc) hok

/-- The condition is put together from the filters, and nothing else is changed. -/
theorem After.describes (h : After t j cs q) : Describes t j cs q.finalOptions := by
  unfold finalOptions
  rw [h.filters_eq]
  split
  next hempty => exact ⟨h.toClauses, by rw [h.condition, if_pos hempty]⟩
  next hfilled =>
    refine ⟨⟨h.joins, h.orderBy, h.groupBy, h.limit, h.offset, h.lock, h.permission⟩, ?_⟩
    rw [if_neg hfilled]
    rfl

theorem selecting_eq (q : Query) (columns : Columns) :
    q.selecting columns =
      (Builder.empty.writeText "SELECT " |>.writeColumns columns |>.writeText " FROM "
        |>.writeText q.table.fromClause |>.writeOptions q.finalOptions).build := by
  have hstart : Builder.start "SELECT " = Builder.empty.writeText "SELECT " := rfl
  have htext (b : Builder) (s t : String) : b.writeText (s ++ t) = (b.writeText s).writeText t := by
    simp [Builder.writeText, String.append_assoc]
  rw [selecting, htext, hstart]

open Joins

variable {regs : List Registration} {m : Misuse}

/-- A join is refused if the tables were not registered in either direction. -/
theorem joinWith_eq_error_iff (hj : q.joins = registered regs) {kind : JoinKind} {other : Table} :
    q.joinWith kind other = .error m ↔
      ¬ Registered regs q.table other ∧ m = .notJoined q.table.name other.name := by
  rw [joinWith_eq, hj]
  have hiff : ((registered regs).on? q.table other).isSome ↔ Registered regs q.table other :=
    on?_isSome_iff
  rcases hon : (registered regs).on? q.table other with _ | on <;> rw [hon] at hiff
  · have hnot : ¬ Registered regs q.table other := by simpa using hiff
    simp [hnot, eq_comm]
  · have hyes : Registered regs q.table other := by simpa using hiff
    simp [hyes]

theorem call_of_none (hc : c.join? = none) (q : Query) : ∃ q', q.call c = .ok q' := by
  cases c with
  | join other | leftJoin other => cases hc
  | filter | orderBy | groupBy | limit | offset | lock => exact ⟨_, rfl⟩

theorem call_eq_error_iff (hj : q.joins = registered regs) :
    q.call c = .error m ↔ ∃ asked, c.join? = some asked ∧
      ¬ Registered regs q.table asked.2 ∧ m = .notJoined q.table.name asked.2.name := by
  cases hc : c.join? with
  | none =>
    obtain ⟨q', hq'⟩ := call_of_none hc q
    simp [hq']
  | some asked =>
    rw [call_of_join? hc, joinWith_eq_error_iff hj]
    simp

/-- The first table that is to be joined and was not registered with that of the query. -/
def unregistered? (regs : List Registration) (t : Table) (cs : List Call) : Option Table :=
  ((cs.filterMap Call.join?).map Prod.snd).find? fun other => ¬ Registered regs t other

theorem unregistered?_cons_of_none (hc : c.join? = none) :
    unregistered? regs t (c :: cs) = unregistered? regs t cs := by
  rw [unregistered?, List.filterMap_cons_none hc, unregistered?]

theorem unregistered?_cons_of_some {asked : JoinKind × Table} (hc : c.join? = some asked) :
    unregistered? regs t (c :: cs) =
      if Registered regs t asked.2 then unregistered? regs t cs else some asked.2 := by
  rw [unregistered?, List.filterMap_cons_some hc, List.map_cons, List.find?_cons]
  by_cases h : Registered regs t asked.2 <;> simp [h, unregistered?]

theorem calls_eq_error_iff (hj : q.joins = registered regs) :
    q.calls cs = .error m ↔ ∃ other, unregistered? regs q.table cs = some other ∧
      m = .notJoined q.table.name other.name := by
  induction cs generalizing q with
  | nil => simp [calls, unregistered?]
  | cons c cs ih =>
    rw [calls]
    rcases hok : q.call c with m' | q'
    · obtain ⟨asked, hc, hasked, rfl⟩ := (call_eq_error_iff hj).mp hok
      simp [unregistered?_cons_of_some hc, hasked, eq_comm]
    · have hadds := adds_call hok
      have hrest : unregistered? regs q.table (c :: cs) = unregistered? regs q.table cs := by
        cases hc : c.join? with
        | none => exact unregistered?_cons_of_none hc
        | some asked =>
          rw [unregistered?_cons_of_some hc, if_pos]
          by_contra hasked
          have herror := (call_eq_error_iff hj).mpr ⟨asked, hc, hasked, rfl⟩
          rw [hok] at herror
          cases herror
      rw [hrest, ← hadds.table_eq]
      exact ih (hadds.joins_eq.trans hj)

/-- Calls on a query end in a refused join exactly if some table is not registered with that of the
query. Otherwise the text and the arguments are those of the options that the calls describe,
written behind the columns and the table. -/
theorem assembled (regs : List Registration) (t : Table) (select : Option (List String))
    (cs : List Call) :
    (∀ m, (Query.on t (registered regs) select).calls cs = .error m ↔
      ∃ other, unregistered? regs t cs = some other ∧ m = .notJoined t.name other.name) ∧
    ∀ q, (Query.on t (registered regs) select).calls cs = .ok q →
      ∃ o, Describes t (registered regs) cs o ∧ ∀ columns,
        q.selecting columns =
          (Builder.empty.writeText "SELECT " |>.writeColumns columns |>.writeText " FROM "
            |>.writeText t.fromClause |>.writeOptions o).build := by
  refine ⟨fun m => calls_eq_error_iff rfl, fun q hq => ?_⟩
  have hafter := (after_on t (registered regs) select).calls hq
  rw [List.nil_append] at hafter
  refine ⟨q.finalOptions, hafter.describes, fun columns => ?_⟩
  rw [selecting_eq, hafter.table_eq]

/-- The first limit, a filter that says nothing and the order of another table leave no trace. A
join with a third table is refused. -/
theorem usersInOrgs_assembled :
    ∃ (regs : List Registration) (username : Column) (cs : List Call) (q : Query) (o : Options),
      username = .function .lower (.named "users" "username") ∧
      cs = [.limit 5, .orderBy username .descending, .orderBy (.named "orgs" "name") .ascending,
        .leftJoin .orgs, .filter (.or []), .limit 20, .lock] ∧
      (Query.on .users (registered regs) none).calls cs = .ok q ∧
      Describes .users (registered regs) cs o ∧ o.orderBy = [⟨username, .descending⟩] ∧
      o.limit = 20 ∧ o.condition = none ∧
      q.build = (Builder.empty.writeText "SELECT " |>.writeColumns q.columns |>.writeText " FROM "
        |>.writeText "core.users" |>.writeOptions o).build ∧
      (Query.on .users (registered regs) none).calls (cs ++ [.join .instances]) =
        .error (.notJoined "users" "instances") := by
  let regs : List Registration := [⟨.orgs, .users, [("id", "org_id")]⟩]
  let username : Column := .function .lower (.named "users" "username")
  let cs : List Call := [.limit 5, .orderBy username .descending,
    .orderBy (.named "orgs" "name") .ascending, .leftJoin .orgs, .filter (.or []), .limit 20, .lock]
  obtain ⟨herror, hok⟩ := assembled regs .users none cs
  rcases hq : (Query.on .users (registered regs) none).calls cs with m | q
  · obtain ⟨other, hnone, -⟩ := (herror m).mp hq
    cases hnone.symm.trans (by decide : unregistered? regs .users cs = none)
  · obtain ⟨o, hdescribes, htext⟩ := hok q hq
    exact ⟨regs, username, cs, q, o, rfl, rfl, hq, hdescribes, hdescribes.orderBy,
      hdescribes.limit, hdescribes.condition, htext _,
      ((assembled regs .users none (cs ++ [.join .instances])).1 _).mpr ⟨_, rfl, rfl⟩⟩

end Query

end BoundSql
