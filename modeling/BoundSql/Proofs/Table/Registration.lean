import BoundSql.Table.Joins

namespace BoundSql

/-- A call that registers a join. -/
structure Registration where
  left : Table
  right : Table
  pairs : ColumnPairs

namespace Registration

def Declared (g : Registration) (p : String × String) : Prop :=
  g.left.hasColumn p.1 = true ∧ g.right.hasColumn p.2 = true

def Accepted (g : Registration) : Prop := g.pairs ≠ [] ∧ ∀ p ∈ g.pairs, g.Declared p

instance (g : Registration) (p : String × String) : Decidable (g.Declared p) :=
  inferInstanceAs (Decidable (_ ∧ _))

instance (g : Registration) : Decidable g.Accepted := inferInstanceAs (Decidable (_ ∧ _))

/-- What is wrong with a registration. The first pair with an undeclared column decides, and of that
pair the left column. -/
inductive Fault (g : Registration) : String → Prop
  | empty (hp : g.pairs = []) : Fault g "no columns to join on"
  | left {before after : ColumnPairs} {l r : String} (hp : g.pairs = before ++ (l, r) :: after)
      (hb : ∀ p ∈ before, g.Declared p) (hl : g.left.hasColumn l = false) :
      Fault g (g.left.name ++ " has no column " ++ l)
  | right {before after : ColumnPairs} {l r : String} (hp : g.pairs = before ++ (l, r) :: after)
      (hb : ∀ p ∈ before, g.Declared p) (hl : g.left.hasColumn l = true)
      (hr : g.right.hasColumn r = false) : Fault g (g.right.name ++ " has no column " ++ r)

/-- The pairs for the way back. -/
def back (g : Registration) : ColumnPairs := g.pairs.map Prod.swap

def Joining (g : Registration) (a b : Table) : Prop :=
  g.left.name = a.name ∧ g.right.name = b.name

instance (g : Registration) (a b : Table) : Decidable (g.Joining a b) :=
  inferInstanceAs (Decidable (_ ∧ _))

theorem back_eq_pairs {g : Registration} : g.back = g.pairs ↔ ∀ p ∈ g.pairs, p.1 = p.2 := by
  have hswap (p : String × String) : p.swap = id p ↔ p.1 = p.2 := by
    rw [Prod.ext_iff]
    exact ⟨fun h => h.2, fun h => ⟨h.symm, h⟩⟩
  have hback : g.back = g.pairs ↔ g.pairs.map Prod.swap = g.pairs.map id := by
    rw [List.map_id, back]
  simp only [hback, List.map_inj_left, hswap]

end Registration

namespace Joins

open Registration

/-- The registry after some calls, the last one first. A call that fails leaves it as it was. -/
def registered : List Registration → Joins
  | [] => empty
  | g :: earlier =>
    match (registered earlier).register g.left g.right g.pairs with
    | .ok j => j
    | .error _ => registered earlier

/-- What an accepted registration leaves. -/
def record (j : Joins) (g : Registration) : Joins :=
  ⟨(j.pairs.insert (g.left.name, g.right.name) g.pairs).insert (g.right.name, g.left.name) g.back⟩

theorem undeclared?_eq_none {g : Registration} {pairs : ColumnPairs} :
    undeclared? g.left g.right pairs = none ↔ ∀ p ∈ pairs, g.Declared p := by
  induction pairs with
  | nil => simp [undeclared?]
  | cons p pairs ih =>
    obtain ⟨l, r⟩ := p
    rw [undeclared?, List.forall_mem_cons]
    cases hl : g.left.hasColumn l <;> cases hr : g.right.hasColumn r <;>
      simp [Declared, hl, hr, ih]

/-- The reason is that of the first pair that is not declared. -/
theorem split_of_undeclared? {g : Registration} {pairs : ColumnPairs} {reason : String}
    (h : undeclared? g.left g.right pairs = some reason) :
    ∃ before l r after, pairs = before ++ (l, r) :: after ∧ (∀ p ∈ before, g.Declared p) ∧
      (g.left.hasColumn l = false ∧ reason = g.left.name ++ " has no column " ++ l ∨
        g.left.hasColumn l = true ∧ g.right.hasColumn r = false ∧
          reason = g.right.name ++ " has no column " ++ r) := by
  induction pairs with
  | nil => simp [undeclared?] at h
  | cons p pairs ih =>
    obtain ⟨l, r⟩ := p
    rw [undeclared?] at h
    cases hl : g.left.hasColumn l with
    | false =>
      simp only [hl, Bool.not_false, if_true, Option.some.injEq] at h
      exact ⟨[], l, r, pairs, rfl, by simp, .inl ⟨hl, h.symm⟩⟩
    | true =>
      cases hr : g.right.hasColumn r with
      | false =>
        simp only [hl, hr, Bool.not_true, Bool.not_false, if_true, Bool.false_eq_true, if_false,
          Option.some.injEq] at h
        exact ⟨[], l, r, pairs, rfl, by simp, .inr ⟨hl, hr, h.symm⟩⟩
      | true =>
        simp only [hl, hr, Bool.not_true, Bool.false_eq_true, if_false] at h
        obtain ⟨before, l', r', after, rfl, hb, hreason⟩ := ih h
        refine ⟨(l, r) :: before, l', r', after, rfl, ?_, hreason⟩
        exact List.forall_mem_cons.mpr ⟨⟨hl, hr⟩, hb⟩

theorem register_of_ne_nil {left right : Table} {pairs : ColumnPairs} (hne : pairs ≠ [])
    (j : Joins) :
    j.register left right pairs = match undeclared? left right pairs with
      | some reason => .error (.invalidJoin left.name right.name reason)
      | none => .ok (j.record ⟨left, right, pairs⟩) := by
  cases pairs with
  | nil => exact absurd rfl hne
  | cons p pairs => rfl

theorem register_of_accepted {g : Registration} (hg : g.Accepted) (j : Joins) :
    j.register g.left g.right g.pairs = .ok (j.record g) := by
  rw [register_of_ne_nil hg.1, undeclared?_eq_none.mpr hg.2]

theorem register_of_not_accepted {g : Registration} (hg : ¬ g.Accepted) (j : Joins) :
    ∃ reason, g.Fault reason ∧
      j.register g.left g.right g.pairs =
        .error (.invalidJoin g.left.name g.right.name reason) := by
  by_cases hp : g.pairs = []
  · exact ⟨_, .empty hp, by rw [hp]; rfl⟩
  · rw [register_of_ne_nil hp]
    rcases hu : undeclared? g.left g.right g.pairs with _ | reason
    · exact absurd ⟨hp, undeclared?_eq_none.mp hu⟩ hg
    · obtain ⟨before, l, r, after, hp, hb, ⟨hl, rfl⟩ | ⟨hl, hr, rfl⟩⟩ := split_of_undeclared? hu
      · exact ⟨_, .left hp hb hl, rfl⟩
      · exact ⟨_, .right hp hb hl hr, rfl⟩

/-- The way back is written last, so it is found first. -/
theorem possible?_record (j : Joins) (g : Registration) (a b : Table) :
    (j.record g).possible? a b =
      if g.Joining b a then some g.back
      else if g.Joining a b then some g.pairs else j.possible? a b := by
  have hback : (g.right.name = a.name ∧ g.left.name = b.name) ↔ g.Joining b a := and_comm
  simp only [possible?, record, Std.HashMap.getElem?_insert, beq_iff_eq, Prod.mk.injEq, hback]
  rfl

theorem registered_of_accepted {g : Registration} (hg : g.Accepted)
    (earlier : List Registration) :
    registered (g :: earlier) = (registered earlier).record g := by
  rw [registered, register_of_accepted hg]

theorem registered_of_not_accepted {g : Registration} (hg : ¬ g.Accepted)
    (earlier : List Registration) : registered (g :: earlier) = registered earlier := by
  obtain ⟨reason, -, h⟩ := register_of_not_accepted hg (registered earlier)
  rw [registered, h]

/-- What the last accepted registration of two tables says of them. -/
def recalled (a b : Table) : List Registration → Option ColumnPairs
  | [] => none
  | g :: earlier =>
    if ¬ g.Accepted then recalled a b earlier
    else if g.Joining b a then some g.back
    else if g.Joining a b then some g.pairs
    else recalled a b earlier

theorem possible?_registered (calls : List Registration) (a b : Table) :
    (registered calls).possible? a b = recalled a b calls := by
  induction calls with
  | nil => simp [registered, empty, possible?, recalled]
  | cons g earlier ih =>
    by_cases hg : g.Accepted
    · rw [registered_of_accepted hg, possible?_record, ih, recalled, if_neg (not_not_intro hg)]
    · rw [registered_of_not_accepted hg, ih, recalled, if_pos hg]

/-- `a.l = b.r` for every pair `(l, r)`, in order. -/
def joined (a b : Table) (pairs : ColumnPairs) : Condition :=
  .and (pairs.map fun p => .columnsEqual (a.column p.1) (b.column p.2))

theorem on?_of_possible? {j : Joins} {a b : Table} {pairs : ColumnPairs}
    (h : j.possible? a b = some pairs) : j.on? a b = some (joined a b pairs) := by
  rw [on?, h]
  rfl

/-- What a registry tells after an accepted registration, given the registry before. The pairs are
found as they were registered, unless the two tables are one and some pair is of two columns. -/
structure Recalls (g : Registration) (before after : Joins) : Prop where
  there {a b : Table} (h : g.Joining a b)
    (hone : g.left.name ≠ g.right.name ∨ ∀ p ∈ g.pairs, p.1 = p.2) :
    after.possible? a b = some g.pairs ∧ after.on? a b = some (joined a b g.pairs)
  back {a b : Table} (h : g.Joining a b) :
    after.possible? b a = some g.back ∧ after.on? b a = some (joined b a g.back)
  self {a b : Table} (h : g.Joining a b) (hsame : g.left.name = g.right.name) :
    after.possible? a b = some g.back ∧ after.on? a b = some (joined a b g.back)
  others {a b : Table} (h : ¬ g.Joining a b) (hback : ¬ g.Joining b a) :
    after.possible? a b = before.possible? a b ∧ after.on? a b = before.on? a b

theorem recalls_registered {g : Registration} (hg : g.Accepted) (earlier : List Registration) :
    Recalls g (registered earlier) (registered (g :: earlier)) := by
  have hlookup (a b : Table) : (registered (g :: earlier)).possible? a b =
      if g.Joining b a then some g.back
      else if g.Joining a b then some g.pairs else (registered earlier).possible? a b := by
    rw [possible?_registered, recalled, if_neg (not_not_intro hg), possible?_registered]
  have hback {a b : Table} (h : g.Joining b a) :
      (registered (g :: earlier)).possible? a b = some g.back := by
    rw [hlookup, if_pos h]
  have hself {a b : Table} (h : g.Joining a b) (hsame : g.left.name = g.right.name) :
      g.Joining b a := ⟨hsame.trans h.2, hsame.symm.trans h.1⟩
  refine ⟨fun {a b} h hone => ?_, fun h => ?_, fun h hsame => ?_, fun {a b} h hb => ?_⟩
  · have hthere : (registered (g :: earlier)).possible? a b = some g.pairs := by
      by_cases hb : g.Joining b a
      · have hsame : g.left.name = g.right.name := h.1.trans hb.2.symm
        have hpairs : g.back = g.pairs := back_eq_pairs.mpr (hone.resolve_left fun h => h hsame)
        rw [hback hb, hpairs]
      · rw [hlookup, if_neg hb, if_pos h]
    exact ⟨hthere, on?_of_possible? hthere⟩
  · exact ⟨hback h, on?_of_possible? (hback h)⟩
  · exact ⟨hback (hself h hsame), on?_of_possible? (hback (hself h hsame))⟩
  · have hsame : (registered (g :: earlier)).possible? a b =
        (registered earlier).possible? a b := by
      rw [hlookup, if_neg hb, if_neg h]
    exact ⟨hsame, by rw [on?, on?, hsame]⟩

/-- After any calls, a registration is accepted if it names columns and all of them are declared.
It is then recalled in both directions, and nothing is changed for other tables; a refused one says
what is wrong and changes nothing. -/
theorem registered_recalls (earlier : List Registration) (g : Registration) :
    (g.Accepted →
      (registered earlier).register g.left g.right g.pairs = .ok (registered (g :: earlier)) ∧
        Recalls g (registered earlier) (registered (g :: earlier))) ∧
    (¬ g.Accepted →
      (∃ reason, g.Fault reason ∧ (registered earlier).register g.left g.right g.pairs =
        .error (.invalidJoin g.left.name g.right.name reason)) ∧
        registered (g :: earlier) = registered earlier) := by
  refine ⟨fun hg => ⟨?_, recalls_registered hg earlier⟩, fun hg => ⟨?_, ?_⟩⟩
  · rw [registered_of_accepted hg, register_of_accepted hg]
  · exact register_of_not_accepted hg _
  · exact registered_of_not_accepted hg earlier

/-- The second registration is for other tables, and the third is refused. -/
theorem standard_recalled :
    ∃ j j' reason, empty.register .instances .orgs [("id", "instance_id")] = .ok j ∧
      j.register .orgs .users [("instance_id", "instance_id"), ("id", "org_id")] = .ok j' ∧
      j'.register .users .orgs [("org_id", "username")] =
        .error (.invalidJoin "users" "orgs" reason) ∧
      j'.possible? .users .orgs = some [("instance_id", "instance_id"), ("org_id", "id")] ∧
      j'.on? .orgs .instances = some (joined .orgs .instances [("instance_id", "id")]) := by
  let g₁ : Registration := ⟨.instances, .orgs, [("id", "instance_id")]⟩
  let g₂ : Registration := ⟨.orgs, .users, [("instance_id", "instance_id"), ("id", "org_id")]⟩
  let g₃ : Registration := ⟨.users, .orgs, [("org_id", "username")]⟩
  obtain ⟨hok₁, hrecalls₁⟩ := (registered_recalls [] g₁).1 (by decide)
  obtain ⟨hok₂, hrecalls₂⟩ := (registered_recalls [g₁] g₂).1 (by decide)
  obtain ⟨⟨reason, -, hrefused⟩, -⟩ := (registered_recalls [g₂, g₁] g₃).2 (by decide)
  refine ⟨_, _, reason, hok₁, hok₂, hrefused, (hrecalls₂.back ⟨rfl, rfl⟩).1, ?_⟩
  rw [(hrecalls₂.others (by decide) (by decide)).2]
  exact (hrecalls₁.back ⟨rfl, rfl⟩).2

/-- A table of nodes joined to itself: a child is asked for its parents, and gives its children. -/
theorem self_join_recalled_reversed :
    ∃ (child parent : Table) (j : Joins),
      empty.register child parent [("parent_id", "id")] = .ok j ∧
      j.possible? child parent ≠ some [("parent_id", "id")] ∧
      j.on? child parent =
        some (.and [.columnsEqual (child.column "id") (parent.column "parent_id")]) := by
  let nodes : Table := ⟨"core", "nodes", ["id", "parent_id"], none⟩
  let g : Registration := ⟨nodes.withAlias "c", nodes.withAlias "p", [("parent_id", "id")]⟩
  have hrecalls := recalls_registered (g := g) (by decide) []
  obtain ⟨hpossible, hon⟩ := hrecalls.self ⟨rfl, rfl⟩ rfl
  refine ⟨g.left, g.right, _, register_of_accepted (g := g) (by decide) _, ?_, hon⟩
  have hne : some g.back ≠ some g.pairs := by decide
  exact fun h => hne (hpossible.symm.trans h)

end Joins

end BoundSql
