import BoundSql.Proofs.Table.Registration

namespace BoundSql

namespace Registration

/-- Whether a registration is of two tables of these names, in one order or the other. -/
def Connects (g : Registration) (a b : Table) : Prop := g.Joining a b ∨ g.Joining b a

instance (g : Registration) (a b : Table) : Decidable (g.Connects a b) :=
  inferInstanceAs (Decidable (_ ∨ _))

/-- What a registration gives for two tables of its names. -/
def pairsFor (g : Registration) (a b : Table) : ColumnPairs :=
  if g.Joining b a then g.back else g.pairs

variable {g : Registration} {a b : Table}

theorem pairsFor_of_back (h : g.Joining b a) : g.pairsFor a b = g.back := if_pos h

theorem pairsFor_of_there (h : g.Joining a b) (hne : g.left.name ≠ g.right.name) :
    g.pairsFor a b = g.pairs :=
  if_neg fun hb => hne (h.1.trans hb.2.symm)

theorem pairsFor_ne_nil (hg : g.Accepted) : g.pairsFor a b ≠ [] := by
  unfold pairsFor back
  split
  · rw [Ne, List.map_eq_nil_iff]
    exact hg.1
  · exact hg.1

end Registration

namespace Condition

/-- Whether a condition is a conjunction of equalities, each of a column that the first table
declares with one that the second declares. -/
def Declared (a b : Table) : Condition → Prop
  | and ks => ∀ k ∈ ks, ∃ c d, k = columnsEqual c d ∧ a.owns c = true ∧ b.owns d = true
  | _ => False

end Condition

namespace Joins

open Registration

/-- The last accepted registration of two tables of these names. -/
def deciding? (a b : Table) (calls : List Registration) : Option Registration :=
  calls.find? fun g => g.Accepted ∧ g.Connects a b

theorem deciding?_cons (a b : Table) (g : Registration) (earlier : List Registration) :
    deciding? a b (g :: earlier) =
      if g.Accepted ∧ g.Connects a b then some g else deciding? a b earlier := by
  rw [deciding?, List.find?_cons]
  by_cases h : g.Accepted ∧ g.Connects a b
  · rw [if_pos h, decide_eq_true h]
  · rw [if_neg h, decide_eq_false h]
    rfl

theorem recalled_eq_deciding (a b : Table) (calls : List Registration) :
    recalled a b calls = (deciding? a b calls).map fun g => g.pairsFor a b := by
  induction calls with
  | nil => rfl
  | cons g earlier ih =>
    rw [recalled, deciding?_cons, ih]
    by_cases hg : g.Accepted
    · by_cases hb : g.Joining b a
      · simp [hg, hb, Connects, pairsFor]
      · by_cases ht : g.Joining a b <;> simp [hg, hb, ht, Connects, pairsFor]
    · simp [hg]

theorem possible?_eq_deciding (a b : Table) (calls : List Registration) :
    (registered calls).possible? a b = (deciding? a b calls).map fun g => g.pairsFor a b := by
  rw [possible?_registered, recalled_eq_deciding]

theorem on?_eq_deciding (a b : Table) (calls : List Registration) :
    (registered calls).on? a b =
      (deciding? a b calls).map fun g => joined a b (g.pairsFor a b) := by
  rw [on?, possible?_eq_deciding]
  cases deciding? a b calls <;> rfl

theorem accepted_of_deciding {a b : Table} {calls : List Registration} {g : Registration}
    (h : deciding? a b calls = some g) : g.Accepted ∧ g.Connects a b := by
  simpa using List.find?_some h

variable {a b : Table}

theorem isEmpty_joined {pairs : ColumnPairs} (h : pairs ≠ []) :
    (joined a b pairs).isEmpty = false := by
  obtain ⟨p, rest, rfl⟩ := List.exists_cons_of_ne_nil h
  simp [joined, Condition.isEmpty, Condition.allEmpty]

theorem owns_column (t : Table) (name : String) : t.owns (t.column name) = t.hasColumn name := by
  simp [Table.owns, Table.column, Column.table, Column.name]

theorem declared_joined {pairs : ColumnPairs} :
    (joined a b pairs).Declared a b ↔
      ∀ p ∈ pairs, a.hasColumn p.1 = true ∧ b.hasColumn p.2 = true := by
  simp only [joined, Condition.Declared, List.forall_mem_map]
  refine forall₂_congr fun p _ => ⟨?_, fun h => ?_⟩
  · rintro ⟨c, d, hk, hc, hd⟩
    cases hk
    rw [owns_column] at hc hd
    exact ⟨hc, hd⟩
  · refine ⟨_, _, rfl, ?_, ?_⟩
    · rw [owns_column, h.1]
    · rw [owns_column, h.2]

theorem hasColumn_of_subset {t u : Table} (h : t.columns ⊆ u.columns) {name : String}
    (hn : t.hasColumn name = true) : u.hasColumn name = true := by
  rw [Table.hasColumn, List.contains_iff_mem] at hn ⊢
  exact h hn

/-- A condition that was found for two tables, and the registration behind it. Whether the tables
declare its columns depends on them; they do if they have the columns of the tables that were
registered, and these have two names or are asked for the other way round. -/
structure Found (g : Registration) (a b : Table) (k : Condition) : Prop where
  eq_joined : k = joined a b (g.pairsFor a b)
  filled : k.isEmpty = false
  declared_iff : k.Declared a b ↔
    ∀ p ∈ g.pairsFor a b, a.hasColumn p.1 = true ∧ b.hasColumn p.2 = true
  there : g.Joining a b → g.left.name ≠ g.right.name → g.left.columns ⊆ a.columns →
    g.right.columns ⊆ b.columns → k.Declared a b
  back : g.Joining b a → g.left.columns ⊆ b.columns → g.right.columns ⊆ a.columns →
    k.Declared a b

theorem found_joined {g : Registration} (hg : g.Accepted) :
    Found g a b (joined a b (g.pairsFor a b)) := by
  refine ⟨rfl, isEmpty_joined (pairsFor_ne_nil hg), declared_joined, ?_, ?_⟩
  · intro h hne hleft hright
    rw [pairsFor_of_there h hne, declared_joined]
    intro p hp
    obtain ⟨hl, hr⟩ := hg.2 p hp
    exact ⟨hasColumn_of_subset hleft hl, hasColumn_of_subset hright hr⟩
  · intro h hleft hright
    rw [pairsFor_of_back h, declared_joined]
    intro q hq
    obtain ⟨p, hp, rfl⟩ := List.mem_map.mp hq
    obtain ⟨hl, hr⟩ := hg.2 p hp
    exact ⟨hasColumn_of_subset hright hr, hasColumn_of_subset hleft hl⟩

/-- A condition for two tables comes from the last accepted registration of their names. It is never
empty, and mentions declared columns if and only if the tables declare the pairs of that
registration. -/
theorem on?_declared_iff_deciding_pairs_declared {calls : List Registration} {k : Condition}
    (h : (registered calls).on? a b = some k) :
    ∃ g, deciding? a b calls = some g ∧ Found g a b k := by
  rw [on?_eq_deciding] at h
  obtain ⟨g, hg, rfl⟩ := Option.map_eq_some_iff.mp h
  exact ⟨g, hg, found_joined (accepted_of_deciding hg).1⟩

/-- The tables are asked for in the other order, under aliases, and after a call that failed. -/
theorem aliases_found_declared :
    ∃ (calls : List Registration) (u o : Table) (k : Condition), u = Table.users.withAlias "u" ∧
      o = Table.orgs.withAlias "o" ∧ (registered calls).on? u o = some k ∧ k.isEmpty = false ∧
        k.Declared u o := by
  let g : Registration := ⟨.orgs, .users, [("instance_id", "instance_id"), ("id", "org_id")]⟩
  let refused : Registration := ⟨.users, .orgs, [("org_id", "username")]⟩
  let u := Table.users.withAlias "u"
  let o := Table.orgs.withAlias "o"
  have hdeciding : deciding? u o [refused, g] = some g := rfl
  have hon : (registered [refused, g]).on? u o = some (joined u o g.back) := by
    rw [on?_eq_deciding, hdeciding]
    rfl
  obtain ⟨g', hg', hfound⟩ := on?_declared_iff_deciding_pairs_declared hon
  obtain rfl : g = g' := Option.some.inj (hdeciding.symm.trans hg')
  exact ⟨_, u, o, _, rfl, rfl, hon, hfound.filled,
    hfound.back ⟨rfl, rfl⟩ (List.Subset.refl _) (List.Subset.refl _)⟩

/-- Two tables of one name are joined, and the pair is found the other way round. Two tables that
were never registered are found by the names of others. -/
theorem found_undeclared :
    (∃ (child parent : Table) (j : Joins) (k : Condition),
      empty.register child parent [("parent_id", "id")] = .ok j ∧
        j.on? child parent = some k ∧ ¬ k.Declared child parent) ∧
    ∃ (orgs users archivedOrgs archivedUsers : Table) (j : Joins) (k : Condition),
      empty.register orgs users [("id", "org_id")] = .ok j ∧
        j.on? archivedOrgs archivedUsers = some k ∧ ¬ k.Declared archivedOrgs archivedUsers := by
  constructor
  · let child : Table := ⟨"core", "nodes", ["parent_id"], some "c"⟩
    let parent : Table := ⟨"core", "nodes", ["id"], some "p"⟩
    let g : Registration := ⟨child, parent, [("parent_id", "id")]⟩
    have hon := on?_eq_deciding child parent [g]
    rw [registered_of_accepted (g := g) (by decide)] at hon
    refine ⟨child, parent, _, joined child parent g.back,
      register_of_accepted (g := g) (by decide) _, ?_, ?_⟩
    · exact hon
    · rw [declared_joined]
      decide
  · let orgs : Table := ⟨"core", "orgs", ["id"], none⟩
    let users : Table := ⟨"core", "users", ["org_id"], none⟩
    let archivedOrgs : Table := ⟨"archive", "orgs", ["key"], none⟩
    let archivedUsers : Table := ⟨"archive", "users", ["org_key"], none⟩
    let g : Registration := ⟨orgs, users, [("id", "org_id")]⟩
    have hon := on?_eq_deciding archivedOrgs archivedUsers [g]
    rw [registered_of_accepted (g := g) (by decide)] at hon
    refine ⟨orgs, users, archivedOrgs, archivedUsers, _, joined archivedOrgs archivedUsers g.pairs,
      register_of_accepted (g := g) (by decide) _, ?_, ?_⟩
    · exact hon
    · rw [declared_joined]
      decide

end Joins

end BoundSql
