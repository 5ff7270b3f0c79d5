import BoundSql.Condition
/-!
Conditions in the three-valued logic of SQL. What is empty does not count, since nothing is written
for it: an empty member is left out of its group, and an EXISTS around an empty condition has no
condition.
-/

namespace BoundSql

inductive Truth where
  | no
  | unknown
  | yes
  deriving DecidableEq

namespace Truth

def ofBool (b : Bool) : Truth := if b then yes else no

def and : Truth → Truth → Truth
  | no, _ | _, no => no
  | yes, yes => yes
  | _, _ => unknown

def or : Truth → Truth → Truth
  | yes, _ | _, yes => yes
  | no, no => no
  | _, _ => unknown

def all (ts : List Truth) : Truth := ts.foldr and yes

def any (ts : List Truth) : Truth := ts.foldr or no

@[simp] theorem ofBool_eq_yes {b : Bool} : ofBool b = yes ↔ b = true := by
  cases b <;> simp [ofBool]

@[simp] theorem all_singleton (t : Truth) : all [t] = t := by
  cases t <;> rfl

@[simp] theorem any_singleton (t : Truth) : any [t] = t := by
  cases t <;> rfl

theorem and_eq_yes {s t : Truth} : s.and t = yes ↔ s = yes ∧ t = yes := by
  cases s <;> cases t <;> simp [and]

theorem or_eq_yes {s t : Truth} : s.or t = yes ↔ s = yes ∨ t = yes := by
  cases s <;> cases t <;> simp [or]

theorem all_eq_yes {ts : List Truth} : all ts = yes ↔ ∀ t ∈ ts, t = yes := by
  induction ts with
  | nil => simp [all]
  | cons t ts ih =>
    have hcons : all (t :: ts) = t.and (all ts) := rfl
    rw [hcons, and_eq_yes, ih, List.forall_mem_cons]

theorem any_eq_yes {ts : List Truth} : any ts = yes ↔ yes ∈ ts := by
  induction ts with
  | nil => simp [any]
  | cons t ts ih =>
    have hcons : any (t :: ts) = t.or (any ts) := rfl
    rw [hcons, or_eq_yes, ih, List.mem_cons, eq_comm]

end Truth

/-- A condition with no members and no condition inside it. -/
inductive Terminal where
  | isNull (c : Column)
  | isNotNull (c : Column)
  | comparison (c : Column) (op : Operation) (a : Arg)
  | columnsEqual (a b : Column)

def Terminal.condition : Terminal → Condition
  | isNull c => .isNull c
  | isNotNull c => .isNotNull c
  | comparison c op a => .comparison c op a
  | columnsEqual a b => .columnsEqual a b

/-- Truth values for the atoms of conditions, in rows of some kind. For an EXISTS it depends on the
truth values that the condition inside it has in all rows. -/
structure Assignment (ρ : Type) where
  terminal : Terminal → ρ → Truth
  existsIn : String → (ρ → Truth) → ρ → Truth

namespace Condition

variable {ρ : Type} (m : Assignment ρ)

mutual

/-- The truth value of the tree with its empty members dropped. -/
def truth : Condition → ρ → Truth
  | and children, r => .all (truths children r)
  | or children, r => .any (truths children r)
  | isNull c, r => m.terminal (.isNull c) r
  | isNotNull c, r => m.terminal (.isNotNull c) r
  | comparison c op a, r => m.terminal (.comparison c op a) r
  | columnsEqual a b, r => m.terminal (.columnsEqual a b) r
  | existsIn table inner, r =>
    m.existsIn table (fun r => if inner.isEmpty then .yes else truth inner r) r

def truths : List Condition → ρ → List Truth
  | [], _ => []
  | k :: ks, r => if k.isEmpty then truths ks r else truth k r :: truths ks r

end

variable {m}

theorem mem_truths {ks : List Condition} {r : ρ} {t : Truth} :
    t ∈ truths m ks r ↔ ∃ k ∈ ks, k.isEmpty = false ∧ k.truth m r = t := by
  induction ks with
  | nil => simp [truths]
  | cons k ks ih =>
    simp only [truths, List.mem_cons, exists_eq_or_imp, ← ih]
    cases hk : k.isEmpty with
    | true => simp
    | false => simp [eq_comm]

theorem truth_and_eq_yes {ks : List Condition} {r : ρ} :
    (and ks).truth m r = .yes ↔ ∀ k ∈ ks, k.isEmpty = false → k.truth m r = .yes := by
  rw [truth, Truth.all_eq_yes]
  constructor
  · intro h k hk he
    exact h _ (mem_truths.mpr ⟨k, hk, he, rfl⟩)
  · intro h t ht
    obtain ⟨k, hk, he, rfl⟩ := mem_truths.mp ht
    exact h k hk he

theorem truth_or_eq_yes {ks : List Condition} {r : ρ} :
    (or ks).truth m r = .yes ↔ ∃ k ∈ ks, k.isEmpty = false ∧ k.truth m r = .yes := by
  rw [truth, Truth.any_eq_yes, mem_truths]

end Condition

end BoundSql
