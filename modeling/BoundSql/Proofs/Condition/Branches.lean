import Mathlib.Data.List.Sections
import BoundSql.Proofs.Condition.Pins

namespace BoundSql

/-- A choice of one element of each list, all of them with some property, is there as soon as each
list has such an element. -/
theorem exists_section_iff {α : Type} (q : α → Prop) (xss : List (List α)) :
    (∃ xs ∈ xss.sections, ∀ x ∈ xs, q x) ↔ ∀ xs ∈ xss, ∃ x ∈ xs, q x := by
  simp only [List.mem_sections]
  constructor
  · rintro ⟨chosen, hchosen, hq⟩
    induction hchosen with
    | nil => nofun
    | cons hx _ ih =>
      obtain ⟨hqx, hqs⟩ := List.forall_mem_cons.mp hq
      exact List.forall_mem_cons.mpr ⟨⟨_, hx, hqx⟩, ih hqs⟩
  · intro h
    induction xss with
    | nil => exact ⟨[], .nil, nofun⟩
    | cons xs xss ih =>
      obtain ⟨⟨x, hx, hqx⟩, hrest⟩ := List.forall_mem_cons.mp h
      obtain ⟨chosen, hchosen, hq⟩ := ih hrest
      exact ⟨x :: chosen, .cons hx hchosen, List.forall_mem_cons.mpr ⟨hqx, hq⟩⟩

namespace Condition

mutual

/-- The branches of a condition. What is no group stands for itself, an EXISTS among them; a group
without members has one branch with nothing on it. -/
def branches : Condition → List (List Condition)
  | and children => (memberBranches children).sections.map List.flatten
  | or children => if children.isEmpty then [[]] else (memberBranches children).flatten
  | k => [[k]]

def memberBranches : List Condition → List (List (List Condition))
  | [] => []
  | k :: ks => branches k :: memberBranches ks

end

/-- A condition that pins a column by itself: it tests for NULL, it compares by an equals sign, or
it equates the column with another, on either side. -/
inductive Pinning (c : Column) : Condition → Prop
  | isNull {d : Column} (h : d.same c = true) : Pinning c (isNull d)
  | comparison {d : Column} {op : Operation} {a : Arg} (h : d.same c = true)
      (hop : op.WritesEquals) : Pinning c (comparison d op a)
  | left {a b : Column} (h : a.same c = true) : Pinning c (columnsEqual a b)
  | right {a b : Column} (h : b.same c = true) : Pinning c (columnsEqual a b)

mutual

/-- The condition with others in the place of those inside an EXISTS. -/
def exchanged (f : Condition → Condition) : Condition → Condition
  | and children => and (exchangedAll f children)
  | or children => or (exchangedAll f children)
  | existsIn table inner => existsIn table (f inner)
  | k => k

def exchangedAll (f : Condition → Condition) : List Condition → List Condition
  | [] => []
  | k :: ks => exchanged f k :: exchangedAll f ks

end

variable {c : Column} {ks : List Condition}

theorem memberBranches_eq_map (ks : List Condition) : memberBranches ks = ks.map branches := by
  induction ks with
  | nil => rfl
  | cons k ks ih => rw [memberBranches, ih, List.map_cons]

theorem mem_branches_and {br : List Condition} :
    br ∈ (and ks).branches ↔ ∃ brs ∈ (ks.map branches).sections, brs.flatten = br := by
  rw [branches, memberBranches_eq_map, List.mem_map]

theorem mem_branches_or {br : List Condition} :
    br ∈ (or ks).branches ↔ (ks = [] ∧ br = []) ∨ ∃ k ∈ ks, br ∈ k.branches := by
  rw [branches, memberBranches_eq_map]
  cases ks with
  | nil => simp
  | cons k ks => simp

theorem pinning_isNull_iff {d : Column} : (isNull d).Pinning c ↔ d.same c = true :=
  ⟨fun h => by cases h; assumption, .isNull⟩

theorem pinning_comparison_iff {d : Column} {op : Operation} {a : Arg} :
    (comparison d op a).Pinning c ↔ d.same c = true ∧ op.WritesEquals :=
  ⟨fun h => by cases h; constructor <;> assumption, fun h => .comparison h.1 h.2⟩

theorem pinning_columnsEqual_iff {a b : Column} :
    (columnsEqual a b).Pinning c ↔ a.same c = true ∨ b.same c = true := by
  constructor
  · rintro (_ | _ | h | h)
    · exact .inl h
    · exact .inr h
  · rintro (h | h)
    · exact .left h
    · exact .right h

theorem not_pinning_isNotNull {d : Column} : ¬(isNotNull d).Pinning c := by
  intro h
  cases h

theorem not_pinning_existsIn {table : String} {inner : Condition} :
    ¬(existsIn table inner).Pinning c := by
  intro h
  cases h

/-- Every branch has a condition that pins the column. -/
def Barred (c : Column) (k : Condition) : Prop := ∀ br ∈ k.branches, ∃ t ∈ br, t.Pinning c

/-- What is no group has a single branch, with nothing else on it. -/
theorem barred_iff_of_branches {k : Condition} (h : k.branches = [[k]]) :
    k.Barred c ↔ k.Pinning c := by
  simp [Barred, h]

/-- If each member of a conjunction has a branch that pins nothing, these together are a branch of
the conjunction that pins nothing. -/
theorem barred_and_iff : (and ks).Barred c ↔ ∃ k ∈ ks, k.Barred c := by
  have hfree := exists_section_iff (fun br => ∀ t ∈ br, ¬t.Pinning c) (ks.map branches)
  rw [← not_iff_not]
  calc ¬(and ks).Barred c
      ↔ ∃ brs ∈ (ks.map branches).sections, ∀ br ∈ brs, ∀ t ∈ br, ¬t.Pinning c := by
        simp only [Barred, mem_branches_and, not_forall, not_exists, not_and, exists_prop]
        constructor
        · rintro ⟨_, ⟨brs, hbrs, rfl⟩, hbr⟩
          exact ⟨brs, hbrs, fun br hmem t ht => hbr t (List.mem_flatten.mpr ⟨br, hmem, ht⟩)⟩
        · rintro ⟨brs, hbrs, hbr⟩
          refine ⟨_, ⟨brs, hbrs, rfl⟩, fun t ht => ?_⟩
          obtain ⟨br, hmem, htbr⟩ := List.mem_flatten.mp ht
          exact hbr br hmem t htbr
    _ ↔ ∀ brs ∈ ks.map branches, ∃ br ∈ brs, ∀ t ∈ br, ¬t.Pinning c := hfree
    _ ↔ ¬∃ k ∈ ks, k.Barred c := by simp [Barred]

theorem barred_or_iff : (or ks).Barred c ↔ ks ≠ [] ∧ ∀ k ∈ ks, k.Barred c := by
  simp only [Barred, mem_branches_or]
  constructor
  · intro h
    refine ⟨?_, fun k hk br hbr => h br (.inr ⟨k, hk, hbr⟩)⟩
    rintro rfl
    obtain ⟨t, ht, -⟩ := h [] (.inl ⟨rfl, rfl⟩)
    cases ht
  · rintro ⟨hne, h⟩ br (⟨hnil, -⟩ | ⟨k, hk, hbr⟩)
    · exact absurd hnil hne
    · exact h k hk br hbr

theorem restricts_iff_barred {k : Condition} : k.restricts c = true ↔ k.Barred c := by
  induction k using induction_on_members with
  | and ks ih =>
    rw [barred_and_iff, restricts, anyRestricts_iff]
    exact exists_congr fun k => and_congr_right (ih k)
  | or ks ih =>
    rw [barred_or_iff, restricts_or_iff]
    exact and_congr_right fun _ => forall₂_congr ih
  | isNull d => rw [barred_iff_of_branches rfl, pinning_isNull_iff, restricts]
  | isNotNull d =>
    rw [barred_iff_of_branches rfl]
    exact iff_of_false Bool.false_ne_true not_pinning_isNotNull
  | comparison d op a =>
    rw [barred_iff_of_branches rfl, pinning_comparison_iff, Operation.writesEquals_iff, restricts,
      Bool.and_eq_true]
  | columnsEqual a b =>
    rw [barred_iff_of_branches rfl, pinning_columnsEqual_iff, restricts, Bool.or_eq_true]
  | existsIn table inner ih =>
    rw [barred_iff_of_branches rfl]
    exact iff_of_false Bool.false_ne_true not_pinning_existsIn

theorem exchangedAll_eq_map (f : Condition → Condition) (ks : List Condition) :
    exchangedAll f ks = ks.map (exchanged f) := by
  induction ks with
  | nil => rfl
  | cons k ks ih => rw [exchangedAll, ih, List.map_cons]

theorem restricts_exchanged (f : Condition → Condition) (k : Condition) :
    (k.exchanged f).restricts c = k.restricts c := by
  rw [Bool.eq_iff_iff]
  induction k using induction_on_members with
  | and ks ih =>
    simp only [exchanged, exchangedAll_eq_map, restricts, anyRestricts_iff, List.mem_map,
      exists_exists_and_eq_and]
    exact exists_congr fun k => and_congr_right (ih k)
  | or ks ih =>
    simp only [exchanged, exchangedAll_eq_map, restricts_or_iff, List.forall_mem_map, ne_eq,
      List.map_eq_nil_iff]
    exact and_congr_right fun _ => forall₂_congr ih
  | existsIn table inner ih => exact Iff.rfl
  | _ => exact Iff.rfl

/-- A condition restricts a column if and only if every branch of it has a condition that pins the
column by itself. What stands inside an EXISTS has no part in that. -/
theorem restricts_iff_every_branch (c : Column) (k : Condition) :
    (k.restricts c = true ↔ ∀ br ∈ k.branches, ∃ t ∈ br, t.Pinning c) ∧
      ∀ f : Condition → Condition, (k.exchanged f).restricts c = k.restricts c :=
  ⟨restricts_iff_barred, fun f => restricts_exchanged f k⟩

/-- One of two members is chosen beside an EXISTS, and an empty group adds nothing. -/
example (c d : Column) (inner : Condition) :
    (and [or [isNull c, columnsEqual c d], existsIn "u" inner, or []]).branches =
      [[isNull c, existsIn "u" inner], [columnsEqual c d, existsIn "u" inner]] := rfl

end Condition

end BoundSql
