import BoundSql.Proofs.Condition.Pins
import BoundSql.Proofs.Statement.Refinement
import BoundSql.Proofs.Statement.Shown

namespace BoundSql

theorem Operation.accepts_none (op : Operation) : op.accepts none = false := by
  cases op <;> rfl

namespace Arg

/-- The literals and instructions of an argument, from left to right. -/
def atoms : Arg → List Arg
  | value v => [value v]
  | instruction i => [instruction i]
  | function _ inner => inner.atoms
  | coalesce arg fallback => arg.atoms ++ fallback.atoms

/-- The first atom that has a family has one that the operation accepts. -/
structure DecidedBy (op : Operation) (a : Arg) (before : List Arg) (x : Arg) (after : List Arg) :
    Prop where
  atoms_eq : a.atoms = before ++ x :: after
  silent : ∀ y ∈ before, y.family = none
  accepted : op.accepts x.family = true

variable {op : Operation} {before after : List Arg} {x a : Arg} {v : Value}

theorem family_eq_findSome? (a : Arg) : a.family = a.atoms.findSome? family := by
  induction a with
  | value v => cases v <;> rfl
  | instruction i => cases i <;> rfl
  | function f inner ih => exact ih
  | coalesce arg fallback iha ihf =>
    rw [atoms, List.findSome?_append, ← iha, ← ihf, family]
    cases arg.family <;> rfl

theorem mem_literals : v ∈ a.fragment.literals ↔ value v ∈ a.atoms := by
  induction a with
  | value w => simp [fragment, atoms]
  | instruction i => simp [fragment, atoms]
  | function f inner ih => simp [fragment, atoms, ih]
  | coalesce arg fallback iha ihf => simp [fragment, atoms, iha, ihf]

theorem accepts_iff_decided :
    op.accepts a.family = true ↔ ∃ before x after, a.DecidedBy op before x after := by
  rw [family_eq_findSome?]
  constructor
  · intro h
    cases hfound : a.atoms.findSome? family with
    | none => simp [hfound, op.accepts_none] at h
    | some f =>
      obtain ⟨before, x, after, hatoms, hx, hsilent⟩ := List.findSome?_eq_some_iff.mp hfound
      rw [hfound, ← hx] at h
      exact ⟨before, x, after, hatoms, hsilent, h⟩
  · rintro ⟨before, x, after, hatoms, hsilent, hx⟩
    have hbefore : before.findSome? family = none := List.findSome?_eq_none_iff.mpr hsilent
    cases hfamily : x.family with
    | none => simp [hfamily, op.accepts_none] at hx
    | some f =>
      rw [hatoms, List.findSome?_append, hbefore, List.findSome?_cons, hfamily]
      rwa [hfamily] at hx

/-- A literal in front has no family, so it is none that the operation accepts. -/
theorem DecidedBy.accepts_literals_iff (h : a.DecidedBy op before x after) :
    (∀ v ∈ a.fragment.literals, op.accepts v.family = true) ↔
      (∀ v, value v ∉ before) ∧ ∀ v, value v ∈ after → op.accepts v.family = true := by
  have hmem (v : Value) : v ∈ a.fragment.literals ↔
      value v ∈ before ∨ value v = x ∨ value v ∈ after := by
    rw [mem_literals, h.atoms_eq, List.mem_append, List.mem_cons]
  constructor
  · intro hall
    refine ⟨fun v hv => ?_, fun v hv => hall v ((hmem v).mpr (.inr (.inr hv)))⟩
    have hfamily : v.family = none := h.silent _ hv
    have haccepted := hall v ((hmem v).mpr (.inl hv))
    rw [hfamily, op.accepts_none] at haccepted
    cases haccepted
  · rintro ⟨hbefore, hafter⟩ v hv
    rcases (hmem v).mp hv with hv | hv | hv
    · exact absurd hv (hbefore v)
    · have haccepted := h.accepted
      rwa [← hv] at haccepted
    · exact hafter v hv

end Arg

theorem Fragment.mem_literals_group {v : Value} {separator : String} {fs : List Fragment} :
    v ∈ (group separator fs).literals ↔ ∃ f ∈ fs, v ∈ f.literals := by
  match fs with
  | [] => simp [group]
  | [f] => simp [group]
  | f :: g :: fs => simp [group, literals_join]

/-- A text operation that ignores case binds the same literals as one that does not. -/
theorem TextOperation.literals_fragment (op : TextOperation) (c : Column) (a : Arg) :
    (op.fragment c a).literals = c.qualified.literals ++ a.fragment.literals := by
  unfold fragment
  split <;> simp [Column.qualified, Arg.fragment]

theorem Operation.literals_fragment (op : Operation) (c : Column) (a : Arg) :
    (op.fragment c a).literals = c.qualified.literals ++ a.fragment.literals := by
  cases op with
  | text op => exact op.literals_fragment c a
  | number op | boolean op | bytes op => simp [fragment, comparison]

namespace Condition

/-- Conditions as they can be put together. Comparisons are checked; a comparison with a boolean
takes its operation from the value. -/
inductive Made : Condition → Prop
  | and {ks : List Condition} (h : ∀ k ∈ ks, Made k) : Made (and ks)
  | or {ks : List Condition} (h : ∀ k ∈ ks, Made k) : Made (or ks)
  | isNull (c : Column) : Made (isNull c)
  | isNotNull (c : Column) : Made (isNotNull c)
  | compare {c : Column} {op : Operation} {a : Arg} {k : Condition}
      (h : compare c op a = .ok k) : Made k
  | boolean (c : Column) (b : Bool) : Made (boolean c b)
  | columnsEqual (a b : Column) : Made (columnsEqual a b)
  | existsIn (table : String) {k : Condition} (h : Made k) : Made (existsIn table k)

/-- A part of a condition at any depth, inside EXISTS too. -/
inductive Within (t : Condition) : Condition → Prop
  | self : Within t t
  | and {k : Condition} {ks : List Condition} (hk : k ∈ ks) (h : Within t k) : Within t (and ks)
  | or {k : Condition} {ks : List Condition} (hk : k ∈ ks) (h : Within t k) : Within t (or ks)
  | existsIn (table : String) {k : Condition} (h : Within t k) : Within t (existsIn table k)

variable {c : Column} {op : Operation} {a : Arg} {k t : Condition}

theorem compare_eq_ok_iff :
    compare c op a = .ok k ↔ k = comparison c op a ∧ op.accepts a.family = true := by
  unfold compare
  split
  next h => simp [h, eq_comm]
  next h => simp [h]

theorem Made.accepts (hk : k.Made) (h : (comparison c op a).Within k) :
    op.accepts a.family = true := by
  induction hk with
  | and _ ih =>
    cases h with
    | and hk h => exact ih _ hk h
  | or _ ih =>
    cases h with
    | or hk h => exact ih _ hk h
  | isNull | isNotNull | columnsEqual => cases h
  | compare hcompare =>
    obtain ⟨rfl, haccepts⟩ := compare_eq_ok_iff.mp hcompare
    cases h
    exact haccepts
  | boolean c b =>
    cases h
    rfl
  | existsIn table _ ih =>
    cases h with
    | existsIn _ h => exact ih h

/-- A condition is as it can be put together as soon as all its comparisons are. -/
theorem made_of_accepts (h : ∀ c op a, (comparison c op a).Within k →
    op.accepts a.family = true) : k.Made := by
  induction k using induction_on_members with
  | and ks ih => exact .and fun k hk => ih k hk fun c op a hc => h c op a (.and hk hc)
  | or ks ih => exact .or fun k hk => ih k hk fun c op a hc => h c op a (.or hk hc)
  | isNull c => exact .isNull c
  | isNotNull c => exact .isNotNull c
  | comparison c op a => exact .compare (compare_eq_ok_iff.mpr ⟨rfl, h c op a .self⟩)
  | columnsEqual a b => exact .columnsEqual a b
  | existsIn table inner ih =>
    exact .existsIn table (ih fun c op a hc => h c op a (.existsIn table hc))

theorem Within.isEmpty_eq_false (h : t.Within k) (ht : t.isEmpty = false) : k.isEmpty = false := by
  induction h with
  | self => exact ht
  | and hk _ ih | or hk _ ih => exact allEmpty_of_mem hk ih
  | existsIn => rfl

theorem mem_fragments_of_mem {ks : List Condition} (hk : k ∈ ks) (h : k.isEmpty = false) :
    k.fragment ∈ fragments ks := by
  induction ks with
  | nil => cases hk
  | cons l ks ih =>
    rw [fragments]
    rcases List.mem_cons.mp hk with rfl | hk
    · simp [h]
    · split
      next => exact ih hk
      next => exact List.mem_cons_of_mem _ (ih hk)

/-- What a part binds is bound by the whole: only empty members are left out. -/
theorem Within.mem_literals {v : Value} (h : t.Within k) (ht : t.isEmpty = false)
    (hv : v ∈ t.fragment.literals) : v ∈ k.fragment.literals := by
  induction h with
  | self => exact hv
  | and hk h ih | or hk h ih =>
    have hmem := mem_fragments_of_mem hk (h.isEmpty_eq_false ht)
    exact Fragment.mem_literals_group.mpr ⟨_, hmem, ih⟩
  | existsIn table h ih =>
    simpa [fragment, h.isEmpty_eq_false ht] using ih

theorem Within.bound {b : Builder} {v : Value} (h : (comparison c op a).Within k)
    (hb : b.Consistent) (hv : v ∈ a.fragment.literals) :
    v.key ∈ (b.writeCondition k).keys := by
  have hcomparison : v ∈ (comparison c op a).fragment.literals := by
    rw [fragment, op.literals_fragment]
    exact List.mem_append_right _ hv
  rw [Builder.writeCondition_eq_write]
  exact hb.mem_keys_write (h.mem_literals rfl hcomparison)

/-- A condition can be put together exactly if in each of its comparisons the first literal or
instruction that has a family has one that the operation accepts; nothing else is asked of it. All
literals of such a comparison are of families that the operation accepts if and only if there is no
literal in front of the one that decides, and those behind it are of such families; all of them are
bound. -/
theorem first_family_decides (k : Condition) :
    (k.Made ↔ ∀ c op a, (comparison c op a).Within k →
      ∃ before x after, a.DecidedBy op before x after) ∧
    (∀ c op a, (comparison c op a).Within k →
      (∀ before x after, a.DecidedBy op before x after →
        ((∀ v ∈ a.fragment.literals, op.accepts v.family = true) ↔
          (∀ v, .value v ∉ before) ∧ ∀ v, .value v ∈ after → op.accepts v.family = true)) ∧
      ∀ b : Builder, b.Reachable → ∀ v ∈ a.fragment.literals,
        v.key ∈ (b.writeCondition k).keys) ∧
    ∀ c op a j, compare c op a = .ok j ↔
      j = comparison c op a ∧ ∃ before x after, a.DecidedBy op before x after := by
  refine ⟨⟨fun hk c op a h => ?_, fun h => made_of_accepts fun c op a hc => ?_⟩, ?_, ?_⟩
  · exact Arg.accepts_iff_decided.mp (hk.accepts h)
  · exact Arg.accepts_iff_decided.mpr (h c op a hc)
  · intro c op a h
    exact ⟨fun before x after hdecided => hdecided.accepts_literals_iff,
      fun b hb v hv => h.bound hb.consistent hv⟩
  · intro c op a j
    rw [compare_eq_ok_iff, Arg.accepts_iff_decided]

/-- A fallback of NULL in front, and one of bytes behind. -/
def layered : Arg :=
  .coalesce (.instruction .null)
    (.coalesce (.function .lower (.value (.text "x"))) (.value (.bytes [0])))

theorem layered_compared_inside_exists :
    let t := comparison (.named "u" "n") (.text .equalIgnoreCase) layered
    let k := existsIn "u" (and [or [], t])
    t.Within k ∧ k.Made ∧
      (∀ v ∈ layered.fragment.literals,
        (Operation.text .equalIgnoreCase).accepts v.family = true) ∧
      ∀ v ∈ layered.fragment.literals,
        v.key ∈ ((Builder.start "DELETE FROM t WHERE ").writeCondition k).keys := by
  intro t k
  have hwithin : t.Within k := .existsIn "u" (.and (.tail _ (.head _)) .self)
  have hdecided : layered.DecidedBy (.text .equalIgnoreCase) [.instruction .null]
      (.value (.text "x")) [.value (.bytes [0])] :=
    ⟨rfl, fun y hy => by rw [List.mem_singleton.mp hy]; rfl, rfl⟩
  obtain ⟨-, hcomparisons, hcompare⟩ := first_family_decides k
  obtain ⟨haccepted, hbound⟩ := hcomparisons _ _ _ hwithin
  have ht : t.Made := .compare ((hcompare _ _ _ _).mpr ⟨rfl, _, _, _, hdecided⟩)
  refine ⟨hwithin, ?_, (haccepted _ _ _ hdecided).mpr ⟨?_, ?_⟩, hbound _ (.start _)⟩
  · refine .existsIn "u" (.and ?_)
    exact List.forall_mem_cons.mpr ⟨.or nofun, List.forall_mem_singleton.mpr ht⟩
  · intro v hv
    cases List.mem_singleton.mp hv
  · intro v hv
    obtain rfl := Arg.value.inj (List.mem_singleton.mp hv)
    rfl

/-- A text with a UUID in front and a number behind. -/
def strays : Arg :=
  .coalesce (.value (.uuid ⟨List.replicate 16 0, rfl⟩))
    (.coalesce (.value (.text "x")) (.value (.number (.int 5))))

/-- Neither the UUID nor the number is of a family that a text operation accepts; the comparison is
made all the same, and binds them. -/
theorem strays_compared_as_text :
    ∃ k, compare (.named "t" "n") (.text .equal) strays = .ok k ∧ k.Made ∧
      ((Builder.start "").writeCondition k).args =
        [.uuid ⟨List.replicate 16 0, rfl⟩, .text "x", .number (.int 5)] ∧
      ((Builder.start "").writeCondition k).sql = "t.n = COALESCE($1, COALESCE($2, $3))" ∧
      ¬ ∀ v ∈ strays.fragment.literals, (Operation.text .equal).accepts v.family = true := by
  have hcompare : compare (.named "t" "n") (.text .equal) strays =
      .ok (comparison (.named "t" "n") (.text .equal) strays) := rfl
  refine ⟨_, hcompare, .compare hcompare, ?_, ?_, fun hall => ?_⟩
  · rw [Builder.writeCondition_eq_write, Builder.args_write_start]
    rfl
  · rw [Builder.writeCondition_eq_write, Builder.sql_write_start]
    decide +kernel
  have huuid := hall (.uuid ⟨List.replicate 16 0, rfl⟩) (.head _)
  cases huuid

end Condition

end BoundSql
