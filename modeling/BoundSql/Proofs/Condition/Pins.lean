import BoundSql.Proofs.Condition.Truth

namespace BoundSql

/-- Equality in SQL. NULL equals nothing, not even NULL. -/
def Truth.equal {ν : Type} [DecidableEq ν] : Option ν → Option ν → Truth
  | some v, some w => .ofBool (v = w)
  | _, _ => .unknown

theorem Truth.equal_eq_yes {ν : Type} [DecidableEq ν] {x y : Option ν} :
    equal x y = .yes ↔ x = y ∧ y ≠ none := by
  cases x <;> cases y <;> simp [equal]

/-- Whether all that stands between the column and the argument is an equals sign. -/
def Operation.WritesEquals (op : Operation) : Prop :=
  ∀ (b : Builder) (c : Column) (a : Arg),
    b.writeOperation op c a = (b.writeQualified c |>.writeText " = " |>.writeArg a)

theorem Builder.writeText_empty (b : Builder) : b.writeText "" = b := by
  simp [writeText]

theorem Operation.writesEquals_iff {op : Operation} : op.WritesEquals ↔ op.isEquality = true := by
  constructor
  · intro h
    have hsql := congrArg Builder.sql (h .empty (.named "" "") (.instruction .null))
    cases op with
    | text op => cases op <;> first | rfl | (revert hsql; decide)
    | number op => cases op <;> first | rfl | (revert hsql; decide)
    | boolean op => rfl
    | bytes op => cases op <;> first | rfl | (revert hsql; decide)
  · intro h b c a
    cases op with
    | text op =>
      cases op with
      | equal => exact Builder.writeText_empty _
      | _ => cases h
    | number op =>
      cases op with
      | equal => rfl
      | _ => cases h
    | boolean op => rfl
    | bytes op =>
      cases op with
      | equal => rfl
      | notEqual => cases h

/-- What literals, functions and operators mean, and what stands in rows. Only what is written with
an equals sign has a fixed meaning; literals that count as the same share their value. -/
structure Interpretation (ρ ν : Type) [DecidableEq ν] where
  literal : Value → Option ν
  instruction : Instruction → Option ν
  function : SqlFunction → Option ν → Option ν
  coalesce : Option ν → Option ν → Option ν
  cell : String → String → ρ → Option ν
  compare : Operation → Option ν → Option ν → Truth
  existsIn : String → (ρ → Truth) → ρ → Truth
  literal_same : ∀ {v w : Value}, v.same w = true → literal v = literal w
  compare_equal : ∀ {op : Operation}, op.WritesEquals → ∀ x y, compare op x y = .equal x y

section

variable {ρ ν : Type} [DecidableEq ν] (i : Interpretation ρ ν)

def Arg.eval : Arg → Option ν
  | value v => i.literal v
  | instruction instr => i.instruction instr
  | function f inner => i.function f inner.eval
  | coalesce arg fallback => i.coalesce arg.eval fallback.eval

def Column.eval (r : ρ) : Column → Option ν
  | named table name => i.cell table name r
  | function f inner => i.function f (inner.eval r)
  | coalesce inner fallback => i.coalesce (inner.eval r) (fallback.eval i)

def Interpretation.assignment : Assignment ρ where
  terminal
    | .isNull c, r => .ofBool (c.eval i r).isNone
    | .isNotNull c, r => .ofBool (c.eval i r).isSome
    | .comparison c op a, r => i.compare op (c.eval i r) (a.eval i)
    | .columnsEqual a b, r => .equal (a.eval i r) (b.eval i r)
  existsIn := i.existsIn

/-- Something that a condition can give as the value of a column. -/
inductive Pin where
  | null
  | argument (a : Arg)
  | column (d : Column)

def Pin.eval (r : ρ) : Pin → Option ν
  | null => none
  | argument a => a.eval i
  | column d => d.eval i r

variable {i}

theorem Arg.eval_of_same {a b : Arg} (h : a.same b = true) : a.eval i = b.eval i := by
  induction a generalizing b with
  | value v =>
    cases b with
    | value w => exact i.literal_same h
    | _ => cases h
  | instruction instr =>
    cases b with
    | instruction instr' =>
      obtain rfl := beq_iff_eq.mp h
      rfl
    | _ => cases h
  | function f inner ih =>
    cases b with
    | function g inner' =>
      obtain ⟨hf, hinner⟩ := Bool.and_eq_true_iff.mp h
      rw [eval, eval, beq_iff_eq.mp hf, ih hinner]
    | _ => cases h
  | coalesce arg fallback iha ihf =>
    cases b with
    | coalesce arg' fallback' =>
      obtain ⟨harg, hfallback⟩ := Bool.and_eq_true_iff.mp h
      rw [eval, eval, iha harg, ihf hfallback]
    | _ => cases h

theorem Column.eval_of_same {c d : Column} (h : c.same d = true) (r : ρ) :
    c.eval i r = d.eval i r := by
  induction c generalizing d with
  | named table name =>
    cases d with
    | named table' name' =>
      obtain ⟨ht, hn⟩ := Bool.and_eq_true_iff.mp h
      rw [beq_iff_eq.mp ht, beq_iff_eq.mp hn]
    | _ => cases h
  | function f inner ih =>
    cases d with
    | function g inner' =>
      obtain ⟨hf, hinner⟩ := Bool.and_eq_true_iff.mp h
      rw [eval, eval, beq_iff_eq.mp hf, ih hinner]
    | _ => cases h
  | coalesce inner fallback ih =>
    cases d with
    | coalesce inner' fallback' =>
      obtain ⟨hinner, hfallback⟩ := Bool.and_eq_true_iff.mp h
      rw [eval, eval, ih hinner, Arg.eval_of_same hfallback]
    | _ => cases h

end

/-- Whether two columns have the same innermost name, whatever is wrapped around it. -/
def Column.isOver (d c : Column) : Bool := d.table == c.table && d.name == c.name

namespace Condition

/-- Whether an equality of columns equates one of them with an expression over itself. -/
def isSelfEquality (c a b : Column) : Bool :=
  (a.same c && b.isOver c) || (b.same c && a.isOver c)

mutual

/-- The values that the condition names for a column. A column over the same innermost name is
none. -/
def pins (c : Column) : Condition → List Pin
  | and children => pinsAll c children
  | or children => pinsAll c children
  | isNull d => if d.same c then [.null] else []
  | isNotNull _ => []
  | comparison d op a => if d.same c && op.isEquality then [.argument a] else []
  | columnsEqual a b =>
    (if a.same c && !b.isOver c then [.column b] else []) ++
      if b.same c && !a.isOver c then [.column a] else []
  | existsIn _ _ => []

def pinsAll (c : Column) : List Condition → List Pin
  | [] => []
  | k :: ks => pins c k ++ pinsAll c ks

end

mutual

/-- The condition with only IS NOT NULL in the place of each equality of a column with an expression
over itself. -/
def weakened (c : Column) : Condition → Condition
  | and children => and (weakenedAll c children)
  | or children => or (weakenedAll c children)
  | isNull d => isNull d
  | isNotNull d => isNotNull d
  | comparison d op a => comparison d op a
  | columnsEqual a b => if isSelfEquality c a b then isNotNull c else columnsEqual a b
  | existsIn table inner => existsIn table inner

def weakenedAll (c : Column) : List Condition → List Condition
  | [] => []
  | k :: ks => weakened c k :: weakenedAll c ks

end

/-- A property of conditions that a group has if all its members have it. -/
@[elab_as_elim]
theorem induction_on_members {motive : Condition → Prop}
    (and : ∀ ks, (∀ k ∈ ks, motive k) → motive (and ks))
    (or : ∀ ks, (∀ k ∈ ks, motive k) → motive (or ks))
    (isNull : ∀ c, motive (isNull c)) (isNotNull : ∀ c, motive (isNotNull c))
    (comparison : ∀ c op a, motive (comparison c op a))
    (columnsEqual : ∀ a b, motive (columnsEqual a b))
    (existsIn : ∀ table inner, motive inner → motive (existsIn table inner))
    (k : Condition) : motive k :=
  @Condition.rec motive (fun ks => ∀ k ∈ ks, motive k) and or isNull isNotNull comparison
    columnsEqual existsIn nofun (fun _ _ hk hks => List.forall_mem_cons.mpr ⟨hk, hks⟩) k

theorem mem_pinsAll {c : Column} {ks : List Condition} {p : Pin} :
    p ∈ pinsAll c ks ↔ ∃ k ∈ ks, p ∈ k.pins c := by
  induction ks with
  | nil => simp [pinsAll]
  | cons k ks ih => simp [pinsAll, ih]

theorem weakenedAll_eq_map (c : Column) (ks : List Condition) :
    weakenedAll c ks = ks.map (weakened c) := by
  induction ks with
  | nil => rfl
  | cons k ks ih => rw [weakenedAll, ih, List.map_cons]

theorem anyRestricts_iff {c : Column} {ks : List Condition} :
    anyRestricts c ks = true ↔ ∃ k ∈ ks, k.restricts c = true := by
  induction ks with
  | nil => simp [anyRestricts]
  | cons k ks ih => simp [anyRestricts, ih]

theorem allRestrict_iff {c : Column} {ks : List Condition} :
    allRestrict c ks = true ↔ ∀ k ∈ ks, k.restricts c = true := by
  induction ks with
  | nil => simp [allRestrict]
  | cons k ks ih => simp [allRestrict, ih]

theorem allEmpty_iff {ks : List Condition} :
    allEmpty ks = true ↔ ∀ k ∈ ks, k.isEmpty = true := by
  induction ks with
  | nil => simp [allEmpty]
  | cons k ks ih => simp [allEmpty, ih]

theorem restricts_or_iff {c : Column} {ks : List Condition} :
    (or ks).restricts c = true ↔ ks ≠ [] ∧ ∀ k ∈ ks, k.restricts c = true := by
  simp [restricts, allRestrict_iff]

theorem allEmpty_of_mem {k : Condition} {ks : List Condition} (hk : k ∈ ks)
    (h : k.isEmpty = false) : allEmpty ks = false := by
  rw [Bool.eq_false_iff, Ne, allEmpty_iff]
  intro hall
  simp [hall k hk] at h

/-- What restricts a column is written, so it counts for the truth value of its group. -/
theorem isEmpty_of_restricts {c : Column} {k : Condition} (h : k.restricts c = true) :
    k.isEmpty = false := by
  induction k using induction_on_members with
  | and ks ih =>
    obtain ⟨k, hk, hr⟩ := anyRestricts_iff.mp h
    exact allEmpty_of_mem hk (ih k hk hr)
  | or ks ih =>
    obtain ⟨hne, hall⟩ := restricts_or_iff.mp h
    obtain ⟨k, hk⟩ := List.exists_mem_of_ne_nil ks hne
    exact allEmpty_of_mem hk (ih k hk (hall k hk))
  | _ => rfl

theorem restricts_weakened_and {c : Column} {ks : List Condition} :
    ((and ks).weakened c).restricts c = true ↔ ∃ k ∈ ks, (k.weakened c).restricts c = true := by
  rw [weakened, weakenedAll_eq_map, restricts, anyRestricts_iff]
  constructor
  · rintro ⟨_, hmap, hr⟩
    obtain ⟨k, hk, rfl⟩ := List.mem_map.mp hmap
    exact ⟨k, hk, hr⟩
  · rintro ⟨k, hk, hr⟩
    exact ⟨_, List.mem_map_of_mem hk, hr⟩

theorem restricts_weakened_or {c : Column} {ks : List Condition} :
    ((or ks).weakened c).restricts c = true ↔
      ks ≠ [] ∧ ∀ k ∈ ks, (k.weakened c).restricts c = true := by
  simp [weakened, weakenedAll_eq_map, restricts_or_iff]

theorem restricts_of_weakened {c : Column} {k : Condition}
    (h : (k.weakened c).restricts c = true) : k.restricts c = true := by
  induction k using induction_on_members with
  | and ks ih =>
    obtain ⟨k, hk, hr⟩ := restricts_weakened_and.mp h
    exact anyRestricts_iff.mpr ⟨k, hk, ih k hk hr⟩
  | or ks ih =>
    obtain ⟨hne, hall⟩ := restricts_weakened_or.mp h
    exact restricts_or_iff.mpr ⟨hne, fun k hk => ih k hk (hall k hk)⟩
  | columnsEqual a b =>
    rw [weakened] at h
    split at h
    next => cases h
    next => exact h
  | _ => exact h

variable {ρ ν : Type} [DecidableEq ν] (i : Interpretation ρ ν) (r : ρ)

/-- The column has a value that the condition names for it. -/
def Pinned (c : Column) (k : Condition) : Prop := ∃ p ∈ k.pins c, p.eval i r = c.eval i r

/-- The column is not NULL, and the condition restricts it by equality with itself only. -/
def Unpinned (c : Column) (k : Condition) : Prop :=
  (k.weakened c).restricts c = false ∧ c.eval i r ≠ none

variable {i r}

theorem pinned_of_isNull {c d : Column} (h : (isNull d).restricts c = true)
    (ht : (isNull d).truth i.assignment r = .yes) : Pinned i r c (isNull d) := by
  have hnull : d.eval i r = none := by simpa [truth, Interpretation.assignment] using ht
  rw [restricts] at h
  refine ⟨.null, by simp [pins, h], ?_⟩
  rw [← Column.eval_of_same h, hnull, Pin.eval]

theorem pinned_of_comparison {c d : Column} {op : Operation} {a : Arg}
    (h : (comparison d op a).restricts c = true)
    (ht : (comparison d op a).truth i.assignment r = .yes) :
    Pinned i r c (comparison d op a) := by
  rw [restricts] at h
  refine ⟨.argument a, by simp [pins, h], ?_⟩
  obtain ⟨hd, hop⟩ := Bool.and_eq_true_iff.mp h
  have hequal : Truth.equal (d.eval i r) (a.eval i) = .yes := by
    rw [← i.compare_equal (Operation.writesEquals_iff.mpr hop)]
    exact ht
  rw [← Column.eval_of_same hd, (Truth.equal_eq_yes.mp hequal).1, Pin.eval]

theorem pinned_of_columnsEqual {c a b : Column} (h : (columnsEqual a b).restricts c = true)
    (ht : (columnsEqual a b).truth i.assignment r = .yes) :
    Pinned i r c (columnsEqual a b) ∨ Unpinned i r c (columnsEqual a b) := by
  obtain ⟨hab, hb⟩ := Truth.equal_eq_yes.mp ht
  by_cases hself : isSelfEquality c a b = true
  · right
    refine ⟨by simp [weakened, hself, restricts], ?_⟩
    rcases Bool.or_eq_true_iff.mp h with ha | hb'
    · rw [← Column.eval_of_same ha, hab]
      exact hb
    · rw [← Column.eval_of_same hb']
      exact hb
  · left
    simp only [isSelfEquality, Bool.or_eq_true, Bool.and_eq_true, not_or, not_and,
      Bool.not_eq_true] at hself
    rcases Bool.or_eq_true_iff.mp h with ha | hb'
    · refine ⟨.column b, by simp [pins, ha, hself.1 ha], ?_⟩
      rw [← Column.eval_of_same ha, hab, Pin.eval]
    · refine ⟨.column a, by simp [pins, hb', hself.2 hb'], ?_⟩
      rw [← Column.eval_of_same hb', ← hab, Pin.eval]

theorem Pinned.mem {c : Column} {k : Condition} {ks : List Condition} (h : Pinned i r c k)
    (hk : k ∈ ks) : ∃ p ∈ pinsAll c ks, p.eval i r = c.eval i r := by
  obtain ⟨p, hp, heval⟩ := h
  exact ⟨p, mem_pinsAll.mpr ⟨k, hk, hp⟩, heval⟩

/-- In a row that the condition matches. An AND is pinned by any member that is, so only one that
restricts by self-equality alone can leave it unpinned. -/
theorem pinned_or_unpinned {c : Column} {k : Condition} (h : k.restricts c = true)
    (ht : k.truth i.assignment r = .yes) : Pinned i r c k ∨ Unpinned i r c k := by
  induction k using induction_on_members with
  | and ks ih =>
    have hmembers : ∀ k ∈ ks, k.restricts c = true → Pinned i r c k ∨ Unpinned i r c k := by
      intro k hk hr
      exact ih k hk hr (truth_and_eq_yes.mp ht k hk (isEmpty_of_restricts hr))
    by_cases hw : ((and ks).weakened c).restricts c = true
    · obtain ⟨k, hk, hr⟩ := restricts_weakened_and.mp hw
      rcases hmembers k hk (restricts_of_weakened hr) with hp | ⟨hk', -⟩
      · exact .inl (hp.mem hk)
      · rw [hr] at hk'
        cases hk'
    · obtain ⟨k, hk, hr⟩ := anyRestricts_iff.mp h
      rcases hmembers k hk hr with hp | ⟨-, hne⟩
      · exact .inl (hp.mem hk)
      · exact .inr ⟨Bool.eq_false_iff.mpr hw, hne⟩
  | or ks ih =>
    obtain ⟨-, hall⟩ := restricts_or_iff.mp h
    obtain ⟨k, hk, -, htruth⟩ := truth_or_eq_yes.mp ht
    rcases ih k hk (hall k hk) htruth with hp | ⟨hw, hne⟩
    · exact .inl (hp.mem hk)
    · refine .inr ⟨Bool.eq_false_iff.mpr fun hor => ?_, hne⟩
      rw [(restricts_weakened_or.mp hor).2 k hk] at hw
      cases hw
  | isNull d => exact .inl (pinned_of_isNull h ht)
  | comparison d op a => exact .inl (pinned_of_comparison h ht)
  | columnsEqual a b => exact pinned_of_columnsEqual h ht
  | isNotNull d => cases h
  | existsIn table inner ih => cases h

theorem isOver_of_mem_pins {c d : Column} {k : Condition} (h : .column d ∈ k.pins c) :
    d.isOver c = false := by
  induction k using induction_on_members with
  | and ks ih | or ks ih =>
    obtain ⟨k, hk, hd⟩ := mem_pinsAll.mp h
    exact ih k hk hd
  | isNull e | comparison e op a =>
    rw [pins] at h
    split at h <;> simp at h
  | columnsEqual a b =>
    rcases List.mem_append.mp h with h | h <;> split at h <;> simp_all
  | isNotNull e => cases h
  | existsIn table inner ih => cases h

/-- A condition that restricts a column names finitely many values for it: NULL, arguments, and
columns that are not over the same name. Each row that it matches has one of them there, unless it
is merely not NULL there and the condition restricts the column by nothing but self-equality. -/
theorem pinned_of_restricts {c : Column} {k : Condition} (h : k.restricts c = true) :
    (∀ d, .column d ∈ k.pins c → d.isOver c = false) ∧
      ∀ {ρ ν : Type} [DecidableEq ν] (i : Interpretation ρ ν) (r : ρ),
        k.truth i.assignment r = .yes → Pinned i r c k ∨ Unpinned i r c k :=
  ⟨fun _ => isOver_of_mem_pins, fun _ _ => pinned_or_unpinned h⟩

/-- Rows of texts under the names of their columns. Functions leave a text as it is, and only
equality is known of the operators. -/
def texts : Interpretation (String → String → Option String) String where
  literal
    | .text s => some s
    | _ => none
  instruction _ := none
  function _ x := x
  coalesce x y := x.or y
  cell table name r := r table name
  compare op x y := if op.isEquality then .equal x y else .unknown
  existsIn _ _ _ := .unknown
  literal_same := by
    intro v w h
    cases v <;> cases w <;> first | rfl | cases h | rw [beq_iff_eq.mp h]
  compare_equal h x y := if_pos (Operation.writesEquals_iff.mp h)

def tenant : Column := .named "t" "tenant"

/-- One member equates the tenant with an expression over itself, the other with more. -/
def tenantFilter : Condition :=
  and [columnsEqual tenant (.function .lower tenant),
    or [comparison tenant (.text .equal) (.value (.text "a")),
      columnsEqual (.named "o" "tenant") tenant, isNull tenant]]

theorem tenantFilter_pins :
    tenantFilter.restricts tenant = true ∧
      tenantFilter.truth texts.assignment (fun _ _ => some "b") = .yes ∧
      ∃ p ∈ [Pin.argument (.value (.text "a")), .column (.named "o" "tenant"), .null],
        p.eval texts (fun _ _ => some "b") = some "b" := by
  have hrestricts : tenantFilter.restricts tenant = true := by decide
  have htruth : tenantFilter.truth texts.assignment (fun _ _ => some "b") = .yes := by decide
  obtain ⟨-, hpins⟩ := pinned_of_restricts hrestricts
  rcases hpins texts (fun _ _ => some "b") htruth with ⟨p, hp, heval⟩ | ⟨hw, -⟩
  · exact ⟨hrestricts, htruth, p, hp, heval⟩
  · revert hw
    decide

/-- An equality of a column with itself restricts it, names no value for it, and matches every value
that is not NULL. -/
theorem self_equality_matches_any_text :
    (columnsEqual tenant tenant).restricts tenant = true ∧
      (columnsEqual tenant tenant).pins tenant = [] ∧
      ∀ s, ∃ r, (columnsEqual tenant tenant).truth texts.assignment r = .yes ∧
        tenant.eval texts r = some s := by
  refine ⟨by decide, rfl, fun s => ⟨fun _ _ => some s, ?_, rfl⟩⟩
  exact Truth.equal_eq_yes.mpr ⟨rfl, Option.some_ne_none s⟩

end Condition

end BoundSql
