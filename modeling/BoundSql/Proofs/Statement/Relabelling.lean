import BoundSql.Proofs.Statement.Placeholders

namespace BoundSql

/-- The variants of literals. -/
inductive Value.Kind where
  | text
  | number
  | boolean
  | bytes
  | uuid
  | json
  deriving DecidableEq

def Value.kind : Value → Kind
  | text _ => .text
  | number _ => .number
  | boolean _ => .boolean
  | bytes _ => .bytes
  | uuid _ => .uuid
  | json _ => .json

/-- Exchanges that keep the variant of a literal and which literals share a key. 64-bit integers
stay, since limits and offsets are bound as such. -/
structure Relabelling (φ : Value → Value) : Prop where
  kind_eq : ∀ v, (φ v).kind = v.kind
  bigInt_eq : ∀ n, φ (.number (.bigInt n)) = .number (.bigInt n)
  key_eq_iff : ∀ v w, (φ v).key = (φ w).key ↔ v.key = w.key

variable (φ : Value → Value)

def Value.relabelText (s : String) : String :=
  match φ (.text s) with
  | .text s => s
  | _ => s

def Value.relabelJson (j : Json) : Json :=
  match φ (.json j) with
  | .json j => j
  | _ => j

def Arg.relabel : Arg → Arg
  | value v => value (φ v)
  | instruction i => instruction i
  | function f inner => function f inner.relabel
  | coalesce arg fallback => coalesce arg.relabel fallback.relabel

def Column.relabel : Column → Column
  | named table name => named table name
  | function f inner => function f inner.relabel
  | coalesce inner fallback => coalesce inner.relabel (fallback.relabel φ)

mutual

def Condition.relabel : Condition → Condition
  | .and children => .and (Condition.relabelAll children)
  | .or children => .or (Condition.relabelAll children)
  | .isNull c => .isNull (c.relabel φ)
  | .isNotNull c => .isNotNull (c.relabel φ)
  | .comparison c op a => .comparison (c.relabel φ) op (a.relabel φ)
  | .columnsEqual a b => .columnsEqual (a.relabel φ) (b.relabel φ)
  | .existsIn table inner => .existsIn table inner.relabel

def Condition.relabelAll : List Condition → List Condition
  | [] => []
  | k :: ks => k.relabel :: Condition.relabelAll ks

end

def Join.relabel (j : Join) : Join := { j with on := j.on.relabel φ }

def OrderBy.relabel (o : OrderBy) : OrderBy := { o with column := o.column.relabel φ }

def Options.relabel (o : Options) : Options :=
  { o with
    condition := o.condition.map (Condition.relabel φ)
    joins := o.joins.map (Join.relabel φ)
    orderBy := o.orderBy.map (OrderBy.relabel φ)
    groupBy := o.groupBy.map (Column.relabel φ) }

def Misuse.relabel : Misuse → Misuse
  | incomparable op a => incomparable op (a.relabel φ)
  | notJoined left right => notJoined left right
  | endless => endless

mutual

def Change.relabel : Change → Change
  | .set c a => .set (c.relabel φ) (a.relabel φ)
  | .increment c source => .increment (c.relabel φ) (source.relabel φ)
  | .setJson c path value =>
    .setJson (c.relabel φ) (path.map (Value.relabelText φ)) (Value.relabelJson φ value)
  | .cte body mark assignment =>
    .cte (Step.relabelAll body) mark (Change.relabelOption assignment)

def Change.relabelOption : Option Change → Option Change
  | none => none
  | some ch => some ch.relabel

def Change.relabelAll : List Change → List Change
  | [] => []
  | ch :: chs => ch.relabel :: Change.relabelAll chs

def Step.relabel : Step → Step
  | .text s => .text s
  | .arg a => .arg (a.relabel φ)
  | .args as => .args (as.map (Arg.relabel φ))
  | .qualified c => .qualified (c.relabel φ)
  | .unqualified c => .unqualified (c.relabel φ)
  | .columns cs => .columns (cs.map (Column.relabel φ))
  | .columnsUnqualified cs => .columnsUnqualified (cs.map (Column.relabel φ))
  | .condition k => .condition (k.relabel φ)
  | .whereClause k => .whereClause (k.relabel φ)
  | .options o => .options (o.relabel φ)
  | .set chs => .set (Change.relabelAll chs)
  | .ctes chs => .ctes (Change.relabelAll chs)
  | .operation op c a => .operation op (c.relabel φ) (a.relabel φ)
  | .fromTable t => .fromTable t
  | .wrong m => .wrong (m.relabel φ)

def Step.relabelAll : List Step → List Step
  | [] => []
  | s :: steps => s.relabel :: Step.relabelAll steps

end

def Piece.relabel : Piece → Piece
  | text s => text s
  | value v => value (φ v)

def Fragment.relabel (f : Fragment) : Fragment := f.map (Piece.relabel φ)

namespace Fragment

variable {φ}

@[simp] theorem relabel_nil : relabel φ [] = [] := rfl

@[simp] theorem relabel_text (s : String) (f : Fragment) :
    relabel φ (.text s :: f) = .text s :: relabel φ f := rfl

@[simp] theorem relabel_value (v : Value) (f : Fragment) :
    relabel φ (.value v :: f) = .value (φ v) :: relabel φ f := rfl

@[simp] theorem relabel_append (f g : Fragment) :
    relabel φ (f ++ g) = relabel φ f ++ relabel φ g := List.map_append

theorem join_relabel (separator : String) (fs : List Fragment) :
    join separator (fs.map (relabel φ)) = relabel φ (join separator fs) := by
  cases fs with
  | nil => rfl
  | cons f fs =>
    simp [join, relabel, Piece.relabel, List.flatMap_map, List.map_flatMap]

theorem join_map_relabel {α β : Type} {replace : α → β} {before : α → Fragment}
    {after : β → Fragment} (h : ∀ a, after (replace a) = relabel φ (before a))
    (separator : String) (as : List α) :
    join separator ((as.map replace).map after) = relabel φ (join separator (as.map before)) := by
  rw [← join_relabel, List.map_map, List.map_map]
  congr 1
  exact List.map_congr_left fun a _ => h a

theorem group_relabel (separator : String) (fs : List Fragment) :
    group separator (fs.map (relabel φ)) = relabel φ (group separator fs) := by
  match fs with
  | [] => rfl
  | [f] => rfl
  | f :: g :: fs =>
    have hjoin := join_relabel (φ := φ) separator (f :: g :: fs)
    simp only [List.map_cons] at hjoin
    simp [group, hjoin]

end Fragment

variable {φ}

open Fragment

@[simp] theorem Arg.fragment_relabel (a : Arg) :
    (a.relabel φ).fragment = Fragment.relabel φ a.fragment := by
  induction a with
  | value v => rfl
  | instruction i => rfl
  | function f inner ih => simp [relabel, fragment, ih]
  | coalesce arg fallback iha ihf => simp [relabel, fragment, iha, ihf]

namespace Column

@[simp] theorem qualified_relabel (c : Column) :
    (c.relabel φ).qualified = Fragment.relabel φ c.qualified := by
  induction c with
  | named table name => rfl
  | function f inner ih => simp [relabel, qualified, ih]
  | coalesce inner fallback ih => simp [relabel, qualified, ih]

@[simp] theorem unqualified_relabel (c : Column) :
    (c.relabel φ).unqualified = Fragment.relabel φ c.unqualified := by
  induction c with
  | named table name => rfl
  | function f inner ih => simp [relabel, unqualified, ih]
  | coalesce inner fallback ih => simp [relabel, unqualified, ih]

end Column

theorem TextOperation.fragment_relabel (op : TextOperation) (c : Column) (a : Arg) :
    op.fragment (c.relabel φ) (a.relabel φ) = Fragment.relabel φ (op.fragment c a) := by
  unfold fragment
  split
  next =>
    -- both sides are lowered, before the exchange as after it
    have hcolumn := Column.qualified_relabel (φ := φ) (.function .lower c)
    have harg := Arg.fragment_relabel (φ := φ) (.function .lower a)
    rw [Column.relabel] at hcolumn
    rw [Arg.relabel] at harg
    simp [hcolumn, harg]
  next => simp

@[simp] theorem Operation.fragment_relabel (op : Operation) (c : Column) (a : Arg) :
    op.fragment (c.relabel φ) (a.relabel φ) = Fragment.relabel φ (op.fragment c a) := by
  cases op with
  | text op => exact op.fragment_relabel c a
  | number op | boolean op | bytes op => simp [fragment, comparison]

namespace Condition

mutual

theorem isEmpty_relabel : ∀ k : Condition, (k.relabel φ).isEmpty = k.isEmpty
  | and ks | or ks => by rw [relabel, isEmpty, isEmpty, allEmpty_relabelAll ks]
  | isNull _ | isNotNull _ | comparison _ _ _ | columnsEqual _ _ | existsIn _ _ => rfl

theorem allEmpty_relabelAll : ∀ ks : List Condition, allEmpty (relabelAll φ ks) = allEmpty ks
  | [] => rfl
  | k :: ks => by rw [relabelAll, allEmpty, allEmpty, isEmpty_relabel k, allEmpty_relabelAll ks]

end

mutual

theorem fragment_relabel : ∀ k : Condition,
    (k.relabel φ).fragment = Fragment.relabel φ k.fragment
  | and ks | or ks => by
    rw [relabel, fragment, fragment, fragments_relabelAll ks, group_relabel]
  | isNull c | isNotNull c => by simp [relabel, fragment]
  | comparison c op a => by simp [relabel, fragment]
  | columnsEqual a b => by simp [relabel, fragment]
  | existsIn table inner => by
    rw [relabel, fragment, fragment, isEmpty_relabel inner]
    split
    next => simp
    next => simp [fragment_relabel inner]

theorem fragments_relabelAll : ∀ ks : List Condition,
    fragments (relabelAll φ ks) = (fragments ks).map (Fragment.relabel φ)
  | [] => rfl
  | k :: ks => by
    rw [relabelAll, fragments, fragments, isEmpty_relabel k]
    split
    next => exact fragments_relabelAll ks
    next => rw [fragment_relabel k, fragments_relabelAll ks, List.map_cons]

end

theorem whereFragment_relabel (k : Condition) :
    (k.relabel φ).whereFragment = Fragment.relabel φ k.whereFragment := by
  unfold whereFragment
  rw [isEmpty_relabel]
  split
  next => rfl
  next => rw [fragment_relabel, relabel_text]

end Condition

theorem Join.fragment_relabel (j : Join) :
    (j.relabel φ).fragment = Fragment.relabel φ j.fragment := by
  unfold fragment relabel
  rw [Condition.isEmpty_relabel]
  split
  next => rfl
  next => rw [Condition.fragment_relabel, relabel_text]

theorem OrderBy.fragment_relabel (o : OrderBy) :
    (o.relabel φ).fragment = Fragment.relabel φ o.fragment := by
  unfold fragment relabel
  cases o.direction <;> simp

namespace Options

theorem clause_relabel {α : Type} {replace : α → α} {fragment : List α → Fragment}
    (h : ∀ as, fragment (as.map replace) = Fragment.relabel φ (fragment as)) (keyword : String)
    (as : List α) :
    clause keyword fragment (as.map replace) = Fragment.relabel φ (clause keyword fragment as) := by
  cases as with
  | nil => rfl
  | cons a as =>
    have hcons := h (a :: as)
    simp only [clause, List.map_cons, List.isEmpty_cons] at hcons ⊢
    simp [hcons]

theorem countFragment_relabel (hφ : Relabelling φ) (keyword : String) (n : UInt32) :
    Fragment.relabel φ (countFragment keyword n) = countFragment keyword n := by
  unfold countFragment
  split
  next => rfl
  next => simp [hφ.bigInt_eq]

theorem filterFragment_relabel (k : Option Condition) :
    filterFragment (k.map (Condition.relabel φ)) = Fragment.relabel φ (filterFragment k) := by
  cases k with
  | none => rfl
  | some k => exact k.whereFragment_relabel

theorem joins_relabel (js : List Join) :
    (js.map (Join.relabel φ)).flatMap Join.fragment =
      Fragment.relabel φ (js.flatMap Join.fragment) := by
  induction js with
  | nil => rfl
  | cons j js ih => simp [ih, Join.fragment_relabel]

theorem fragment_relabel (hφ : Relabelling φ) (o : Options) :
    (o.relabel φ).fragment = Fragment.relabel φ o.fragment := by
  have hgroup : clause " GROUP BY " Columns.qualified (o.groupBy.map (Column.relabel φ)) =
      Fragment.relabel φ (clause " GROUP BY " Columns.qualified o.groupBy) :=
    clause_relabel (fun cs => join_map_relabel Column.qualified_relabel ", " cs) _ _
  have horder : clause " ORDER BY " orderFragment (o.orderBy.map (OrderBy.relabel φ)) =
      Fragment.relabel φ (clause " ORDER BY " orderFragment o.orderBy) :=
    clause_relabel (fun os => join_map_relabel OrderBy.fragment_relabel ", " os) _ _
  have hlock : Fragment.relabel φ (lockFragment o.lock) = lockFragment o.lock := by
    cases o.lock <;> rfl
  simp only [fragment, relabel, relabel_append, joins_relabel, filterFragment_relabel, hgroup,
    horder, countFragment_relabel hφ, hlock]

end Options

theorem Relabelling.text_relabelText (hφ : Relabelling φ) (s : String) :
    .text (Value.relabelText φ s) = φ (.text s) := by
  have hkind := hφ.kind_eq (.text s)
  unfold Value.relabelText
  cases h : φ (.text s) <;> simp [h, Value.kind] at hkind ⊢

theorem Relabelling.json_relabelJson (hφ : Relabelling φ) (j : Json) :
    .json (Value.relabelJson φ j) = φ (.json j) := by
  have hkind := hφ.kind_eq (.json j)
  unfold Value.relabelJson
  cases h : φ (.json j) <;> simp [h, Value.kind] at hkind ⊢

namespace Change

theorem segments_relabel (hφ : Relabelling φ) (path : List String) :
    join ", " ((path.map (Value.relabelText φ)).map fun s => [.value (.text s)]) =
      Fragment.relabel φ (join ", " (path.map fun s => [.value (.text s)])) :=
  join_map_relabel (fun s => by simp [hφ.text_relabelText]) ", " path

theorem pathFragment_relabel (hφ : Relabelling φ) (path : List String) :
    pathFragment (path.map (Value.relabelText φ)) = Fragment.relabel φ (pathFragment path) := by
  have hsegments := segments_relabel hφ path
  unfold pathFragment
  cases path with
  | nil => rfl
  | cons s path =>
    simp only [List.isEmpty_cons, List.map_cons] at hsegments ⊢
    simp [hsegments, -List.map_map]

mutual

theorem fragment_relabel (hφ : Relabelling φ) : ∀ ch : Change,
    (ch.relabel φ).fragment = Fragment.relabel φ ch.fragment
  | set c a => by simp [relabel, fragment]
  | increment c source => by simp [relabel, fragment]
  | setJson c path value => by
    simp [relabel, fragment, pathFragment_relabel hφ, hφ.json_relabelJson]
  | cte _ _ assignment => by
    rw [relabel, fragment, fragment, optionalFragment_relabel hφ assignment]

theorem optionalFragment_relabel (hφ : Relabelling φ) : ∀ ch : Option Change,
    optionalFragment (relabelOption φ ch) = Fragment.relabel φ (optionalFragment ch)
  | none => rfl
  | some ch => fragment_relabel hφ ch

end

mutual

theorem hasAssignment_relabel : ∀ ch : Change, (ch.relabel φ).hasAssignment = ch.hasAssignment
  | set _ _ | increment _ _ | setJson _ _ _ => rfl
  | cte _ _ assignment => optionalHasAssignment_relabel assignment

theorem optionalHasAssignment_relabel : ∀ ch : Option Change,
    optionalHasAssignment (relabelOption φ ch) = optionalHasAssignment ch
  | none => rfl
  | some ch => hasAssignment_relabel ch

end

theorem isCte_relabel (ch : Change) : (ch.relabel φ).isCte = ch.isCte := by
  cases ch <;> rfl

theorem relabelAll_eq_map (chs : Changes) : relabelAll φ chs = chs.map (relabel φ) := by
  induction chs with
  | nil => rfl
  | cons ch chs ih => rw [relabelAll, ih, List.map_cons]

end Change

theorem Changes.fragment_relabel (hφ : Relabelling φ) (chs : Changes) :
    Changes.fragment (Change.relabelAll φ chs) = Fragment.relabel φ (Changes.fragment chs) := by
  have hfilter : (chs.map (Change.relabel φ)).filter Change.hasAssignment =
      (chs.filter Change.hasAssignment).map (Change.relabel φ) := by
    rw [List.filter_map]
    congr 2
    funext ch
    exact ch.hasAssignment_relabel
  rw [Change.relabelAll_eq_map, fragment, fragment, hfilter]
  exact join_map_relabel (Change.fragment_relabel hφ) ", " _

/-- What comes of writing when literals are exchanged: the same, exchanged. -/
def relabelResult (φ : Value → Value) : Except Misuse Fragment → Except Misuse Fragment
  | .ok f => .ok (Fragment.relabel φ f)
  | .error m => .error (m.relabel φ)

namespace Step

mutual

theorem fragment_relabel (hφ : Relabelling φ) : ∀ s : Step,
    (s.relabel φ).fragment = relabelResult φ s.fragment
  | text _ | fromTable _ | wrong _ => rfl
  | arg a => by simp [relabel, fragment, relabelResult]
  | args as => by
    rw [relabel, fragment, join_map_relabel Arg.fragment_relabel]
    rfl
  | qualified c | unqualified c => by simp [relabel, fragment, relabelResult]
  | columns cs => by
    rw [relabel, fragment, Columns.qualified, join_map_relabel Column.qualified_relabel]
    rfl
  | columnsUnqualified cs => by
    rw [relabel, fragment, Columns.unqualified, join_map_relabel Column.unqualified_relabel]
    rfl
  | condition k => by rw [relabel, fragment, k.fragment_relabel]; rfl
  | whereClause k => by rw [relabel, fragment, k.whereFragment_relabel]; rfl
  | options o => by rw [relabel, fragment, o.fragment_relabel hφ]; rfl
  | set chs => by rw [relabel, fragment, Changes.fragment_relabel hφ]; rfl
  | ctes chs => by rw [relabel, fragment, fragment, ctesFrom_relabel hφ 0 chs]
  | operation op c a => by rw [relabel, fragment, op.fragment_relabel]; rfl

theorem fragments_relabel (hφ : Relabelling φ) : ∀ steps : List Step,
    fragments (relabelAll φ steps) = relabelResult φ (fragments steps)
  | [] => rfl
  | s :: steps => by
    rw [relabelAll, fragments, fragments, fragment_relabel hφ s, fragments_relabel hφ steps]
    cases s.fragment with
    | error m => rfl
    | ok f =>
      cases fragments steps with
      | error m => rfl
      | ok g => simp [relabelResult, Except.map]

theorem cteBody_relabel (hφ : Relabelling φ) : ∀ ch : Change,
    cteBody (ch.relabel φ) = relabelResult φ (cteBody ch)
  | .set _ _ | .increment _ _ | .setJson _ _ _ => rfl
  | .cte body _ _ => by rw [Change.relabel, cteBody, cteBody, fragments_relabel hφ body]

theorem ctesFrom_relabel (hφ : Relabelling φ) : ∀ (position : Nat) (chs : Changes),
    ctesFrom position (Change.relabelAll φ chs) = relabelResult φ (ctesFrom position chs)
  | _, [] => rfl
  | position, ch :: chs => by
    rw [Change.relabelAll, ctesFrom, ctesFrom, ch.isCte_relabel, cteBody_relabel hφ ch,
      ctesFrom_relabel hφ (position + 1) chs]
    split
    next =>
      cases cteBody ch with
      | error m => rfl
      | ok f =>
        cases ctesFrom (position + 1) chs with
        | error m => rfl
        | ok g => simp [relabelResult, Except.map]
    next => rfl

end

theorem relabelAll_eq_map (steps : List Step) : relabelAll φ steps = steps.map (relabel φ) := by
  induction steps with
  | nil => rfl
  | cons s steps ih => rw [relabelAll, ih, List.map_cons]

end Step

namespace Relabelling

theorem key_mem_iff (hφ : Relabelling φ) (v : Value) (args : List Value) :
    (φ v).key ∈ (args.map φ).map Value.key ↔ v.key ∈ args.map Value.key := by
  simp [hφ.key_eq_iff]

theorem position_eq (hφ : Relabelling φ) (v : Value) (args : List Value) :
    (φ v).position (args.map φ) = v.position args := by
  have hidx : ((args.map φ).map Value.key).idxOf (φ v).key = (args.map Value.key).idxOf v.key := by
    induction args with
    | nil => rfl
    | cons w args ih =>
      have hkey := hφ.key_eq_iff w v
      by_cases h : w.key = v.key
      · simp [h, hkey.mpr h]
      · have h' : (φ w).key ≠ (φ v).key := fun e => h (hkey.mp e)
        simp only [List.map_cons, List.idxOf_cons, beq_eq_false_iff_ne.mpr h,
          beq_eq_false_iff_ne.mpr h', cond_false, ih]
  rw [Value.position, Value.position, hidx]

/-- Literals are first met where they were first met before. -/
theorem unbound_map (hφ : Relabelling φ) (args vs : List Value) :
    Value.unbound ((args.map φ).map Value.key) (vs.map φ) =
      (Value.unbound (args.map Value.key) vs).map φ := by
  induction vs generalizing args with
  | nil => rfl
  | cons v vs ih =>
    have hmem := hφ.key_mem_iff v args
    rw [List.map_cons]
    by_cases h : v.key ∈ args.map Value.key
    · rw [Value.unbound_cons_of_mem h, Value.unbound_cons_of_mem (hmem.mpr h), ih]
    · have h' : (φ v).key ∉ (args.map φ).map Value.key := fun e => h (hmem.mp e)
      have hrest := ih (args ++ [v])
      simp only [List.map_append, List.map_cons, List.map_nil] at hrest
      rw [Value.unbound_cons_of_notMem h, Value.unbound_cons_of_notMem h', hrest, List.map_cons]

theorem literals_relabel (f : Fragment) :
    (Fragment.relabel φ f).literals = f.literals.map φ := by
  induction f with
  | nil => rfl
  | cons piece f ih =>
    cases piece with
    | text s => exact ih
    | value v => exact congrArg (φ v :: ·) ih

theorem render_relabel (hφ : Relabelling φ) (args : List Value) (f : Fragment) :
    (Fragment.relabel φ f).render (args.map φ) = f.render args := by
  induction f with
  | nil => rfl
  | cons piece f ih =>
    cases piece with
    | text s => rw [relabel_text, render, render, ih]
    | value v =>
      rw [relabel_value, render, render, ih, Value.placeholder, Value.placeholder,
        hφ.position_eq]

end Relabelling

namespace Builder

theorem write_relabel (hφ : Relabelling φ) (sql : String) (f : Fragment) :
    ((start sql).write (Fragment.relabel φ f)).sql = ((start sql).write f).sql ∧
      ((start sql).write (Fragment.relabel φ f)).args = ((start sql).write f).args.map φ := by
  have hunbound : Value.unbound [] (Fragment.relabel φ f).literals =
      (Value.unbound [] f.literals).map φ := by
    rw [Relabelling.literals_relabel]
    exact hφ.unbound_map [] f.literals
  rw [sql_write_start, sql_write_start, args_write_start, args_write_start, hunbound,
    hφ.render_relabel]
  exact ⟨rfl, rfl⟩

/-- Steps with their literals exchanged write the same text, with the arguments exchanged one by
one. What is put together wrongly stays wrong. -/
theorem writeSteps_relabel {φ : Value → Value} (hφ : Relabelling φ) (sql : String)
    (steps : List Step) :
    (∀ b, (start sql).writeSteps steps = .ok b →
      ∃ b', (start sql).writeSteps (steps.map (Step.relabel φ)) = .ok b' ∧
        b'.sql = b.sql ∧ b'.args = b.args.map φ) ∧
    ∀ m, (start sql).writeSteps steps = .error m →
      (start sql).writeSteps (steps.map (Step.relabel φ)) = .error (m.relabel φ) := by
  have hsteps := Step.fragments_relabel hφ steps
  rw [Step.relabelAll_eq_map] at hsteps
  rw [writeSteps_eq_write, writeSteps_eq_write, hsteps]
  cases Step.fragments steps with
  | error m =>
    refine ⟨nofun, ?_⟩
    rintro _ ⟨⟩
    rfl
  | ok f =>
    refine ⟨?_, nofun⟩
    rintro _ ⟨⟩
    exact ⟨_, rfl, write_relabel hφ sql f⟩

end Builder

/-! Texts under a common prefix: an exchange that no statement lets through to its text. -/

def Value.prefixed (p : String) : Value → Value
  | .text s => .text (p ++ s)
  | v => v

/-- What a common prefix does to keys: only those of texts change. -/
def Key.prefixed (p : String) (k : Key) : Key :=
  if k.tag = 1 then ⟨1, Bytes.ofText p ++ k.bytes⟩ else k

theorem Value.key_prefixed (p : String) (v : Value) :
    (v.prefixed p).key = v.key.prefixed p := by
  cases v with
  | text s => simp [prefixed, key, Key.prefixed, Bytes.ofText]
  | number n => cases n <;> rfl
  | boolean _ | bytes _ | uuid _ | json _ => rfl

theorem Key.prefixed_inj (p : String) {k l : Key} : k.prefixed p = l.prefixed p ↔ k = l := by
  refine ⟨fun h => ?_, fun h => h ▸ rfl⟩
  obtain ⟨tag, bytes⟩ := k
  obtain ⟨tag', bytes'⟩ := l
  unfold prefixed at h
  by_cases ht : tag = 1 <;> by_cases ht' : tag' = 1 <;> simp_all

theorem relabelling_prefixed (p : String) : Relabelling (Value.prefixed p) where
  kind_eq v := by cases v <;> rfl
  bigInt_eq _ := rfl
  key_eq_iff v w := by rw [v.key_prefixed, w.key_prefixed, Key.prefixed_inj]

namespace Builder

/-- A literal at every kind of place: in a fallback of a column, under a pattern, as a segment of a
path, in the statement of a WITH clause; one of them at two places. -/
def literalSteps : List Step :=
  [.ctes [.cte [.text "INSERT INTO u VALUES (", .args [.value (.text "a"), .instruction .now],
      .text ")"] 0 none],
    .text " UPDATE t SET ",
    .set [.setJson (.named "t" "d") ["x", "y"] (.bool true)],
    .whereClause (.or [
      .comparison (.coalesce (.named "t" "k") (.value (.text "b"))) (.text .equal)
        (.value (.text "a")),
      .comparison (.named "t" "n") (.text .startsWithIgnoreCase) (.value (.text "c"))])]

def literalText : String :=
  "WITH base AS (SELECT 1), cte_0 AS (INSERT INTO u VALUES ($1, NOW()))" ++
    " UPDATE t SET d = jsonb_set(d, ARRAY[$2, $3], $4) WHERE (COALESCE(t.k, $5) = $1" ++
    " OR LOWER(t.n) LIKE LOWER($6) || '%')"

theorem writeSteps_literalSteps :
    ∃ b, (start "WITH base AS (SELECT 1)").writeSteps literalSteps = .ok b ∧
      b.sql = literalText ∧
      b.args = [.text "a", .text "x", .text "y", .json (.bool true), .text "b", .text "c"] := by
  have hf : Step.fragments literalSteps = .ok _ := rfl
  have hwrite := writeSteps_eq_write (start "WITH base AS (SELECT 1)") literalSteps
  rw [hf] at hwrite
  refine ⟨_, hwrite, ?_, args_write_start _ _⟩
  rw [sql_write_start]
  decide +kernel

/-- The end of a statement in front of every text stays among the arguments. -/
theorem literalSteps_keep_text :
    ∃ b', (start "WITH base AS (SELECT 1)").writeSteps
        (literalSteps.map (Step.relabel (Value.prefixed "'; DROP TABLE t; --"))) = .ok b' ∧
      b'.sql = literalText ∧
      b'.args = [.text "'; DROP TABLE t; --a", .text "'; DROP TABLE t; --x",
        .text "'; DROP TABLE t; --y", .json (.bool true), .text "'; DROP TABLE t; --b",
        .text "'; DROP TABLE t; --c"] := by
  obtain ⟨b, hb, hsql, hargs⟩ := writeSteps_literalSteps
  obtain ⟨hok, -⟩ :=
    writeSteps_relabel (relabelling_prefixed "'; DROP TABLE t; --") _ literalSteps
  obtain ⟨b', hb', hsql', hargs'⟩ := hok b hb
  refine ⟨b', hb', hsql'.trans hsql, hargs'.trans ?_⟩
  rw [hargs]
  rfl

end Builder

end BoundSql
