import BoundSql.Proofs.Statement.Fragment

namespace BoundSql.Builder

def writePiece (b : Builder) : Piece → Builder
  | .text s => b.writeText s
  | .value v => b.writeValue v

def write (b : Builder) (f : Fragment) : Builder := f.foldl writePiece b

@[simp] theorem write_nil (b : Builder) : b.write [] = b := rfl

@[simp] theorem write_text (b : Builder) (s : String) (f : Fragment) :
    b.write (.text s :: f) = (b.writeText s).write f := rfl

@[simp] theorem write_value (b : Builder) (v : Value) (f : Fragment) :
    b.write (.value v :: f) = (b.writeValue v).write f := rfl

@[simp] theorem write_append (b : Builder) (f g : Fragment) :
    b.write (f ++ g) = (b.write f).write g := List.foldl_append

theorem foldl_separated {α : Type} {write : Builder → α → Builder} {fragment : α → Fragment}
    (h : ∀ b a, write b a = b.write (fragment a)) (separator : String) (b : Builder)
    (as : List α) :
    as.foldl (fun b a => write (b.writeText separator) a) b =
      b.write ((as.map fragment).flatMap fun g => .text separator :: g) := by
  induction as generalizing b with
  | nil => rfl
  | cons a as ih =>
    rw [List.foldl_cons, ih, h]
    simp

theorem writeSeparated_eq_write {α : Type} {write : Builder → α → Builder}
    {fragment : α → Fragment} (h : ∀ b a, write b a = b.write (fragment a)) (separator : String)
    (b : Builder) (as : List α) :
    b.writeSeparated write separator as = b.write (Fragment.join separator (as.map fragment)) := by
  cases as with
  | nil => rfl
  | cons a as =>
    rw [writeSeparated, foldl_separated h, h b a]
    simp [Fragment.join]

@[simp] theorem writeArg_eq_write (b : Builder) (a : Arg) : b.writeArg a = b.write a.fragment := by
  induction a generalizing b with
  | value v => rfl
  | instruction i => rfl
  | function f inner ih => simp [writeArg, Arg.fragment, ih]
  | coalesce arg fallback iha ihf => simp [writeArg, Arg.fragment, iha, ihf]

@[simp] theorem writeArgs_eq_write (b : Builder) (as : List Arg) :
    b.writeArgs as = b.write (Fragment.join ", " (as.map Arg.fragment)) :=
  writeSeparated_eq_write writeArg_eq_write ", " b as

@[simp] theorem writeQualified_eq_write (b : Builder) (c : Column) :
    b.writeQualified c = b.write c.qualified := by
  induction c generalizing b with
  | named table name => rfl
  | function f inner ih => simp [writeQualified, Column.qualified, ih]
  | coalesce inner fallback ih => simp [writeQualified, Column.qualified, ih]

@[simp] theorem writeUnqualified_eq_write (b : Builder) (c : Column) :
    b.writeUnqualified c = b.write c.unqualified := by
  induction c generalizing b with
  | named table name => rfl
  | function f inner ih => simp [writeUnqualified, Column.unqualified, ih]
  | coalesce inner fallback ih => simp [writeUnqualified, Column.unqualified, ih]

@[simp] theorem writeColumns_eq_write (b : Builder) (cs : Columns) :
    b.writeColumns cs = b.write cs.qualified :=
  writeSeparated_eq_write writeQualified_eq_write ", " b cs

@[simp] theorem writeColumnsUnqualified_eq_write (b : Builder) (cs : Columns) :
    b.writeColumnsUnqualified cs = b.write cs.unqualified :=
  writeSeparated_eq_write writeUnqualified_eq_write ", " b cs

theorem writeTextOperation_eq_write (b : Builder) (op : TextOperation) (c : Column) (a : Arg) :
    b.writeTextOperation op c a = b.write (op.fragment c a) := by
  unfold writeTextOperation TextOperation.fragment
  split <;> simp

theorem writeComparison_eq_write (b : Builder) (symbol : String) (c : Column) (a : Arg) :
    b.writeComparison symbol c a = b.write (Operation.comparison symbol c a) := by
  simp [writeComparison, Operation.comparison]

@[simp] theorem writeOperation_eq_write (b : Builder) (op : Operation) (c : Column) (a : Arg) :
    b.writeOperation op c a = b.write (op.fragment c a) := by
  cases op with
  | text op => exact writeTextOperation_eq_write b op c a
  | number op => exact writeComparison_eq_write b op.symbol c a
  | boolean op => exact writeComparison_eq_write b "=" c a
  | bytes op => exact writeComparison_eq_write b op.symbol c a

theorem length_fragments (ks : List Condition) :
    (Condition.fragments ks).length = Condition.filled ks := by
  induction ks with
  | nil => rfl
  | cons k ks ih =>
    rw [Condition.fragments, Condition.filled, List.countP_cons]
    split <;> simp_all [Condition.filled]

/-- The members of a group as they are written: the separator stands in front of each but the
first, which has none if nothing was written before it. -/
def membersFragment (separator : String) (first : Bool) (fs : List Fragment) : Fragment :=
  if first then Fragment.join separator fs else fs.flatMap fun g => .text separator :: g

theorem write_group (b : Builder) (separator : String) (ks : List Condition) :
    b.write (Fragment.group separator (Condition.fragments ks)) =
      if 1 < Condition.filled ks then
        ((b.writeText "(").write
          (membersFragment separator true (Condition.fragments ks))).writeText ")"
      else b.write (membersFragment separator true (Condition.fragments ks)) := by
  rw [← length_fragments]
  generalize Condition.fragments ks = fs
  match fs with
  | [] => rfl
  | [f] => simp [Fragment.group, membersFragment, Fragment.join]
  | f :: g :: fs => simp [Fragment.group, membersFragment]

mutual

/-- The induction follows the tree; a group needs the statement for the rest of its members with
and without one written before. -/
theorem writeCondition_eq_write : ∀ (b : Builder) (k : Condition),
    b.writeCondition k = b.write k.fragment
  | b, .and ks => by
    rw [writeCondition, Condition.fragment, write_group, writeMembers_eq_write,
      writeMembers_eq_write]
  | b, .or ks => by
    rw [writeCondition, Condition.fragment, write_group, writeMembers_eq_write,
      writeMembers_eq_write]
  | b, .isNull c => by simp [writeCondition, Condition.fragment]
  | b, .isNotNull c => by simp [writeCondition, Condition.fragment]
  | b, .comparison c op a => by simp [writeCondition, Condition.fragment]
  | b, .columnsEqual c d => by simp [writeCondition, Condition.fragment]
  | b, .existsIn table inner => by
    rw [writeCondition, Condition.fragment]
    split
    next => simp
    next => simp [writeCondition_eq_write _ inner]

theorem writeMembers_eq_write (separator : String) : ∀ (b : Builder) (first : Bool)
    (ks : List Condition), b.writeMembers separator first ks =
      b.write (membersFragment separator first (Condition.fragments ks))
  | b, first, [] => by cases first <;> rfl
  | b, first, k :: ks => by
    rw [writeMembers, Condition.fragments]
    split
    next => exact writeMembers_eq_write separator b first ks
    next =>
      rw [writeMembers_eq_write separator _ false ks, writeCondition_eq_write _ k]
      cases first with
      | true => simp [membersFragment, Fragment.join]
      | false => simp [membersFragment]

end

attribute [simp] writeCondition_eq_write

@[simp] theorem writeWhere_eq_write (b : Builder) (k : Condition) :
    b.writeWhere k = b.write k.whereFragment := by
  unfold writeWhere Condition.whereFragment
  split <;> simp

theorem writeJoin_eq_write (b : Builder) (j : Join) : b.writeJoin j = b.write j.fragment := by
  unfold writeJoin Join.fragment
  split <;> simp

theorem foldl_writeJoin (b : Builder) (js : List Join) :
    js.foldl writeJoin b = b.write (js.flatMap Join.fragment) := by
  induction js generalizing b with
  | nil => rfl
  | cons j js ih => simp [ih, writeJoin_eq_write]

theorem writeOrderBy_eq_write (b : Builder) (o : OrderBy) :
    b.writeOrderBy o = b.write o.fragment := by
  unfold writeOrderBy OrderBy.fragment
  cases o.direction <;> simp

theorem writeClause_eq_write {α : Type} {write : Builder → List α → Builder}
    {fragment : List α → Fragment} (h : ∀ b as, write b as = b.write (fragment as))
    (b : Builder) (keyword : String) (as : List α) :
    b.writeClause keyword write as = b.write (Options.clause keyword fragment as) := by
  unfold writeClause Options.clause
  split <;> simp [h]

theorem writeCount_eq_write (b : Builder) (keyword : String) (n : UInt32) :
    b.writeCount keyword n = b.write (Options.countFragment keyword n) := by
  unfold writeCount Options.countFragment
  split <;> simp [Arg.fragment]

theorem writeFilter_eq_write (b : Builder) (k : Option Condition) :
    b.writeFilter k = b.write (Options.filterFragment k) := by
  cases k with
  | none => rfl
  | some k => exact writeWhere_eq_write b k

theorem writeLock_eq_write (b : Builder) (lock : Bool) :
    b.writeLock lock = b.write (Options.lockFragment lock) := by
  cases lock <;> rfl

@[simp] theorem writeOptions_eq_write (b : Builder) (o : Options) :
    b.writeOptions o = b.write o.fragment := by
  have group := writeClause_eq_write writeColumns_eq_write
  have order (b : Builder) (keyword : String) (os : List OrderBy) :
      b.writeClause keyword (fun b => b.writeSeparated writeOrderBy ", ") os =
        b.write (Options.clause keyword Options.orderFragment os) :=
    writeClause_eq_write (writeSeparated_eq_write writeOrderBy_eq_write ", ") b keyword os
  simp only [writeOptions, Options.fragment, write_append, foldl_writeJoin, writeFilter_eq_write,
    group, order, writeCount_eq_write, writeLock_eq_write]

theorem writePath_eq_write (b : Builder) (path : List String) :
    b.writePath path = b.write (Change.pathFragment path) := by
  unfold writePath Change.pathFragment
  split
  next => rfl
  next => simp [Function.comp_def, Arg.fragment]

mutual

theorem writeAssignment_eq_write : ∀ (b : Builder) (ch : Change),
    b.writeAssignment ch = b.write ch.fragment
  | b, .set c a => by simp [writeAssignment, Change.fragment]
  | b, .increment c source => by simp [writeAssignment, Change.fragment]
  | b, .setJson c path value => by
    simp [writeAssignment, Change.fragment, writePath_eq_write, Arg.fragment]
  | b, .cte _ _ assignment => by
    rw [writeAssignment, Change.fragment, writeOptionalAssignment_eq_write]

theorem writeOptionalAssignment_eq_write : ∀ (b : Builder) (ch : Option Change),
    b.writeOptionalAssignment ch = b.write (Change.optionalFragment ch)
  | _, none => rfl
  | b, some ch => writeAssignment_eq_write b ch

end

@[simp] theorem writeAssignments_eq_write (b : Builder) (chs : Changes) :
    b.writeAssignments chs = b.write chs.fragment :=
  writeSeparated_eq_write writeAssignment_eq_write ", " b (chs.filter Change.hasAssignment)

mutual

/-- Steps, the statements that changes carry and the steps inside them are walked together. -/
theorem writeStep_eq_write : ∀ (b : Builder) (s : Step), b.writeStep s = s.fragment.map b.write
  | _, .text _ => rfl
  | b, .arg a => by simp [writeStep, Step.fragment, Except.map]
  | b, .args as => by simp [writeStep, Step.fragment, Except.map]
  | b, .qualified c => by simp [writeStep, Step.fragment, Except.map]
  | b, .unqualified c => by simp [writeStep, Step.fragment, Except.map]
  | b, .columns cs => by simp [writeStep, Step.fragment, Except.map]
  | b, .columnsUnqualified cs => by simp [writeStep, Step.fragment, Except.map]
  | b, .condition k => by simp [writeStep, Step.fragment, Except.map]
  | b, .whereClause k => by simp [writeStep, Step.fragment, Except.map]
  | b, .options o => by simp [writeStep, Step.fragment, Except.map]
  | b, .set chs => by simp [writeStep, Step.fragment, Except.map]
  | b, .ctes chs => by rw [writeStep, Step.fragment, writeCtesFrom_eq_write]
  | b, .operation op c a => by simp [writeStep, Step.fragment, Except.map]
  | _, .fromTable _ => rfl
  | _, .wrong _ => rfl

theorem writeSteps_eq_write : ∀ (b : Builder) (steps : List Step),
    b.writeSteps steps = (Step.fragments steps).map b.write
  | _, [] => rfl
  | b, s :: steps => by
    rw [writeSteps, Step.fragments, writeStep_eq_write b s]
    cases s.fragment with
    | error m => rfl
    | ok f =>
      simp only [Except.map, writeSteps_eq_write (b.write f) steps]
      cases Step.fragments steps with
      | error m => rfl
      | ok g => simp

theorem writeCte_eq_write : ∀ (b : Builder) (ch : Change),
    b.writeCte ch = (Step.cteBody ch).map b.write
  | _, .set _ _ => rfl
  | _, .increment _ _ => rfl
  | _, .setJson _ _ _ => rfl
  | b, .cte body _ _ => by rw [writeCte, Step.cteBody, writeSteps_eq_write]

theorem writeCtesFrom_eq_write : ∀ (b : Builder) (position : Nat) (chs : Changes),
    b.writeCtesFrom position chs = (Step.ctesFrom position chs).map b.write
  | _, _, [] => rfl
  | b, position, ch :: chs => by
    rw [writeCtesFrom, Step.ctesFrom]
    split
    next =>
      rw [writeCte_eq_write _ ch]
      cases Step.cteBody ch with
      | error m => rfl
      | ok f =>
        simp only [Except.map, writeCtesFrom_eq_write _ (position + 1) chs]
        cases Step.ctesFrom (position + 1) chs with
        | error m => rfl
        | ok g => simp
    next => exact writeCtesFrom_eq_write b (position + 1) chs

end

end BoundSql.Builder
