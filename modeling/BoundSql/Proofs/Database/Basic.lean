import BoundSql.Transaction.Basic
/-!
Within a block each savepoint keeps the work as it was; going back to the newest one restores it and
leaves it in place. Statements of callers are opaque: they control no transaction.
-/

namespace BoundSql

/-- A statement that was executed, with the number of the request that brought it. -/
structure Execution where
  number : Nat
  sql : String
  args : List Value

/-- An open block: its work, and the work at each of its savepoints, the newest one first. -/
structure Block where
  work : List Execution
  savepoints : List (List Execution)

structure Database where
  committed : List Execution
  block : Option Block

namespace Database

inductive Command where
  | begin
  | commit
  | rollback
  | savepoint
  | release
  | rollbackTo
  deriving DecidableEq

/-- What a command leaves, unless it fails. Beginning a block twice and ending one that is not open
do nothing. -/
def Command.run : Command → Database → Option Database
  | begin, ⟨done, none⟩ => some ⟨done, some ⟨[], []⟩⟩
  | commit, ⟨done, some k⟩ => some ⟨done ++ k.work, none⟩
  | rollback, ⟨done, _⟩ => some ⟨done, none⟩
  | savepoint, ⟨done, some k⟩ => some ⟨done, some ⟨k.work, k.work :: k.savepoints⟩⟩
  | release, ⟨done, some ⟨work, _ :: older⟩⟩ => some ⟨done, some ⟨work, older⟩⟩
  | rollbackTo, ⟨done, some ⟨_, saved :: older⟩⟩ => some ⟨done, some ⟨saved, saved :: older⟩⟩
  | begin, d | commit, d => some d
  | savepoint, _ | release, _ | rollbackTo, _ => none

def commands (sql : String) : Option (List Command) :=
  if sql = Transaction.settleSql then some [.rollbackTo, .release]
  else if sql = Transaction.rollbackToSql then some [.rollbackTo]
  else if sql = Transaction.releaseSql then some [.release]
  else if sql = Transaction.savepointSql then some [.savepoint]
  else if sql = "COMMIT" then some [.commit]
  else if sql = "ROLLBACK" then some [.rollback]
  else if sql.toList.take 6 = "BEGIN ".toList then some [.begin]
  else none

/-- A batch runs as a whole or not at all. -/
def batch (sql : String) (d : Database) : Option Database :=
  (commands sql).bind (List.foldlM (fun d command => command.run d) d)

/-- A statement joins the work of the open block. Without one it is committed by itself. -/
def execute (x : Execution) : Database → Database
  | ⟨done, some k⟩ => ⟨done, some ⟨k.work ++ [x], k.savepoints⟩⟩
  | ⟨done, none⟩ => ⟨done ++ [x], none⟩

theorem batch_of_commands {sql : String} {command : Command} (h : commands sql = some [command])
    (d : Database) : d.batch sql = command.run d := by
  simp [batch, h, List.foldlM]

theorem commands_begin (o : TransactionOptions) : commands o.beginSql = some [.begin] := by
  rcases o with ⟨_ | _ | _, _ | _⟩ <;> decide

@[simp] theorem batch_begin (o : TransactionOptions) (d : Database) :
    d.batch o.beginSql = Command.begin.run d :=
  batch_of_commands (commands_begin o) d

@[simp] theorem batch_commit (d : Database) : d.batch "COMMIT" = Command.commit.run d :=
  batch_of_commands (by decide) d

@[simp] theorem batch_rollback (d : Database) : d.batch "ROLLBACK" = Command.rollback.run d :=
  batch_of_commands (by decide) d

@[simp] theorem batch_savepoint (d : Database) :
    d.batch Transaction.savepointSql = Command.savepoint.run d :=
  batch_of_commands (by decide) d

@[simp] theorem batch_release (d : Database) :
    d.batch Transaction.releaseSql = Command.release.run d :=
  batch_of_commands (by decide) d

@[simp] theorem batch_rollbackTo (d : Database) :
    d.batch Transaction.rollbackToSql = Command.rollbackTo.run d :=
  batch_of_commands (by decide) d

@[simp] theorem batch_settle (d : Database) :
    d.batch Transaction.settleSql = (Command.rollbackTo.run d).bind Command.release.run := by
  have hc : commands Transaction.settleSql = some [.rollbackTo, .release] := by decide
  simp [batch, hc, List.foldlM]

variable {d d' : Database} {x : Execution}

theorem isSome_of_run_begin (h : Command.begin.run d = some d') : d'.block.isSome := by
  rcases d with ⟨done, _ | k⟩ <;> cases h <;> rfl

theorem of_run_savepoint (h : Command.savepoint.run d = some d') :
    ∃ done k, d = ⟨done, some k⟩ ∧ d' = ⟨done, some ⟨k.work, k.work :: k.savepoints⟩⟩ := by
  rcases d with ⟨done, _ | k⟩ <;> cases h
  exact ⟨done, k, rfl, rfl⟩

theorem of_run_release (h : Command.release.run d = some d') :
    ∃ done work saved older, d = ⟨done, some ⟨work, saved :: older⟩⟩ ∧
      d' = ⟨done, some ⟨work, older⟩⟩ := by
  rcases d with ⟨done, _ | ⟨work, _ | ⟨saved, older⟩⟩⟩ <;> cases h
  exact ⟨done, work, saved, older, rfl, rfl⟩

theorem of_run_rollbackTo (h : Command.rollbackTo.run d = some d') :
    ∃ done work saved older, d = ⟨done, some ⟨work, saved :: older⟩⟩ ∧
      d' = ⟨done, some ⟨saved, saved :: older⟩⟩ := by
  rcases d with ⟨done, _ | ⟨work, _ | ⟨saved, older⟩⟩⟩ <;> cases h
  exact ⟨done, work, saved, older, rfl, rfl⟩

theorem of_batch_settle (h : d.batch Transaction.settleSql = some d') :
    ∃ done work saved older, d = ⟨done, some ⟨work, saved :: older⟩⟩ ∧
      d' = ⟨done, some ⟨saved, older⟩⟩ := by
  rw [batch_settle] at h
  obtain ⟨d₁, h₁, h₂⟩ := Option.bind_eq_some_iff.mp h
  obtain ⟨done, work, saved, older, rfl, rfl⟩ := of_run_rollbackTo h₁
  cases h₂
  exact ⟨done, work, saved, older, rfl, rfl⟩

def Works (d : Database) (x : Execution) : Prop := ∃ k, d.block = some k ∧ x ∈ k.work

/-- Whether a statement is committed, or part of the work at a savepoint. -/
def Saves (d : Database) (x : Execution) : Prop :=
  x ∈ d.committed ∨ ∃ k, d.block = some k ∧ ∃ saved ∈ k.savepoints, x ∈ saved

def Holds (d : Database) (x : Execution) : Prop := d.Works x ∨ d.Saves x

variable {done : List Execution} {k : Block}

@[simp] theorem works_none : ¬ Works ⟨done, none⟩ x := by
  simp [Works]

@[simp] theorem works_some : Works ⟨done, some k⟩ x ↔ x ∈ k.work := by
  simp [Works]

@[simp] theorem saves_none : Saves ⟨done, none⟩ x ↔ x ∈ done := by
  simp [Saves]

@[simp] theorem saves_some :
    Saves ⟨done, some k⟩ x ↔ x ∈ done ∨ ∃ saved ∈ k.savepoints, x ∈ saved := by
  simp [Saves]

theorem works_of_savepoint (h : Command.savepoint.run d = some d') : d'.Works x ↔ d.Works x := by
  obtain ⟨done, k, rfl, rfl⟩ := of_run_savepoint h
  simp

theorem saves_of_savepoint (h : Command.savepoint.run d = some d') :
    d'.Saves x ↔ d.Works x ∨ d.Saves x := by
  obtain ⟨done, k, rfl, rfl⟩ := of_run_savepoint h
  simp only [saves_some, works_some, List.mem_cons, exists_eq_or_imp]
  exact or_left_comm

theorem works_of_release (h : Command.release.run d = some d') : d'.Works x ↔ d.Works x := by
  obtain ⟨done, work, saved, older, rfl, rfl⟩ := of_run_release h
  simp

theorem saves_of_release (h : Command.release.run d = some d') (hx : d'.Saves x) : d.Saves x := by
  obtain ⟨done, work, saved, older, rfl, rfl⟩ := of_run_release h
  simp only [saves_some, List.mem_cons, exists_eq_or_imp] at hx ⊢
  exact hx.imp_right .inr

theorem saves_of_works_rollbackTo (h : Command.rollbackTo.run d = some d') (hx : d'.Works x) :
    d.Saves x := by
  obtain ⟨done, work, saved, older, rfl, rfl⟩ := of_run_rollbackTo h
  exact saves_some.mpr (.inr ⟨saved, List.mem_cons_self, works_some.mp hx⟩)

theorem saves_of_rollbackTo (h : Command.rollbackTo.run d = some d') : d'.Saves x ↔ d.Saves x := by
  obtain ⟨done, work, saved, older, rfl, rfl⟩ := of_run_rollbackTo h
  simp

theorem saves_of_works_settle (h : d.batch Transaction.settleSql = some d') (hx : d'.Works x) :
    d.Saves x := by
  obtain ⟨done, work, saved, older, rfl, rfl⟩ := of_batch_settle h
  exact saves_some.mpr (.inr ⟨saved, List.mem_cons_self, works_some.mp hx⟩)

theorem saves_of_settle (h : d.batch Transaction.settleSql = some d') (hx : d'.Saves x) :
    d.Saves x := by
  obtain ⟨done, work, saved, older, rfl, rfl⟩ := of_batch_settle h
  simp only [saves_some, List.mem_cons, exists_eq_or_imp] at hx ⊢
  exact hx.imp_right .inr

/-- Commands bring no statements. -/
theorem Command.holds_of_run {command : Command} (h : command.run d = some d') (hx : d'.Holds x) :
    d.Holds x := by
  cases command with
  | begin =>
    rcases d with ⟨done, _ | k⟩ <;> cases h
    · simpa [Holds] using hx
    · exact hx
  | commit =>
    rcases d with ⟨done, _ | k⟩ <;> cases h
    · exact hx
    · rcases hx with hx | hx
      · exact absurd hx works_none
      · rcases List.mem_append.mp (saves_none.mp hx) with hx | hx
        · exact .inr (.inl hx)
        · exact .inl (works_some.mpr hx)
  | rollback =>
    cases h
    rcases hx with hx | hx
    · exact absurd hx works_none
    · exact .inr (.inl (saves_none.mp hx))
  | savepoint =>
    rcases hx with hx | hx
    · exact .inl ((works_of_savepoint h).mp hx)
    · exact (saves_of_savepoint h).mp hx
  | release =>
    rcases hx with hx | hx
    · exact .inl ((works_of_release h).mp hx)
    · exact .inr (saves_of_release h hx)
  | rollbackTo =>
    rcases hx with hx | hx
    · exact .inr (saves_of_works_rollbackTo h hx)
    · exact .inr ((saves_of_rollbackTo h).mp hx)

theorem isSome_execute {y : Execution} (hd : d.block.isSome) : (d.execute y).block.isSome := by
  rcases d with ⟨done, _ | k⟩
  · exact hd
  · rfl

theorem works_execute {y : Execution} (h : (d.execute y).Works x) : d.Works x ∨ x = y := by
  rcases d with ⟨done, _ | k⟩
  · exact absurd h works_none
  · simpa [execute] using h

theorem saves_execute {y : Execution} (hd : d.block.isSome) :
    (d.execute y).Saves x ↔ d.Saves x := by
  rcases d with ⟨done, _ | k⟩
  · cases hd
  · simp [execute]

theorem holds_execute {y : Execution} (h : (d.execute y).Holds x) : d.Holds x ∨ x = y := by
  rcases d with ⟨done, _ | k⟩
  · simpa [Holds, execute] using h
  · rcases h with h | h
    · exact (works_execute h).imp_left .inl
    · exact .inl (.inr ((saves_execute rfl).mp h))

theorem of_commands {P : Database → Prop} {cs : List Command}
    (hrun : ∀ {command : Command} {d d' : Database}, command ∈ cs → command.run d = some d' →
      P d → P d')
    (h : cs.foldlM (fun d command => Command.run command d) d = some d') (hd : P d) : P d' := by
  induction cs generalizing d with
  | nil =>
    obtain rfl : d = d' := by simpa using h
    exact hd
  | cons command cs ih =>
    obtain ⟨d₁, h₁, h₂⟩ := Option.bind_eq_some_iff.mp h
    exact ih (fun hmem => hrun (List.mem_cons_of_mem command hmem)) h₂
      (hrun List.mem_cons_self h₁ hd)

theorem of_batch {P : Database → Prop}
    (hrun : ∀ {command : Command} {d d' : Database}, command.run d = some d' → P d → P d')
    {sql : String} (h : d.batch sql = some d') (hd : P d) : P d' := by
  obtain ⟨cs, -, hcs⟩ := Option.bind_eq_some_iff.mp h
  exact of_commands (fun _ => hrun) hcs hd

/-- The work of the block holds that at each savepoint, and that at a savepoint holds that at the
older ones. -/
def Nested (d : Database) : Prop :=
  ∀ k, d.block = some k → (k.work :: k.savepoints).Pairwise fun newer older => older ⊆ newer

@[simp] theorem nested_none : Nested ⟨done, none⟩ := by
  intro k hk
  simp at hk

theorem nested_some :
    Nested ⟨done, some k⟩ ↔ (k.work :: k.savepoints).Pairwise fun newer older => older ⊆ newer := by
  simp [Nested]

theorem Nested.savepoint (h : Nested ⟨done, some k⟩) :
    Nested ⟨done, some ⟨k.work, k.work :: k.savepoints⟩⟩ := by
  rw [nested_some] at h ⊢
  refine List.pairwise_cons.mpr ⟨?_, h⟩
  intro older hm
  rcases List.mem_cons.mp hm with rfl | hm
  · exact List.Subset.refl _
  · exact (List.pairwise_cons.mp h).1 older hm

theorem Nested.execute (h : d.Nested) (y : Execution) : (d.execute y).Nested := by
  rcases d with ⟨done, _ | k⟩
  · exact nested_none
  · obtain ⟨hwork, hold⟩ := List.pairwise_cons.mp (nested_some.mp h)
    refine nested_some.mpr (List.pairwise_cons.mpr ⟨?_, hold⟩)
    intro older hm z hz
    exact List.mem_append_left _ (hwork older hm hz)

theorem Command.nested_of_run {command : Command} (h : command.run d = some d') (hd : d.Nested) :
    d'.Nested := by
  cases command with
  | begin =>
    rcases d with ⟨done, _ | k⟩ <;> cases h
    · exact nested_some.mpr (List.pairwise_singleton _ _)
    · exact hd
  | commit =>
    rcases d with ⟨done, _ | k⟩ <;> cases h
    · exact hd
    · exact nested_none
  | rollback =>
    cases h
    exact nested_none
  | savepoint =>
    obtain ⟨done, k, rfl, rfl⟩ := of_run_savepoint h
    exact hd.savepoint
  | release =>
    obtain ⟨done, work, saved, older, rfl, rfl⟩ := of_run_release h
    have hsub : (work :: older).Sublist (work :: saved :: older) :=
      List.Sublist.cons_cons work (List.sublist_cons_self saved older)
    exact nested_some.mpr ((nested_some.mp hd).sublist hsub)
  | rollbackTo =>
    obtain ⟨done, work, saved, older, rfl, rfl⟩ := of_run_rollbackTo h
    have hs : Nested ⟨done, some ⟨saved, older⟩⟩ :=
      nested_some.mpr (List.pairwise_cons.mp (nested_some.mp hd)).2
    exact hs.savepoint

end Database

end BoundSql
