import BoundSql.Proofs.Database.Outcome

namespace BoundSql.Transaction

open Client

/-- The work at each savepoint of the open block, the newest one first. -/
def stack (g : Client Backend) : List (List Execution) :=
  (g.inner.database.block.map Block.savepoints).getD []

/-- Whether an action ends a savepoint by rolling it back. -/
def undoes {σ : Type} (s : State Unit σ) (a : Action) : Bool :=
  match s.scope with
  | .savepoint _ _ => a.rollsBack
  | _ => false

/-- How many savepoints were rolled back. -/
def undone {σ : Type} (past : List (Turn σ)) : Nat := past.countP fun τ => undoes τ.before τ.action

/-- What an action leaves on the stack: the savepoint that it rolls back. -/
def leaves (s : State Unit (Client Backend)) (a : Action) : List (List Execution) :=
  if undoes s a then (stack s.world).take 1 else []

def leftBehind (past : List (Turn (Client Backend))) : List (List Execution) :=
  past.flatMap fun τ => leaves τ.before τ.action

theorem stack_of_serving {g : Client Backend} {committed work : List Execution}
    {savepoints : List (List Execution)} (hg : Serving g ⟨committed, some ⟨work, savepoints⟩⟩) :
    stack g = savepoints := by
  rw [stack, hg.database_eq]
  rfl

/-- An open block, with the savepoints below the one that is open or abandoned. -/
inductive Stands (below : List (List Execution)) : State Unit (Client Backend) → Prop
  | idle {g : Client Backend} {committed work : List Execution}
      (hg : Serving g ⟨committed, some ⟨work, below⟩⟩) :
      Stands below ⟨.transaction () (idle false), g⟩
  | abandoned {g : Client Backend} {committed work saved : List Execution}
      (hg : Serving g ⟨committed, some ⟨work, saved :: below⟩⟩) :
      Stands below ⟨.transaction () (idle true), g⟩
  | nested {g : Client Backend} {committed work saved : List Execution}
      (hg : Serving g ⟨committed, some ⟨work, saved :: below⟩⟩) :
      Stands below ⟨.savepoint () nested, g⟩
  | outside {g : Client Backend} : Stands below ⟨.outside, g⟩

variable {below : List (List Execution)} {g g' : Client Backend} {b : Bool}
  {s s' : State Unit (Client Backend)} {a : Action} {r : Except Error Answer}

theorem Stands.settling {r : Except Error Unit}
    (h : Stands below ⟨.transaction () (Transaction.idle b), g⟩)
    (hs : settling Backend.client b g = (r, g')) :
    r = .ok () ∧ ∃ committed work, Serving g' ⟨committed, some ⟨work, below⟩⟩ := by
  cases h with
  | idle hg =>
    cases hs
    exact ⟨rfl, _, _, hg⟩
  | abandoned hg =>
    obtain ⟨hok, hg'⟩ := hg.send (Database.batch_settle _) hs
    exact ⟨hok, _, _, hg'⟩

/-- Only a savepoint that is rolled back adds to what lies below. -/
theorem Stands.move (h : Stands below s) (hm : Moves Backend.client s a r s') :
    Stands (leaves s a ++ below) s' := by
  cases hm with
  | unsettled ha hs =>
    obtain ⟨hok, -⟩ := h.settling hs
    cases hok
  | @run _ q _ _ hs =>
    obtain ⟨-, _, _, hg⟩ := h.settling hs
    obtain ⟨number, hg'⟩ := hg.run q
    exact .idle hg'
  | refused hs hb =>
    obtain ⟨-, _, _, hg⟩ := h.settling hs
    obtain ⟨hok, -⟩ := hg.send (Database.batch_savepoint _) hb
    cases hok
  | begun hs hb =>
    obtain ⟨-, _, _, hg⟩ := h.settling hs
    obtain ⟨-, hg'⟩ := hg.send (Database.batch_savepoint _) hb
    exact .nested hg'
  | undone | committed | rolledBack | dropped => exact .outside
  | described =>
    cases h with
    | idle hg => exact .idle hg
    | abandoned hg => exact .abandoned hg
  | @nestedRun q g =>
    cases h with
    | nested hg =>
      obtain ⟨number, hg'⟩ := hg.run q
      exact .nested hg'
  | nestedBegin | nestedDescribe =>
    cases h with
    | nested hg => exact .nested hg
  | @nestedCommit _ g _ _ ha hb =>
    cases h with
    | nested hg =>
      obtain ⟨-, hg'⟩ := hg.send (Database.batch_release _) hb
      have hleaves : leaves ⟨.savepoint () Transaction.nested, g⟩ a = [] := by
        simp [leaves, undoes, Action.rollsBack_of_commits ha]
      rw [hleaves]
      exact .idle hg'
  | @nestedRollback _ g _ _ ha hb =>
    cases h with
    | @nested _ _ _ saved hg =>
      -- going back to the savepoint leaves it in place
      obtain ⟨rfl, hg'⟩ := hg.send (Database.batch_rollbackTo _) hb
      have hleaves : leaves ⟨.savepoint () Transaction.nested, g⟩ a = [saved] := by
        simp [leaves, undoes, ha, stack_of_serving hg]
      rw [hleaves]
      exact .idle hg'
  | nestedDrop =>
    cases h with
    | nested hg => exact .abandoned hg

variable {g₀ : Client Backend} {past later : List (Turn (Client Backend))}

theorem Course.stands (h : Course Backend.client g₀ past s) (hr : g₀.inner.Reliable)
    (hg : g₀.inner.database.block = none ∨ g₀.abandoned = true) :
    Stands (leftBehind past) s := by
  refine h.invariant (P := fun past s => Stands (leftBehind past) s) ?_ ?_
  · intro o w hb
    exact .idle (send_begin hr hg o hb).2
  · intro past s a r s' _ hs hm
    exact hs.move hm

theorem Stands.length_leaves (h : Stands below s) (a : Action) :
    (leaves s a).length = if undoes s a then 1 else 0 := by
  cases h with
  | nested hg => cases ha : a.rollsBack <;> simp [leaves, undoes, ha, stack_of_serving hg]
  | idle | abandoned | outside => rfl

theorem Course.length_leftBehind (h : Course Backend.client g₀ past s) (hr : g₀.inner.Reliable)
    (hg : g₀.inner.database.block = none ∨ g₀.abandoned = true) :
    (leftBehind past).length = undone past := by
  refine h.invariant (P := fun past _ => (leftBehind past).length = undone past)
    (fun _ => rfl) ?_
  intro past s a r s' hcourse hpast _
  rw [leftBehind, List.flatMap_cons, List.length_append, (hcourse.stands hr hg).length_leaves a,
    undone, List.countP_cons, Nat.add_comm]
  exact congrArg (· + _) hpast

/-- What the server holds while a transaction goes on, given the savepoints below the one that is
open or abandoned. An abandoned one is gone once the next statement was sent. -/
structure Held (s : State Unit (Client Backend)) (below : List (List Execution)) : Prop where
  of_idle : s.scope = .transaction () (idle false) → stack s.world = below
  of_nested : s.scope = .savepoint () nested → ∃ saved, stack s.world = saved :: below
  of_abandoned : s.scope = .transaction () (idle true) →
    (∃ saved, stack s.world = saved :: below) ∧
    ∀ q : Run, (act Backend.client (.run q) s).2.scope = .transaction () (idle false) ∧
      stack (act Backend.client (.run q) s).2.world = below

theorem Stands.held (h : Stands below s) : Held s below := by
  cases h with
  | idle hg => exact ⟨fun _ => stack_of_serving hg, nofun, nofun⟩
  | nested hg => exact ⟨nofun, fun _ => ⟨_, stack_of_serving hg⟩, nofun⟩
  | @abandoned g _ _ _ hg =>
    refine ⟨nofun, nofun, fun _ => ⟨⟨_, stack_of_serving hg⟩, fun q => ?_⟩⟩
    rcases hs : Transaction.settling Backend.client true g with ⟨r, g₁⟩
    obtain ⟨rfl, _, _, hg₁⟩ := (Stands.abandoned hg).settling hs
    obtain ⟨number, hg'⟩ := hg₁.run q
    rw [act_run, hs]
    exact ⟨rfl, stack_of_serving hg'⟩
  | outside => exact ⟨nofun, nofun, nofun⟩

/-- From any state of a transaction to a later one, the stack of savepoints has grown by those that
were rolled back in between, and by no others. So a savepoint that was committed, or dropped and
settled, has left it as it found it, and without a rollback there is never more than one. -/
theorem Course.stack_restored_unless_rolledBack (hr : g₀.inner.Reliable)
    (hg : g₀.inner.database.block = none ∨ g₀.abandoned = true)
    (h : Course Backend.client g₀ past s) (h' : Course Backend.client g₀ (later ++ past) s') :
    ∃ below left, Held s below ∧ Held s' (left ++ below) ∧
      below.length = undone past ∧ left.length = undone later := by
  have hpast := h.length_leftBehind hr hg
  have hall := h'.length_leftBehind hr hg
  have happend : leftBehind (later ++ past) = leftBehind later ++ leftBehind past :=
    List.flatMap_append
  have hundone : undone (later ++ past) = undone later + undone past := List.countP_append
  have hheld := (h'.stands hr hg).held
  rw [happend] at hheld hall
  rw [List.length_append, hundone] at hall
  exact ⟨_, _, (h.stands hr hg).held, hheld, hpast, by omega⟩

/-- One savepoint is rolled back, and the next one is dropped: after the next statement the server
still holds the first. -/
theorem dropped_savepoint_settled_above :
    ∃ (past later : List (Turn (Client Backend))) (s s' : State Unit (Client Backend)),
      Course Backend.client newClient past s ∧ stack s.world = [] ∧
        Course Backend.client newClient (later ++ past) s' ∧
        s'.scope = .transaction () (idle true) ∧ (stack s'.world).length = 2 ∧
        ∀ q : Run, (stack (act Backend.client (.run q) s').2.world).length = 1 := by
  let b₁ := newClient.inner.take (.batch TransactionOptions.default.beginSql)
  let b₂ := b₁.take (.batch savepointSql)
  let b₃ := b₂.take (.batch rollbackToSql)
  let b₄ := b₃.take (.batch savepointSql)
  have hstart : start Backend.client .default newClient = (.ok (idle false), .ofInner b₁) := rfl
  have h₁ := Course.start hstart
  have h₂ := h₁.of_act nofun
    (rfl : act _ (.begin .default) _ = (.ok .done, ⟨.savepoint () nested, .ofInner b₂⟩))
  have h₃ := h₂.of_act nofun
    (rfl : act _ .rollback _ = (.ok .done, ⟨.transaction () (idle false), .ofInner b₃⟩))
  have h₄ := h₃.of_act nofun
    (rfl : act _ (.begin .default) _ = (.ok .done, ⟨.savepoint () nested, .ofInner b₄⟩))
  have h₅ := h₄.of_act nofun
    (rfl : act _ .drop _ = (.ok .done, ⟨.transaction () (idle true), .ofInner b₄⟩))
  have h₅' : Course Backend.client newClient ([_, _, _, _] ++ []) _ := h₅
  obtain ⟨below, left, hs, hs', hbelow, hleft⟩ :=
    Course.stack_restored_unless_rolledBack reliable_newClient (.inl rfl) h₁ h₅'
  have hlength : (left ++ below).length = 1 := by
    rw [List.length_append, hbelow, hleft]
    rfl
  obtain ⟨⟨saved, hstack⟩, hnext⟩ := hs'.of_abandoned rfl
  refine ⟨[], [_, _, _, _], _, _, h₁, rfl, h₅, rfl, ?_, fun q => ?_⟩
  · rw [hstack, List.length_cons, hlength]
  · rw [(hnext q).2, hlength]

/-- The three ways to end a savepoint: only a rollback leaves it on the server, and the next
savepoint is the second one there. -/
theorem rolledBack_savepoint_stays :
    ∃ (past : List (Turn (Client Backend))) (s : State Unit (Client Backend)) (q : Run),
      Course Backend.client newClient past s ∧ s.scope = .savepoint () nested ∧
        stack (act Backend.client .commit s).2.world = [] ∧
        stack (act Backend.client (.run q) (act Backend.client .drop s).2).2.world = [] ∧
        stack (act Backend.client .rollback s).2.world = [[]] ∧
        stack (act Backend.client (.begin .default) (act Backend.client .rollback s).2).2.world =
          [[], []] := by
  let b₁ := newClient.inner.take (.batch TransactionOptions.default.beginSql)
  let b₂ := b₁.take (.batch savepointSql)
  have hstart : start Backend.client .default newClient = (.ok (idle false), .ofInner b₁) := rfl
  have h₁ := (Course.start hstart).of_act nofun
    (rfl : act _ (.begin .default) _ = (.ok .done, ⟨.savepoint () nested, .ofInner b₂⟩))
  exact ⟨_, _, .exec "SELECT 1" [], h₁, rfl, rfl, rfl, rfl, rfl⟩

end BoundSql.Transaction
