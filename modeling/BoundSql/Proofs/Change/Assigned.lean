import BoundSql.Proofs.Change.Carried
import BoundSql.Proofs.Statement.Shown

namespace BoundSql

open Fragment

namespace Change

theorem shows_fragment_of_plain {ch : Change} (h : ch.isCte = false) : ch.fragment.Shows := by
  have hequals (f g : Fragment) : Shows (f ++ .text " = " :: g) :=
    shows_append.mpr (.inr (shows_text.mpr (.inl (by decide))))
  cases ch with
  | cte _ _ _ => cases h
  | set c a => exact hequals _ _
  | increment c source =>
    rw [fragment, List.append_assoc]
    exact hequals _ _
  | setJson c path value =>
    simp [fragment, shows_append, shows_text]

theorem shows_fragment_of_assigns {ch : Change} (h : ch.assignment?.isSome = true) :
    ch.fragment.Shows := by
  obtain ⟨a, ha⟩ := Option.isSome_iff_exists.mp h
  rw [fragment_eq_assignment, ha]
  exact shows_fragment_of_plain (plain_of_assignment? ha)

end Change

namespace Changes

theorem shows_fragment_iff {chs : Changes} :
    (Changes.fragment chs).Shows ↔ ∃ ch ∈ chs, ch.assignment?.isSome = true := by
  rw [Changes.fragment]
  cases hchs : chs.filter Change.hasAssignment with
  | nil =>
    have hnone := List.filter_eq_nil_iff.mp hchs
    simp only [Change.hasAssignment_eq_isSome] at hnone
    exact ⟨nofun, fun ⟨ch, hch, hsome⟩ => absurd hsome (hnone ch hch)⟩
  | cons ch rest =>
    obtain ⟨hch, hassigns⟩ : ch ∈ chs ∧ ch.hasAssignment = true :=
      List.mem_filter.mp (hchs ▸ List.mem_cons_self)
    rw [Change.hasAssignment_eq_isSome] at hassigns
    refine ⟨fun _ => ⟨ch, hch, hassigns⟩, fun _ => ?_⟩
    rw [List.map_cons, join, shows_append]
    exact .inl (Change.shows_fragment_of_assigns hassigns)

/-- A list is refused if nothing is in it, and something is written of it if one of its changes
assigns something, however many statements are around that. The two agree exactly if the list is
empty or has such a change: one of statements alone is let through and writes nothing. -/
theorem requireAny_iff_assigns (chs : Changes) (b : Builder) :
    ∃ s, (b.writeAssignments chs).sql = b.sql ++ s ∧
      (s ≠ "" ↔ ∃ ch ∈ chs, ch.assignment?.isSome = true) ∧
      (chs.requireAny = .error .noChanges ↔ chs = []) ∧
      (chs.requireAny = .ok () ↔ chs ≠ []) ∧
      ((chs.requireAny = .ok () ↔ s ≠ "") ↔
        chs = [] ∨ ∃ ch ∈ chs, ch.assignment?.isSome = true) := by
  obtain ⟨s, hsql, hshows⟩ := b.exists_sql_write (Changes.fragment chs)
  have hwrites : s ≠ "" ↔ ∃ ch ∈ chs, ch.assignment?.isSome = true :=
    hshows.trans shows_fragment_iff
  have hguard : chs.requireAny = .ok () ↔ chs ≠ [] := by
    cases chs with
    | nil => simp [requireAny]
    | cons ch rest => simp [requireAny]
  have hrefused : chs.requireAny = .error .noChanges ↔ chs = [] := by
    cases chs with
    | nil => simp [requireAny]
    | cons ch rest => simp [requireAny]
  refine ⟨s, by rw [Builder.writeAssignments_eq_write, hsql], hwrites, hrefused, hguard, ?_⟩
  rw [hguard, hwrites]
  by_cases h : chs = []
  · simp [h]
  · simp [h]

/-- An assignment inside two statements, behind a statement that has none. -/
def nestedAssignment : Changes :=
  [.cte [.text "DELETE FROM a"] 0 none, .cte [.text "DELETE FROM b"] 1
    (some (.cte [.text "DELETE FROM c"] 2 (some (.toNull (.named "t" "n")))))]

theorem nestedAssignment_let_through :
    nestedAssignment.requireAny = .ok () ∧
      ∃ s, ((Builder.start "UPDATE t SET ").writeAssignments nestedAssignment).sql =
        "UPDATE t SET " ++ s ∧ s ≠ "" ∧ s = "n = NULL" := by
  obtain ⟨s, hsql, hwrites, -, hguard, -⟩ :=
    requireAny_iff_assigns nestedAssignment (Builder.start "UPDATE t SET ")
  have htext : ((Builder.start "UPDATE t SET ").writeAssignments nestedAssignment).sql =
      "UPDATE t SET " ++ "n = NULL" := rfl
  refine ⟨hguard.mpr (List.cons_ne_nil _ _), s, hsql, hwrites.mpr ?_, ?_⟩
  · exact ⟨_, List.mem_cons_of_mem _ List.mem_cons_self, rfl⟩
  · exact (String.append_right_inj _).mp (hsql.symm.trans htext)

/-- Nothing is assigned, and nothing is refused. -/
theorem statement_alone_let_through :
    ∃ chs : Changes, chs = [.cte [.text "DELETE FROM t"] 0 none] ∧
      (∀ ch ∈ chs, ch.assignment? = none) ∧ chs.requireAny = .ok () ∧
      ((Builder.start "UPDATE t SET ").writeAssignments chs).sql = "UPDATE t SET " :=
  ⟨_, rfl, by simp [Change.assignment?, Change.optionalAssignment?], rfl, rfl⟩

end Changes

end BoundSql
