import BoundSql.Error.Basic

namespace BoundSql.Error

variable {e part source rollback : Error} {k : ErrorKind}

/-- The errors that an error is joined from, the error itself among them. -/
inductive Part : Error → Error → Prop
  | whole (e : Error) : Part e e
  | source {part source : Error} (rollback : Error) :
      Part part source → Part part (rollbackFailed source rollback)
  | rollback {part rollback : Error} (source : Error) :
      Part part rollback → Part part (rollbackFailed source rollback)

/-- What an error counts as apart from its parts: its own kind, and a violated constraint also the
kind that stands for all of them. -/
def CountsAlone (e : Error) (k : ErrorKind) : Prop :=
  e.kind = k ∨ e.violation?.isSome = true ∧ k = .integrityViolation

/-- An error without what its parts go back to. -/
def bare : Error → Error
  | noRowFound _ => noRowFound none
  | integrity v _ => integrity v none
  | unknown _ => unknown (.foreign "" [])
  | cancelled _ => cancelled (.foreign "" [])
  | rollbackFailed source rollback => rollbackFailed (bare source) (bare rollback)
  | e => e

theorem is_rollbackFailed :
    (rollbackFailed source rollback).is k = true ↔
      k = .rollbackFailed ∨ source.is k = true ∨ rollback.is k = true := by
  simp [is, or_assoc]

theorem countsAlone_rollbackFailed :
    (rollbackFailed source rollback).CountsAlone k ↔ k = .rollbackFailed := by
  refine ⟨fun h => ?_, fun h => .inl h.symm⟩
  rcases h with h | ⟨h, -⟩
  · exact h.symm
  · cases h

theorem is_integrity (v : Violation) (cause : Option Cause) :
    (integrity v cause).is k = true ↔ (integrity v cause).CountsAlone k := by
  rw [is, Bool.or_eq_true, beq_iff_eq, beq_iff_eq]
  exact or_congr_right ⟨fun h => ⟨rfl, h⟩, And.right⟩

/-- An error that is neither a violated constraint nor joined counts as its kind only. -/
theorem is_of_single (hv : ∀ v cause, e = integrity v cause → False)
    (hj : ∀ source rollback, e = rollbackFailed source rollback → False) :
    e.is k = true ↔ e.CountsAlone k := by
  have hviolation : e.violation? = none := by
    cases e with
    | integrity v cause => exact (hv v cause rfl).elim
    | _ => rfl
  rw [is.eq_3 k e hv hj, beq_iff_eq, CountsAlone, hviolation]
  simp

theorem is_of_countsAlone (h : e.CountsAlone k) : e.is k = true := by
  cases e using is.fun_cases with
  | case1 v cause => exact (is_integrity v cause).mpr h
  | case2 source rollback => exact is_rollbackFailed.mpr (.inl (countsAlone_rollbackFailed.mp h))
  | case3 e hv hj => exact (is_of_single hv hj).mpr h

/-- To join an error with another takes no kind from it, however often it is done. -/
theorem is_of_part (hpart : Part part e) (h : part.is k = true) : e.is k = true := by
  induction hpart with
  | whole => exact h
  | source rollback _ ih => exact is_rollbackFailed.mpr (.inr (.inl ih))
  | rollback source _ ih => exact is_rollbackFailed.mpr (.inr (.inr ih))

theorem exists_part_of_is (h : e.is k = true) : ∃ part, Part part e ∧ part.CountsAlone k := by
  induction e using is.induct with
  | case1 v cause => exact ⟨_, .whole _, (is_integrity v cause).mp h⟩
  | case2 source rollback ihs ihr =>
    rcases is_rollbackFailed.mp h with hk | hs | hr
    · exact ⟨_, .whole _, countsAlone_rollbackFailed.mpr hk⟩
    · obtain ⟨part, hpart, halone⟩ := ihs hs
      exact ⟨part, .source rollback hpart, halone⟩
    · obtain ⟨part, hpart, halone⟩ := ihr hr
      exact ⟨part, .rollback source hpart, halone⟩
  | case3 e hv hj => exact ⟨e, .whole e, (is_of_single hv hj).mp h⟩

theorem is_bare (e : Error) (k : ErrorKind) : e.bare.is k = e.is k := by
  induction e using is.induct with
  | case1 v cause => rfl
  | case2 source rollback ihs ihr => rw [bare, is, is, ihs, ihr]
  | case3 e hv hj =>
    cases e with
    | integrity v cause => exact (hv v cause rfl).elim
    | rollbackFailed source rollback => exact (hj source rollback rfl).elim
    | _ => rfl

/-- A kind other than that of joined errors is found in them as in the two that are joined. -/
theorem is_join (hk : k ≠ .rollbackFailed) :
    (rollbackFailed source rollback).is k = (source.is k || rollback.is k) := by
  rw [Bool.eq_iff_iff, is_rollbackFailed, Bool.or_eq_true]
  exact or_iff_right hk

/-- An error counts as a kind if a part of it does so by itself, whatever its parts go back to. What
callers ask for is found in a joined error if and only if it is found in one of the two that are
joined, so that no failure of a rollback hides it. -/
theorem counts_as_its_parts (e : Error) :
    (∀ k, e.is k = true ↔ ∃ part, Part part e ∧ part.CountsAlone k) ∧
      (∀ k, e.bare.is k = e.is k) ∧
      ∀ other,
        (rollbackFailed e other).isNotFound = (e.isNotFound || other.isNotFound) ∧
        (rollbackFailed e other).isIntegrityViolation =
          (e.isIntegrityViolation || other.isIntegrityViolation) ∧
        (rollbackFailed e other).isUniqueViolation =
          (e.isUniqueViolation || other.isUniqueViolation) ∧
        (rollbackFailed e other).isTimeout = (e.isTimeout || other.isTimeout) := by
  refine ⟨fun k => ⟨exists_part_of_is, ?_⟩, is_bare e, fun other => ?_⟩
  · rintro ⟨part, hpart, halone⟩
    exact is_of_part hpart (is_of_countsAlone halone)
  · exact ⟨is_join nofun, is_join nofun, is_join nofun, is_join nofun⟩

/-- A timeout that a failure goes back to is not found, one that it is joined with is. -/
example (limit : Duration) :
    (unknown (.error (timeout limit))).isTimeout = false ∧
      (rollbackFailed noChanges (rollbackFailed (timeout limit) noChanges)).isTimeout = true :=
  ⟨rfl, rfl⟩

end BoundSql.Error
