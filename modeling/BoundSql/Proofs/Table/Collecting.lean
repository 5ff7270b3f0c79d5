import BoundSql.Proofs.Rows.Drawing
import BoundSql.Table.Results

namespace BoundSql.Results

variable {α : Type}

/-- What is drawn of all the rows that there are. A row that cannot be scanned does not end it, a
failure does. -/
def scanned (scan : Row → Except Error α) : List (Except Error Row) → List (Except Error α)
  | [] => []
  | .ok row :: is => scan row :: scanned scan is
  | .error e :: _ => [.error e]

/-- All that is still to be drawn. -/
def ahead (r : Results α) : List (Except Error α) :=
  if r.done then [] else scanned r.scan r.rows.toList

/-- The objects, unless there is an error among them; then the first one. -/
def gather : List (Except Error α) → Except Error (List α)
  | [] => .ok []
  | .error e :: _ => .error e
  | .ok a :: is => (gather is).map fun as => a :: as

variable {scan : Row → Except Error α} {r r' : Results α} {i : Except Error α}
  {is js : List (Except Error α)}

theorem next_of_ahead_nil (h : r.ahead = []) : r.next.1 = none ∧ r.next.2.ahead = [] := by
  obtain ⟨rows, scan, done⟩ := r
  cases done with
  | true => exact ⟨rfl, rfl⟩
  | false =>
    have hrows : rows.next.1 = none := by
      refine Rows.toList_eq_nil_iff.mp ?_
      rcases hlist : rows.toList with _ | ⟨_ | row, is⟩
      · rfl
      · simp [ahead, hlist, scanned] at h
      · simp [ahead, hlist, scanned] at h
    rcases hnext : rows.next with ⟨_ | _, rows'⟩
    · simp [next, hnext, ahead]
    · simp [hnext] at hrows

theorem next_of_ahead_cons (h : r.ahead = i :: is) :
    ∃ r', r.next = (some i, r') ∧ r'.ahead = is := by
  obtain ⟨rows, scan, done⟩ := r
  cases done with
  | true => cases h
  | false =>
    have hahead : scanned scan rows.toList = i :: is := h
    rcases hlist : rows.toList with _ | ⟨e | row, rest⟩
    · rw [hlist] at hahead
      cases hahead
    · obtain ⟨rows', hnext⟩ := Rows.next_of_toList_error hlist
      rw [hlist] at hahead
      cases hahead
      exact ⟨⟨rows', scan, true⟩, by simp [next, hnext], rfl⟩
    · obtain ⟨rows', hnext, hrest⟩ := Rows.next_of_toList_ok hlist
      rw [hlist] at hahead
      cases hahead
      exact ⟨⟨rows', scan, false⟩, by simp [next, hnext], by simp [ahead, hrest]⟩

/-- What has been drawn came first in what there was to draw. -/
theorem ahead_of_drawn (h : Drawn next r is r') : r.ahead = is ++ r'.ahead := by
  induction h with
  | nil => rfl
  | @cons r r₁ r' i is hnext _ ih =>
    cases hahead : r.ahead with
    | nil =>
      have hnone := (next_of_ahead_nil hahead).1
      rw [hnext] at hnone
      cases hnone
    | cons j js =>
      obtain ⟨r₂, hnext', hjs⟩ := next_of_ahead_cons hahead
      obtain ⟨hij, rfl⟩ := Prod.mk.inj (hnext.symm.trans hnext')
      rw [Option.some.inj hij, ← hjs, ih]
      rfl

theorem drawn_of_ahead (h : r.ahead = is ++ js) : ∃ r', Drawn next r is r' ∧ r'.ahead = js := by
  induction is generalizing r with
  | nil => exact ⟨r, .nil r, h⟩
  | cons i is ih =>
    obtain ⟨r₁, hnext, hrest⟩ := next_of_ahead_cons h
    obtain ⟨r', hs, hr'⟩ := ih hrest
    exact ⟨r', .cons hnext hs, hr'⟩

/-- Once there is nothing more to draw there never is. -/
theorem silent_forever (h : r.ahead = []) (n : Nat) :
    (Nat.repeat (fun r : Results α => r.next.2) n r).next.1 = none := by
  have hahead : (Nat.repeat (fun r : Results α => r.next.2) n r).ahead = [] := by
    induction n with
    | zero => exact h
    | succ n ih => exact (next_of_ahead_nil ih).2
  exact (next_of_ahead_nil hahead).1

theorem collectItems_eq_gather (scan : Row → Except Error α) (is : List (Except Error Row)) :
    collectItems scan is = gather (scanned scan is) := by
  induction is with
  | nil => rfl
  | cons i is ih =>
    cases i with
    | error e => rfl
    | ok row =>
      rw [collectItems, scanned, ih]
      cases scan row with
      | error e => rfl
      | ok a =>
        dsimp only [gather]
        cases gather (scanned scan is) <;> rfl

theorem gather_eq_nil_iff : gather is = .ok [] ↔ is = [] := by
  rcases is with _ | ⟨e | a, is⟩
  · simp [gather]
  · simp [gather]
  · cases h : gather is <;> simp [gather, h, Except.map]

theorem scanned_eq_nil_iff {is : List (Except Error Row)} : scanned scan is = [] ↔ is = [] := by
  rcases is with _ | ⟨e | row, is⟩ <;> simp [scanned]

/-- From any state, collecting gives what is still to be drawn, unless drawing has come to its end
and the connection has more rows or failures. -/
theorem collect_eq_gather_iff (r : Results α) :
    r.collect = gather r.ahead ↔ r.done = false ∨ r.rows.toList = [] := by
  rw [collect, collectItems_eq_gather, ahead]
  cases r.done with
  | false => simp
  | true =>
    rw [if_pos rfl]
    exact gather_eq_nil_iff.trans (scanned_eq_nil_iff.trans (by simp))

/-- What is drawn of a run of rows, and what is still to be drawn, is one object or error for each
row up to the first failure, and the failure. What is still to be drawn can be drawn, and after it
nothing more, however often it is tried. From any point on, collecting gives it up to the first
error among it, unless drawing has come to its end before the rows have. -/
theorem collected_after_drawing {rows : Rows} (h : Drawn next (ofRows scan rows) is r) :
    is ++ r.ahead = scanned scan rows.toList ∧
      (∃ r', Drawn next r r.ahead r' ∧
        ∀ n, (Nat.repeat (fun r : Results α => r.next.2) n r').next.1 = none) ∧
      (r.collect = gather r.ahead ↔ r.done = false ∨ r.rows.toList = []) := by
  refine ⟨(ahead_of_drawn h).symm, ?_, collect_eq_gather_iff r⟩
  obtain ⟨r', hdrawn, hr'⟩ := drawn_of_ahead (List.append_nil r.ahead).symm
  exact ⟨r', hdrawn, silent_forever hr'⟩

/-- A row behind a failure: after the failure was drawn there is nothing more to draw, and the row
is collected. -/
theorem row_collected_behind_failure :
    ∃ r : Results Unit,
      Drawn next (ofRows (fun _ => .ok ()) (.ofList [.error .noChanges, .ok ⟨[], []⟩]))
        [.error .noChanges] r ∧ r.ahead = [] ∧ r.next.1 = none ∧ r.collect = .ok [()] :=
  ⟨_, .cons rfl (.nil _), rfl, rfl, rfl⟩

end BoundSql.Results
