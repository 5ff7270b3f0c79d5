import BoundSql.Connection

namespace BoundSql

/-- Items drawn from a source one after the other, and what is left of it. -/
inductive Drawn {ρ ι : Type} (next : ρ → Option ι × ρ) : ρ → List ι → ρ → Prop
  | nil (r : ρ) : Drawn next r [] r
  | cons {r r' r'' : ρ} {i : ι} {is : List ι} (h : next r = (some i, r'))
      (hs : Drawn next r' is r'') : Drawn next r (i :: is) r''

namespace Drawn

variable {ρ ι : Type} {next : ρ → Option ι × ρ} {r r' r'' : ρ} {i : ι} {is js : List ι}

theorem cons_iff : Drawn next r (i :: is) r'' ↔
    ∃ r', next r = (some i, r') ∧ Drawn next r' is r'' := by
  constructor
  · rintro (_ | ⟨h, hs⟩)
    exact ⟨_, h, hs⟩
  · rintro ⟨r', h, hs⟩
    exact .cons h hs

theorem append (h : Drawn next r is r') (h' : Drawn next r' js r'') :
    Drawn next r (is ++ js) r'' := by
  induction h with
  | nil => exact h'
  | cons hnext _ ih => exact .cons hnext (ih h')

theorem split (h : Drawn next r (is ++ js) r'') :
    ∃ r', Drawn next r is r' ∧ Drawn next r' js r'' := by
  induction is generalizing r with
  | nil => exact ⟨r, .nil r, h⟩
  | cons i is ih =>
    obtain ⟨r₁, hnext, hs⟩ := cons_iff.mp h
    obtain ⟨r', his, hjs⟩ := ih hs
    exact ⟨r', .cons hnext his, hjs⟩

end Drawn

namespace Rows

/-- These items can be drawn, and no more. -/
def Delivers (r : Rows) (is : List (Except Error Row)) : Prop :=
  ∃ r', Drawn next r is r' ∧ r'.next.1 = none

/-- The first failure comes after these rows. -/
def FailsAfter (r : Rows) (rows : List Row) (e : Error) : Prop :=
  ∃ r', Drawn next r (rows.map .ok ++ [.error e]) r'

variable {r r' : Rows} {row : Row} {rows : List Row} {e : Error} {is : List (Except Error Row)}

/-! What is drawn next is what comes first in the list of all that there is. -/

theorem toList_eq_nil_iff : r.toList = [] ↔ r.next.1 = none := by
  obtain ⟨items, ending, arrival⟩ := r
  cases items <;> cases ending <;> simp [toList, next]

theorem toList_of_next_ok (h : r.next = (some (.ok row), r')) :
    r.toList = .ok row :: r'.toList := by
  obtain ⟨items, ending, arrival⟩ := r
  cases items with
  | nil => cases ending <;> cases h
  | cons i items =>
    cases h
    cases ending <;> rfl

theorem toList_of_next_error (h : r.next = (some (.error e), r')) :
    ∃ is, r.toList = .error e :: is := by
  obtain ⟨items, ending, arrival⟩ := r
  cases items with
  | nil =>
    cases ending with
    | none => cases h
    | some e =>
      cases h
      exact ⟨[], rfl⟩
  | cons i items =>
    cases h
    cases ending <;> exact ⟨_, rfl⟩

theorem next_of_toList_ok (h : r.toList = .ok row :: is) :
    ∃ r', r.next = (some (.ok row), r') ∧ r'.toList = is := by
  rcases hnext : r.next with ⟨_ | e | row', r'⟩
  · rw [toList_eq_nil_iff.mpr (congrArg Prod.fst hnext)] at h
    cases h
  · obtain ⟨is', his⟩ := toList_of_next_error hnext
    rw [his] at h
    cases h
  · rw [toList_of_next_ok hnext] at h
    obtain ⟨hrow, his⟩ := List.cons.inj h
    obtain rfl := Except.ok.inj hrow
    exact ⟨r', rfl, his⟩

theorem next_of_toList_error (h : r.toList = .error e :: is) :
    ∃ r', r.next = (some (.error e), r') := by
  rcases hnext : r.next with ⟨_ | e' | row, r'⟩
  · rw [toList_eq_nil_iff.mpr (congrArg Prod.fst hnext)] at h
    cases h
  · obtain ⟨is', his⟩ := toList_of_next_error hnext
    rw [his] at h
    obtain rfl := Except.error.inj (List.cons.inj h).1
    exact ⟨r', rfl⟩
  · rw [toList_of_next_ok hnext] at h
    cases h

theorem toList_of_drawn (h : Drawn next r (rows.map .ok) r') :
    r.toList = rows.map .ok ++ r'.toList := by
  induction rows generalizing r with
  | nil =>
    cases h
    rfl
  | cons row rows ih =>
    obtain ⟨r₁, hnext, hs⟩ := Drawn.cons_iff.mp h
    rw [toList_of_next_ok hnext, ih hs]
    rfl

theorem drawn_of_toList (h : r.toList = rows.map .ok ++ is) :
    ∃ r', Drawn next r (rows.map .ok) r' ∧ r'.toList = is := by
  induction rows generalizing r with
  | nil => exact ⟨r, .nil r, h⟩
  | cons row rows ih =>
    obtain ⟨r₁, hnext, hrest⟩ := next_of_toList_ok h
    obtain ⟨r', hs, hr'⟩ := ih hrest
    exact ⟨r', .cons hnext hs, hr'⟩

theorem delivers_iff : r.Delivers (rows.map .ok) ↔ r.toList = rows.map .ok := by
  constructor
  · rintro ⟨r', hs, hend⟩
    rw [toList_of_drawn hs, toList_eq_nil_iff.mpr hend, List.append_nil]
  · intro h
    obtain ⟨r', hs, hr'⟩ := drawn_of_toList (h.trans (List.append_nil _).symm)
    exact ⟨r', hs, toList_eq_nil_iff.mp hr'⟩

theorem failsAfter_iff : r.FailsAfter rows e ↔ ∃ is, r.toList = rows.map .ok ++ .error e :: is := by
  constructor
  · rintro ⟨r'', h⟩
    obtain ⟨r', hs, hlast⟩ := h.split
    obtain ⟨r₁, hnext, -⟩ := Drawn.cons_iff.mp hlast
    obtain ⟨is, his⟩ := toList_of_next_error hnext
    exact ⟨is, by rw [toList_of_drawn hs, his]⟩
  · rintro ⟨is, h⟩
    obtain ⟨r', hs, hr'⟩ := drawn_of_toList h
    obtain ⟨r'', hnext⟩ := next_of_toList_error hr'
    exact ⟨r'', hs.append (.cons hnext (.nil r''))⟩

/-- Items are rows only, or rows up to a failure. -/
theorem exists_rows (is : List (Except Error Row)) :
    (∃ rows : List Row, is = rows.map .ok) ∨
      ∃ (rows : List Row) (e : Error) (rest : List (Except Error Row)),
        is = rows.map .ok ++ .error e :: rest := by
  induction is with
  | nil => exact .inl ⟨[], rfl⟩
  | cons i is ih =>
    cases i with
    | error e => exact .inr ⟨[], e, is, rfl⟩
    | ok row =>
      rcases ih with ⟨rows, rfl⟩ | ⟨rows, e, rest, rfl⟩
      · exact .inl ⟨row :: rows, rfl⟩
      · exact .inr ⟨row :: rows, e, rest, rfl⟩

theorem delivers_or_fails (r : Rows) :
    (∃ rows : List Row, r.Delivers (rows.map .ok)) ∨ ∃ rows e, r.FailsAfter rows e := by
  rcases exists_rows r.toList with ⟨rows, h⟩ | ⟨rows, e, rest, h⟩
  · exact .inl ⟨rows, delivers_iff.mpr h⟩
  · exact .inr ⟨rows, e, failsAfter_iff.mpr ⟨rest, h⟩⟩

theorem countItems_rows (n : Nat) (rows : List Row) (is : List (Except Error Row)) :
    countItems n (rows.map .ok ++ is) = countItems (n + rows.length) is := by
  induction rows generalizing n with
  | nil => rfl
  | cons row rows ih =>
    rw [List.map_cons, List.cons_append, countItems, ih, List.length_cons, Nat.add_right_comm]
    rfl

theorem exactlyOne_of_failsAfter (h : r.FailsAfter rows e) : r.exactlyOne = .error e := by
  obtain ⟨is, his⟩ := failsAfter_iff.mp h
  cases rows with
  | nil => simp [exactlyOne, his]
  | cons row rows => simp [exactlyOne, his, countItems_rows, countItems]

/-- The number of rows decides, if there is no failure. -/
theorem exactlyOne_of_delivers (h : r.Delivers (rows.map .ok)) :
    r.exactlyOne = match rows with
      | [] => .error (.noRowFound none)
      | [row] => .ok row
      | rows => .error (.multipleRowsFound (some rows.length)) := by
  have hlist := delivers_iff.mp h
  cases rows with
  | nil => simp [exactlyOne, hlist]
  | cons row more =>
    have hcount : countItems 1 (more.map .ok) = .ok (more.length + 1) := by
      rw [← List.append_nil (more.map _), countItems_rows, countItems, Nat.add_comm]
    cases more with
    | nil => simp [exactlyOne, hlist, countItems]
    | cons row' more =>
      have hseveral : 1 < (row' :: more).length + 1 := Nat.succ_lt_succ (Nat.succ_pos _)
      rw [List.map_cons] at hlist
      simp only [exactlyOne, hlist, hcount]
      exact if_pos hseveral

theorem exactlyOne_eq_ok_iff : r.exactlyOne = .ok row ↔ r.Delivers [.ok row] := by
  constructor
  · intro h
    rcases r.delivers_or_fails with ⟨rows, hrows⟩ | ⟨rows, e, hfails⟩
    · rw [exactlyOne_of_delivers hrows] at h
      match rows with
      | [] => cases h
      | [row'] =>
        obtain rfl := Except.ok.inj h
        exact hrows
      | _ :: _ :: _ => cases h
    · rw [exactlyOne_of_failsAfter hfails] at h
      cases h
  · intro h
    have hrow : r.Delivers ([row].map .ok) := h
    exact exactlyOne_of_delivers hrow

/-- A run that asks for one row answers with it if the query is answered with rows and they are
that one. -/
theorem run_queryRow_eq_ok_iff {σ : Type} (x : Executor σ) (sql : String) (args : List Value)
    (w : σ) : (x.run (.queryRow sql args) w).1 = .ok (.row row) ↔
      ∃ rows w', x.query sql args w = (.ok rows, w') ∧ rows.Delivers [.ok row] := by
  simp only [Executor.run, Executor.reading]
  rcases x.query sql args w with ⟨e | rows, w'⟩
  · simp
  · have hrow : rows.exactlyOne.map Answer.row = .ok (.row row) ↔ rows.exactlyOne = .ok row := by
      cases rows.exactlyOne <;> simp [Except.map]
    simp [hrow, exactlyOne_eq_ok_iff]

/-- Requiring exactly one row gives a row exactly if that row is all that can be drawn. If nothing
can be drawn no row was found, and nothing is named as the cause; the first failure is given as it
is, however many rows come before it; several rows without a failure are counted. One of these is
always the case. -/
theorem one_row_or_why_not (r : Rows) :
    (∀ row, r.exactlyOne = .ok row ↔ r.Delivers [.ok row]) ∧
    (r.Delivers [] → r.exactlyOne = .error (.noRowFound none)) ∧
    (∀ rows e, r.FailsAfter rows e → r.exactlyOne = .error e) ∧
    (∀ rows : List Row, 2 ≤ rows.length → r.Delivers (rows.map .ok) →
      r.exactlyOne = .error (.multipleRowsFound (some rows.length))) ∧
    ((∃ rows : List Row, r.Delivers (rows.map .ok)) ∨ ∃ rows e, r.FailsAfter rows e) ∧
    ∀ {σ : Type} (x : Executor σ) (sql : String) (args : List Value) (w : σ) (row : Row),
      (x.run (.queryRow sql args) w).1 = .ok (.row row) ↔
        ∃ rows w', x.query sql args w = (.ok rows, w') ∧ rows.Delivers [.ok row] := by
  refine ⟨fun row => exactlyOne_eq_ok_iff, fun h => ?_, fun rows e => exactlyOne_of_failsAfter,
    fun rows hlength h => ?_, r.delivers_or_fails,
    fun x sql args w row => run_queryRow_eq_ok_iff x sql args w⟩
  · have hnone : r.Delivers (([] : List Row).map .ok) := h
    exact exactlyOne_of_delivers hnone
  · rw [exactlyOne_of_delivers h]
    match rows, hlength with
    | _ :: _ :: _, _ => rfl

/-- Three rows, and the same with a failure after the second. -/
theorem several_rows_counted_unless_failed :
    let row : Row := ⟨[], []⟩
    let e : Error := .connection "lost"
    let rows := ofList [.ok row, .ok row, .ok row]
    let failing := ofList [.ok row, .ok row, .error e, .ok row]
    rows.Delivers [.ok row, .ok row, .ok row] ∧
      rows.exactlyOne = .error (.multipleRowsFound (some 3)) ∧
      failing.FailsAfter [row, row] e ∧ failing.exactlyOne = .error e := by
  intro row e rows failing
  have hrows : rows.Delivers ([row, row, row].map .ok) := delivers_iff.mpr rfl
  have hfails : failing.FailsAfter [row, row] e := failsAfter_iff.mpr ⟨[.ok row], rfl⟩
  obtain ⟨-, -, -, hcounted, -⟩ := one_row_or_why_not rows
  obtain ⟨-, -, hfailed, -⟩ := one_row_or_why_not failing
  exact ⟨hrows, hcounted [row, row, row] (Nat.le_succ 2) hrows, hfails, hfailed _ _ hfails⟩

end Rows

end BoundSql
