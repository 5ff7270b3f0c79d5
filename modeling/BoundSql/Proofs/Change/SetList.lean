import BoundSql.Proofs.Change.Carried
import BoundSql.Proofs.Statement.Refinement
import BoundSql.Proofs.Statement.Shown
/-!
Which column a change is on, whether it assigns anything and what is written of it are told apart by
three recursions. Its item is what they agree on.
-/

namespace BoundSql

open Fragment

/-- An item of a SET list: a column, and what is written behind its equals sign. -/
structure SetItem where
  column : Column
  value : Fragment

namespace SetItem

/-- The column stands without its qualifier. -/
def fragment (e : SetItem) : Fragment := e.column.unqualified ++ .text " = " :: e.value

def text (args : List Value) (e : SetItem) : String :=
  e.column.unqualified.render args ++ " = " ++ e.value.render args

theorem render_fragment (args : List Value) (e : SetItem) :
    e.fragment.render args = e.text args := by
  rw [fragment, render_append, render, text, String.append_assoc]

end SetItem

namespace Change

/-- What a change sets that no statement is around. -/
def plainItem? : Change → Option SetItem
  | set c a => some ⟨c, a.fragment⟩
  | increment c source => some ⟨c, source.unqualified ++ [.text " + 1"]⟩
  | setJson c path value =>
    some ⟨c, .text "jsonb_set(" :: c.unqualified ++ .text ", " :: pathFragment path ++
      [.text ", ", .value (.json value), .text ")"]⟩
  | cte _ _ _ => none

/-- The item of a change in the SET list, however many statements are around what it assigns. -/
def item? (ch : Change) : Option SetItem := ch.assignment?.bind plainItem?

variable {ch : Change}

theorem item?_of_plain (h : ch.isCte = false) : ch.item? = ch.plainItem? := by
  rw [item?, assignment?_of_plain h, Option.bind_some]

theorem column?_eq_item (ch : Change) : ch.column? = ch.item?.map SetItem.column := by
  induction ch using carried_induction with
  | plain ch hch =>
    rw [item?_of_plain hch]
    cases ch with
    | cte _ _ _ => cases hch
    | set _ _ | increment _ _ | setJson _ _ _ => rfl
  | bare body mark => rfl
  | around body mark ch ih => exact ih

theorem hasAssignment_eq_item (ch : Change) : ch.hasAssignment = ch.item?.isSome := by
  induction ch using carried_induction with
  | plain ch hch =>
    rw [item?_of_plain hch]
    cases ch with
    | cte _ _ _ => cases hch
    | set _ _ | increment _ _ | setJson _ _ _ => rfl
  | bare body mark => rfl
  | around body mark ch ih => exact ih

theorem shows_value_of_item {e : SetItem} (h : ch.item? = some e) : e.value.Shows := by
  induction ch using carried_induction with
  | plain ch hch =>
    rw [item?_of_plain hch] at h
    cases ch with
    | cte _ _ _ => cases hch
    | set c a =>
      cases h
      exact a.shows_fragment
    | increment c source =>
      cases h
      exact shows_append.mpr (.inr (shows_text.mpr (.inl (by decide))))
    | setJson c path value =>
      cases h
      exact shows_text.mpr (.inl (by decide))
  | bare body mark => cases h
  | around body mark ch ih => exact ih h

end Change

namespace Builder

theorem writeText_writeText (b : Builder) (s t : String) :
    (b.writeText s).writeText t = b.writeText (s ++ t) := by
  simp [writeText, String.append_assoc]

/-- A change writes its item, and nothing if it has none. -/
theorem writeAssignment_eq_item (b : Builder) (ch : Change) :
    b.writeAssignment ch = ch.item?.elim b fun e => b.write e.fragment := by
  induction ch using Change.carried_induction with
  | plain ch hch =>
    rw [Change.item?_of_plain hch, writeAssignment_eq_write]
    cases ch with
    | cte _ _ _ => cases hch
    | set c a => rfl
    | increment c source =>
      simp [Change.fragment, Change.plainItem?, SetItem.fragment]
    | setJson c path value =>
      have hopening (b : Builder) : (b.writeText " = ").writeText "jsonb_set(" =
          b.writeText " = jsonb_set(" := writeText_writeText b _ _
      simp [Change.fragment, Change.plainItem?, SetItem.fragment, hopening]
  | bare body mark => rfl
  | around body mark ch ih => exact ih

end Builder

namespace Changes

/-- The items of a SET list. -/
def items (chs : Changes) : List SetItem := chs.filterMap Change.item?

theorem map_column_items (chs : Changes) :
    chs.items.map SetItem.column = chs.filterMap Change.column? := by
  rw [items, List.map_filterMap]
  exact congrArg (chs.filterMap ·) (funext fun ch => ch.column?_eq_item.symm)

theorem map_filter_hasAssignment (chs : Changes) :
    (chs.filter Change.hasAssignment).map (fun ch => ch.item?.elim [] SetItem.fragment) =
      chs.items.map SetItem.fragment := by
  induction chs with
  | nil => rfl
  | cons ch chs ih =>
    rw [List.filter_cons, items, List.filterMap_cons, Change.hasAssignment_eq_item]
    cases he : ch.item? with
    | none => exact ih
    | some e => simpa [he, items] using ih

theorem isOn_iff_mem_items {chs : Changes} {c : Column} :
    chs.isOn c = true ↔ ∃ e ∈ chs.items, e.column.same c = true := by
  simp only [isOn, items, List.any_eq_true, List.mem_filterMap, Change.column?_eq_item]
  constructor
  · rintro ⟨ch, hch, hsame⟩
    cases he : ch.item? with
    | none => simp [he] at hsame
    | some e => exact ⟨e, ⟨ch, hch, he⟩, by simpa [he] using hsame⟩
  · rintro ⟨e, ⟨ch, hch, he⟩, hsame⟩
    exact ⟨ch, hch, by simpa [he] using hsame⟩

end Changes

namespace Builder

theorem writeAssignments_eq_items (b : Builder) (chs : Changes) :
    b.writeAssignments chs = b.write (join ", " (chs.items.map SetItem.fragment)) := by
  have hchange (b : Builder) (ch : Change) :
      b.writeAssignment ch = b.write (ch.item?.elim [] SetItem.fragment) := by
    rw [writeAssignment_eq_item]
    cases ch.item? <;> rfl
  rw [writeAssignments, writeSeparated_eq_write hchange, Changes.map_filter_hasAssignment]

/-- The SET list has one item for each change that is on a column, in the order of the changes and
with a comma between any two; each sets that column to something. A change on no column writes
nothing and binds nothing, and a list is on the columns of its items. -/
theorem writeAssignments_lists_items {b : Builder} (hb : b.Reachable) (chs : Changes) :
    (b.writeAssignments chs).sql = b.sql ++
        ", ".intercalate (chs.items.map (SetItem.text (b.writeAssignments chs).args)) ∧
      (b.writeAssignments chs).args = b.args ++
        Value.unbound b.keys (chs.items.flatMap fun e => e.fragment.literals) ∧
      chs.items.map SetItem.column = chs.filterMap Change.column? ∧
      (∀ e ∈ chs.items, ∀ args, e.value.render args ≠ "") ∧
      (∀ ch ∈ chs, ∀ b' : Builder,
        b'.writeAssignment ch = ch.item?.elim b' fun e => b'.write e.fragment) ∧
      (∀ ch ∈ chs, ch.column? = none → ∀ b' : Builder, b'.writeAssignment ch = b') ∧
      ∀ c, chs.isOn c = true ↔ ∃ e ∈ chs.items, e.column.same c = true := by
  obtain ⟨-, hargs, hsql⟩ := hb.consistent.write (join ", " (chs.items.map SetItem.fragment))
  rw [← writeAssignments_eq_items] at hargs hsql
  refine ⟨?_, ?_, Changes.map_column_items chs, ?_, ?_, ?_, ?_⟩
  · rw [hsql, render_join, List.map_map]
    simp only [Function.comp_def, SetItem.render_fragment]
  · rw [hargs, literals_join, List.flatMap_map]
  · intro e he args
    obtain ⟨ch, -, hch⟩ := List.mem_filterMap.mp he
    exact shows_iff_render_ne.mp (Change.shows_value_of_item hch)
  · exact fun ch _ b' => b'.writeAssignment_eq_item ch
  · intro ch _ hcolumn b'
    rw [Change.column?_eq_item, Option.map_eq_none_iff] at hcolumn
    rw [writeAssignment_eq_item, hcolumn, Option.elim_none]
  · exact fun c => Changes.isOn_iff_mem_items

/-- Statements with an assignment, without one, and with one inside another. -/
def archived : Changes :=
  [.cte [.text "DELETE FROM drafts"] 0 none,
    .cte [.text "INSERT INTO log VALUES (1)"] 1
      (some (.cte [.text "DELETE FROM tags"] 2
        (some (.set (.named "docs" "state") (.value (.text "old")))))),
    .cte [.text "DELETE FROM tags"] 3 (some (.cte [.text "DELETE FROM drafts"] 4 none)),
    .increment (.named "docs" "version") (.named "docs" "version"),
    .setJson (.named "docs" "meta") ["state"] .null]

/-- Three items of five changes. The path in the last repeats a text that was bound before the
list, and has its placeholder. -/
theorem archived_lists_items :
    ∃ b : Builder, b.Reachable ∧ b.args = [.text "state"] ∧
      (b.writeAssignments archived).args = [.text "state", .text "old", .json .null] ∧
      (b.writeAssignments archived).sql = "WITH old AS (SELECT $1) UPDATE docs SET " ++
        "state = $2, version = version + 1, meta = jsonb_set(meta, ARRAY[$1], $3)" ∧
      archived.isOn (.named "docs" "state") = true := by
  have hb : ((start "WITH old AS (SELECT ").write
      [.value (.text "state"), .text ") UPDATE docs SET "]).Reachable :=
    .step (.text ") UPDATE docs SET ")
      (.step (.arg (.value (.text "state"))) (.start "WITH old AS (SELECT ") rfl) rfl
  obtain ⟨hsql, hargs, -, -, -, -, hon⟩ := writeAssignments_lists_items hb archived
  rw [keys, args_write_start] at hargs
  have hbound := hargs.trans (by rfl : _ = [Value.text "state", .text "old", .json .null])
  refine ⟨_, hb, args_write_start _ _, hbound, ?_, (hon _).mpr ⟨_, List.mem_cons_self, by decide⟩⟩
  rw [hsql, hbound, sql_write_start]
  decide +kernel

end Builder

end BoundSql
