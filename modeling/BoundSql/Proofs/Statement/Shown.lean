import BoundSql.Proofs.Statement.Spacing

namespace BoundSql

theorem intercalate_cons (separator s : String) (ss : List String) :
    separator.intercalate (s :: ss) = s ++ String.join (ss.map (separator ++ ·)) := by
  induction ss generalizing s with
  | nil => simp
  | cons t ss ih =>
    rw [String.intercalate_cons_cons, ih, List.map_cons, String.join_cons]
    simp only [String.append_assoc]

namespace Fragment

/-- Some text is written of the fragment, wherever that happens. -/
def Shows (f : Fragment) : Prop := f.first?.isSome = true

variable {f g : Fragment}

theorem not_shows_nil : ¬Shows [] := nofun

theorem shows_append : Shows (f ++ g) ↔ f.Shows ∨ g.Shows := by
  rw [Shows, first?_append, Option.isSome_or, Bool.or_eq_true, Shows, Shows]

theorem shows_text {s : String} : Shows (.text s :: f) ↔ s ≠ "" ∨ f.Shows := by
  rw [Shows, first?, Option.isSome_or, Bool.or_eq_true, List.isSome_head?, Shows,
    Ne, Ne, String.toList_eq_nil_iff]

theorem shows_value (v : Value) (f : Fragment) : Shows (.value v :: f) := rfl

theorem shows_join {separator : String} {fs : List Fragment} (h : ∀ f ∈ fs, f.Shows)
    (hfs : fs ≠ []) : (join separator fs).Shows := by
  cases fs with
  | nil => exact absurd rfl hfs
  | cons f fs => exact shows_append.mpr (.inl (h f List.mem_cons_self))

theorem shows_iff_render_ne {args : List Value} : f.Shows ↔ f.render args ≠ "" := by
  rw [Shows, ← head?_render f args, List.isSome_head?, Ne, String.toList_eq_nil_iff]

theorem render_append (args : List Value) (f g : Fragment) :
    (f ++ g).render args = f.render args ++ g.render args := by
  induction f with
  | nil => rw [List.nil_append, render, String.empty_append]
  | cons piece f ih =>
    cases piece <;> rw [List.cons_append, render, render, ih, String.append_assoc]

theorem render_flatMap {α : Type} (args : List Value) (as : List α) (fragment : α → Fragment) :
    render args (as.flatMap fragment) = String.join (as.map fun a => render args (fragment a)) := by
  induction as with
  | nil => rfl
  | cons a as ih => rw [List.flatMap_cons, render_append, ih, List.map_cons, String.join_cons]

theorem render_join (args : List Value) (separator : String) (fs : List Fragment) :
    (join separator fs).render args = separator.intercalate (fs.map (render args)) := by
  cases fs with
  | nil => simp [join, render]
  | cons f fs =>
    rw [join, render_append, render_flatMap, List.map_cons, intercalate_cons, List.map_map]
    rfl

theorem literals_flatMap {α : Type} (as : List α) (fragment : α → Fragment) :
    literals (as.flatMap fragment) = as.flatMap fun a => literals (fragment a) := by
  induction as with
  | nil => rfl
  | cons a as ih => rw [List.flatMap_cons, literals_append, ih, List.flatMap_cons]

/-- Separators bind nothing. -/
theorem literals_join (separator : String) (fs : List Fragment) :
    literals (join separator fs) = fs.flatMap literals := by
  cases fs with
  | nil => rfl
  | cons f fs => simp [join, literals_flatMap]

end Fragment

open Fragment

theorem SqlFunction.shows_call (f : SqlFunction) (rest : Fragment) :
    Shows (.text (f.name ++ "(") :: rest) :=
  shows_text.mpr (.inl (by cases f <;> decide))

theorem Arg.shows_fragment (a : Arg) : a.fragment.Shows := by
  cases a with
  | value v => exact shows_value v []
  | instruction i => exact shows_text.mpr (.inl (by cases i <;> decide))
  | function f inner => exact f.shows_call _
  | coalesce arg fallback => exact shows_text.mpr (.inl (by decide))

/-- Even between names that are empty there is a dot. -/
theorem Column.shows_qualified (c : Column) : c.qualified.Shows := by
  cases c with
  | named table name =>
    exact shows_text.mpr (.inr (shows_text.mpr (.inl (by decide))))
  | function f inner => exact f.shows_call _
  | coalesce inner fallback => exact shows_text.mpr (.inl (by decide))

theorem Operation.shows_fragment (op : Operation) (c : Column) (a : Arg) :
    (op.fragment c a).Shows := by
  have hcomparison (symbol : String) : (Operation.comparison symbol c a).Shows :=
    shows_append.mpr (.inl c.shows_qualified)
  cases op with
  | text op =>
    rw [fragment, TextOperation.fragment]
    split
    next =>
      exact shows_append.mpr (.inl (shows_append.mpr (.inl (Column.shows_qualified _))))
    next => exact shows_append.mpr (.inl (shows_append.mpr (.inl c.shows_qualified)))
  | number op => exact hcomparison op.symbol
  | boolean op => exact hcomparison "="
  | bytes op => exact hcomparison op.symbol

namespace Builder

/-- The same builder with another text. -/
def retexted (b : Builder) (sql : String) : Builder := { b with sql := sql }

@[simp] theorem sql_retexted (b : Builder) (sql : String) : (b.retexted sql).sql = sql := rfl

@[simp] theorem retexted_retexted (b : Builder) (s t : String) :
    (b.retexted s).retexted t = b.retexted t := rfl

theorem writeText_eq_retexted (b : Builder) (s : String) :
    b.writeText s = b.retexted (b.sql ++ s) := rfl

theorem retexted_writeValue (b : Builder) (v : Value) (sql : String) :
    (b.retexted sql).writeValue v =
      (b.writeValue v).retexted (sql ++ ("$" ++ toString (b.bind v).1)) := by
  have hbind : (b.retexted sql).bind v = ((b.bind v).1, (b.bind v).2.retexted sql) := by
    simp only [bind, retexted]
    cases b.positions[v.key]? <;> rfl
  have hwritten : (b.retexted sql).writeValue v = ((b.retexted sql).bind v).2.writeText
      ("$" ++ toString ((b.retexted sql).bind v).1) := rfl
  rw [hwritten, hbind]
  rfl

/-- One text is appended to whatever is there; nothing else depends on what is there. -/
theorem exists_appended (b : Builder) (f : Fragment) :
    ∃ s, (s ≠ "" ↔ f.Shows) ∧
      ∀ sql, (b.retexted sql).write f = (b.write f).retexted (sql ++ s) := by
  induction f generalizing b with
  | nil => exact ⟨"", by simp [not_shows_nil], fun sql => by simp [retexted]⟩
  | cons piece f ih =>
    cases piece with
    | text t =>
      obtain ⟨s, hs, happended⟩ := ih (b.writeText t)
      refine ⟨t ++ s, ?_, fun sql => ?_⟩
      · rw [shows_text, ← hs, Ne, String.append_eq_empty_iff, not_and_or]
      · rw [write_text, write_text, ← String.append_assoc]
        exact happended (sql ++ t)
    | value v =>
      obtain ⟨s, -, happended⟩ := ih (b.writeValue v)
      refine ⟨"$" ++ toString (b.bind v).1 ++ s, ?_, fun sql => ?_⟩
      · simp [shows_value]
      · rw [write_value, write_value, retexted_writeValue, happended, String.append_assoc]

/-- The text that a fragment comes to on a builder, whatever is there already. -/
def appended (b : Builder) (f : Fragment) : String := ((b.retexted "").write f).sql

@[simp] theorem appended_retexted (b : Builder) (sql : String) (f : Fragment) :
    (b.retexted sql).appended f = b.appended f := rfl

theorem write_retexted (b : Builder) (sql : String) (f : Fragment) :
    (b.retexted sql).write f = (b.write f).retexted (sql ++ b.appended f) := by
  obtain ⟨s, -, hs⟩ := b.exists_appended f
  have happended : b.appended f = s := by
    rw [appended, hs]
    exact String.empty_append
  rw [hs, happended]

theorem exists_sql_write (b : Builder) (f : Fragment) :
    ∃ s, (b.write f).sql = b.sql ++ s ∧ (s ≠ "" ↔ f.Shows) := by
  obtain ⟨s, hs, happended⟩ := b.exists_appended f
  exact ⟨s, congrArg sql (happended b.sql), hs⟩

end Builder

end BoundSql
