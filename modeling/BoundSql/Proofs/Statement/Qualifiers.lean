import BoundSql.Proofs.Statement.Shown

namespace BoundSql

namespace Column

/-- The texts before the innermost name, from the outermost call inwards. -/
def opening : Column → List String
  | named _ _ => []
  | function f inner => (f.name ++ "(") :: inner.opening
  | coalesce inner _ => "COALESCE(" :: inner.opening

/-- What stands behind the innermost name, from the innermost call outwards. -/
def closing : Column → Fragment
  | named _ _ => []
  | function _ inner => inner.closing ++ [.text ")"]
  | coalesce inner fallback => inner.closing ++ .text ", " :: fallback.fragment ++ [.text ")"]

theorem unqualified_eq_around (c : Column) :
    c.unqualified = (c.opening ++ [c.name]).map .text ++ c.closing := by
  induction c with
  | named table name => rfl
  | function f inner ih => simp [unqualified, opening, name, closing, ih]
  | coalesce inner fallback ih => simp [unqualified, opening, name, closing, ih]

theorem qualified_eq_around (c : Column) :
    c.qualified = (c.opening ++ [c.table, ".", c.name]).map .text ++ c.closing := by
  induction c with
  | named table name => rfl
  | function f inner ih => simp [qualified, opening, table, name, closing, ih]
  | coalesce inner fallback ih => simp [qualified, opening, table, name, closing, ih]

end Column

namespace Builder

theorem write_texts (b : Builder) (ss : List String) (f : Fragment) :
    b.write (ss.map .text ++ f) =
      (b.write f).retexted (b.sql ++ (String.join ss ++ b.appended f)) := by
  induction ss generalizing b with
  | nil =>
    rw [List.map_nil, List.nil_append, String.join_nil, String.empty_append]
    exact b.write_retexted b.sql f
  | cons s ss ih =>
    rw [List.map_cons, List.cons_append, write_text, ih, writeText_eq_retexted, write_retexted,
      String.join_cons]
    simp only [retexted_retexted, sql_retexted, appended_retexted, String.append_assoc]

/-- A column as a builder writes it, with a text right before the innermost name. -/
def spelling (b : Builder) (qualifier : String) (c : Column) : String :=
  String.join c.opening ++ (qualifier ++ c.name) ++ b.appended c.closing

@[simp] theorem spelling_retexted (b : Builder) (sql qualifier : String) (c : Column) :
    (b.retexted sql).spelling qualifier c = b.spelling qualifier c := rfl

theorem writeUnqualified_eq_spelling (b : Builder) (c : Column) :
    b.writeUnqualified c = (b.write c.closing).retexted (b.sql ++ b.spelling "" c) := by
  rw [writeUnqualified_eq_write, c.unqualified_eq_around, write_texts, spelling]
  simp [String.join_append, String.append_assoc]

theorem writeQualified_eq_spelling (b : Builder) (c : Column) :
    b.writeQualified c = (b.write c.closing).retexted (b.sql ++ b.spelling (c.table ++ ".") c) := by
  rw [writeQualified_eq_write, c.qualified_eq_around, write_texts, spelling]
  simp [String.join_append, String.append_assoc]

/-- Columns written one after the other, each with its own text right before the innermost name. -/
def listing (qualifier : Column → String) : Builder → Columns → List String
  | _, [] => []
  | b, c :: cs => b.spelling (qualifier c) c :: listing qualifier (b.write c.closing) cs

theorem listing_retexted (qualifier : Column → String) (b : Builder) (sql : String) (cs : Columns) :
    (b.retexted sql).listing qualifier cs = b.listing qualifier cs := by
  induction cs generalizing b sql with
  | nil => rfl
  | cons c cs ih => rw [listing, listing, spelling_retexted, write_retexted, ih]

section

variable {write : Builder → Column → Builder} {qualifier : Column → String}
  (h : ∀ b c, write b c = (b.write c.closing).retexted (b.sql ++ b.spelling (qualifier c) c))

include h

theorem foldl_eq_listing (b : Builder) (cs : Columns) :
    cs.foldl (fun b c => write (b.writeText ", ") c) b =
      (b.write (cs.flatMap Column.closing)).retexted
        (b.sql ++ String.join ((b.listing qualifier cs).map (", " ++ ·))) := by
  induction cs generalizing b with
  | nil => simp [listing, retexted]
  | cons c cs ih =>
    have hc : write (b.writeText ", ") c =
        (b.write c.closing).retexted (b.sql ++ (", " ++ b.spelling (qualifier c) c)) := by
      rw [h, writeText_eq_retexted, write_retexted, spelling_retexted, retexted_retexted,
        sql_retexted, String.append_assoc]
    rw [List.foldl_cons, hc, ih, listing_retexted, write_retexted, retexted_retexted, sql_retexted,
      listing, List.flatMap_cons, write_append, List.map_cons, String.join_cons, String.append_assoc]

theorem writeSeparated_eq_listing (b : Builder) (cs : Columns) :
    b.writeSeparated write ", " cs =
      (b.write (cs.flatMap Column.closing)).retexted
        (b.sql ++ ", ".intercalate (b.listing qualifier cs)) := by
  cases cs with
  | nil => simp [writeSeparated, listing, retexted]
  | cons c cs =>
    rw [writeSeparated, foldl_eq_listing h, h, listing_retexted, write_retexted, retexted_retexted,
      sql_retexted, listing, intercalate_cons, List.flatMap_cons, write_append, String.append_assoc]

end

/-- Whatever a builder has bound, a column binds the same with its qualifier as without it, at the
same positions, and its text is the same but for the table and a dot right before the innermost
name. In a list this is so for each column. -/
theorem writeQualified_inserts_qualifier (b : Builder) :
    (∀ c : Column, (b.writeQualified c).args = (b.writeUnqualified c).args ∧
        (b.writeQualified c).positions = (b.writeUnqualified c).positions ∧
        (b.writeUnqualified c).sql = b.sql ++ b.spelling "" c ∧
        (b.writeQualified c).sql = b.sql ++ b.spelling (c.table ++ ".") c) ∧
      ∀ cs : Columns, (b.writeColumns cs).args = (b.writeColumnsUnqualified cs).args ∧
        (b.writeColumns cs).positions = (b.writeColumnsUnqualified cs).positions ∧
        (b.writeColumnsUnqualified cs).sql =
          b.sql ++ ", ".intercalate (b.listing (fun _ => "") cs) ∧
        (b.writeColumns cs).sql =
          b.sql ++ ", ".intercalate (b.listing (fun c => c.table ++ ".") cs) := by
  refine ⟨fun c => ?_, fun cs => ?_⟩
  · rw [writeQualified_eq_spelling, writeUnqualified_eq_spelling]
    exact ⟨rfl, rfl, rfl, rfl⟩
  · rw [writeColumns, writeColumnsUnqualified, writeSeparated_eq_listing writeQualified_eq_spelling,
      writeSeparated_eq_listing writeUnqualified_eq_spelling]
    exact ⟨rfl, rfl, rfl, rfl⟩

/-- Fallbacks inside one another have the same placeholders both times. -/
example :
    let c : Column := .coalesce (.function .lower (.coalesce (.named "t" "a") (.value (.text "x"))))
      (.value (.text "y"))
    c.qualified.render [.text "x", .text "y"] = "COALESCE(LOWER(COALESCE(t.a, $1)), $2)" ∧
      c.unqualified.render [.text "x", .text "y"] = "COALESCE(LOWER(COALESCE(a, $1)), $2)" := by
  decide

end Builder

end BoundSql
