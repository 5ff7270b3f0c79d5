import Mathlib.Data.List.TakeWhile
import BoundSql.Proofs.Statement.Numbering
import BoundSql.Proofs.Statement.Sharing
/-!
Behind every dollar sign stands the number of an argument, so that text and arguments tell the
fragment they come from, up to where its texts are cut.
-/

namespace BoundSql

namespace Fragment

/-- The texts cut into characters. -/
def spelled : Fragment → Fragment
  | [] => []
  | .text s :: f => s.toList.map (fun c => .text (String.singleton c)) ++ spelled f
  | .value v :: f => .value v :: spelled f

/-- What a text says, with the arguments that its numbers stand for. -/
def recover (args : List Value) : List Char → Fragment
  | [] => []
  | c :: cs =>
    if c = '$' then
      (args[Nat.ofDigitChars 10 (cs.takeWhile Char.isDigit) 0 - 1]?.map Piece.value).toList ++
        recover args (cs.dropWhile Char.isDigit)
    else .text (String.singleton c) :: recover args cs
termination_by cs => cs.length
decreasing_by
  · exact Nat.lt_succ_of_le (List.length_dropWhile_le _ _)
  · exact Nat.lt_succ_self _

theorem recover_append_of_plain {cs : List Char} (h : '$' ∉ cs) (args : List Value)
    (ds : List Char) :
    recover args (cs ++ ds) =
      cs.map (fun c => .text (String.singleton c)) ++ recover args ds := by
  induction cs with
  | nil => rfl
  | cons c cs ih =>
    obtain ⟨hc, hcs⟩ := not_or.mp (mt List.mem_cons.mpr h)
    rw [List.cons_append, recover, if_neg (Ne.symm hc), ih hcs]
    rfl

theorem recover_render {f : Fragment} (hf : f.Spaced Plain) {args : List Value}
    (h : ∀ v ∈ f.literals, v.key ∈ args.map Value.key) :
    recover args (f.render args).toList = f.spelled := by
  induction f with
  | nil => rw [render, String.toList_empty, recover, spelled]
  | cons piece f ih =>
    cases piece with
    | text s =>
      rw [render, String.toList_append, recover_append_of_plain hf.1, ih hf.2 h, spelled]
    | value v =>
      obtain ⟨hv, hrest⟩ := List.forall_mem_cons.mp h
      have haside : Digits.Apart (render args f).toList := by
        intro c hc
        rw [head?_render] at hc
        exact hf.1 c hc
      rw [render, String.toList_append, toList_placeholder, List.cons_append, recover, if_pos rfl,
        Digits.takeWhile_toDigits _ haside, Digits.dropWhile_toDigits _ haside,
        Nat.ofDigitChars_ten_toDigits, Value.getElem?_position hv, ih hf.2 hrest, spelled]
      rfl

end Fragment

namespace Builder

theorem write_spelled (b : Builder) (f : Fragment) : b.write f.spelled = b.write f := by
  have hchars (b : Builder) (cs : List Char) :
      b.write (cs.map fun c => .text (String.singleton c)) = b.writeText (String.ofList cs) := by
    induction cs generalizing b with
    | nil => simp [writeText]
    | cons c cs ih =>
      rw [List.map_cons, write_text, ih, String.ofList_cons]
      simp only [writeText, String.append_assoc]
  induction f generalizing b with
  | nil => rfl
  | cons piece f ih =>
    cases piece with
    | text s => rw [Fragment.spelled, write_append, hchars, String.ofList_toList, ih, write_text]
    | value v => exact ih (b.writeValue v)

/-- Fragments of which one statement comes write the same on every builder. -/
theorem write_eq_of_build_eq {f g : Fragment} (hf : f.Spaced Plain) (hg : g.Spaced Plain)
    (h : (empty.write f).build = (empty.write g).build) (b : Builder) : b.write f = b.write g := by
  have hempty : empty.Consistent := consistent_start ""
  have hrecover {f : Fragment} (hf : f.Spaced Plain) :
      Fragment.recover (empty.write f).build.args (empty.write f).build.sql.toList = f.spelled := by
    obtain ⟨-, -, hsql⟩ := hempty.write f
    have htext : (empty.write f).build.sql = f.render (empty.write f).args :=
      hsql.trans String.empty_append
    rw [htext]
    exact Fragment.recover_render hf fun v hv => hempty.mem_keys_write hv
  rw [← write_spelled b f, ← write_spelled b g, ← hrecover hf, ← hrecover hg, h]

end Builder

end BoundSql
