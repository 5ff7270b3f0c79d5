import BoundSql.Proofs.Change.Matching
import BoundSql.Proofs.Statement.Clearance
import BoundSql.Proofs.Statement.Recovery
/-!
Changes are compared by what they write on an empty builder, and are written on one that has bound
arguments already. What is written tells where the literals stand, unless a text could be taken for
a placeholder.
-/

namespace BoundSql

open Value

section Relabelling

variable {φ : Value → Value}

theorem Arg.relabel_eq_self {a : Arg} (h : ∀ v ∈ a.fragment.literals, φ v = v) :
    a.relabel φ = a := by
  induction a with
  | value v => exact congrArg value (h v List.mem_cons_self)
  | instruction i => rfl
  | function f inner ih => rw [relabel, ih (by simpa [fragment] using h)]
  | coalesce arg fallback iha ihf =>
    simp only [fragment, List.cons_append, Fragment.literals_text, Fragment.literals_append,
      Fragment.literals_nil, List.append_nil, List.forall_mem_append] at h
    rw [relabel, iha h.1, ihf h.2]

theorem Column.relabel_eq_self {c : Column} (h : ∀ v ∈ c.unqualified.literals, φ v = v) :
    c.relabel φ = c := by
  induction c with
  | named table name => rfl
  | function f inner ih => rw [relabel, ih (by simpa [unqualified] using h)]
  | coalesce inner fallback ih =>
    simp only [unqualified, List.cons_append, Fragment.literals_text, Fragment.literals_append,
      Fragment.literals_nil, List.append_nil, List.forall_mem_append] at h
    rw [relabel, ih h.1, Arg.relabel_eq_self h.2]

theorem Change.relabel_eq_self {ch : Change} (hplain : ch.isCte = false)
    (h : ∀ v ∈ ch.fragment.literals, φ v = v) : ch.relabel φ = ch := by
  cases ch with
  | cte _ _ _ => cases hplain
  | set c a =>
    simp only [fragment, Fragment.literals_append, Fragment.literals_text,
      List.forall_mem_append] at h
    rw [relabel, Column.relabel_eq_self h.1, Arg.relabel_eq_self h.2]
  | increment c source =>
    simp only [fragment, Fragment.literals_append, Fragment.literals_text, Fragment.literals_nil,
      List.append_nil, List.forall_mem_append] at h
    rw [relabel, Column.relabel_eq_self h.1, Column.relabel_eq_self h.2]
  | setJson c path value =>
    simp only [fragment, Fragment.literals_append, Fragment.literals_text, Fragment.literals_value,
      Fragment.literals_nil, literals_pathFragment, List.forall_mem_append,
      List.forall_mem_singleton, List.forall_mem_map] at h
    obtain ⟨⟨⟨hc, -⟩, hpath⟩, hvalue⟩ := h
    have htexts : path.map (relabelText φ) = path := by
      refine (List.map_congr_left fun s hs => ?_).trans (List.map_id path)
      rw [relabelText, hpath s hs]
      rfl
    rw [relabel, Column.relabel_eq_self hc, htexts, relabelJson, hvalue]

end Relabelling

namespace Change

/-- No float is bound, and the statements are put together from texts and names without a dollar
sign of which none begins with a digit. -/
structure Legible (ch : Change) : Prop where
  assignment : ∀ v ∈ ch.fragment.literals, v.hasFloat = false
  arguments : ∀ body ∈ ch.bodies, ∀ s, rendered body = .ok s → ∀ v ∈ s.args, v.hasFloat = false
  texts : ∀ body ∈ ch.bodies, ∀ s ∈ Step.namesAll body, ClearText s

theorem unsigned_of_args {s : Statement} (h : ∀ v ∈ s.args, v.hasFloat = false) :
    s.unsigned = s := by
  have hargs : s.args.map Value.unsigned = s.args :=
    (List.map_congr_left fun v hv => unsigned_of_hasFloat (h v hv)).trans (List.map_id _)
  rw [Statement.unsigned, hargs]

theorem exists_fragments_of_rendered {body : List Step} {s : Statement}
    (h : rendered body = .ok s) :
    ∃ f, Step.fragments body = .ok f ∧ (Builder.empty.write f).build = s := by
  rw [rendered, Builder.writeSteps_eq_write] at h
  cases hf : Step.fragments body with
  | error m => simp [hf, Except.map] at h
  | ok f =>
    simp only [hf, Except.map, Except.ok.injEq] at h
    exact ⟨f, rfl, h⟩

/-- Statements that are the same on an empty builder are the same on every builder. -/
theorem writeSteps_eq_of_rendered {body other : List Step} {s : Statement}
    (hbody : ∀ t ∈ Step.namesAll body, ClearText t)
    (hother : ∀ t ∈ Step.namesAll other, ClearText t)
    (h : rendered body = .ok s) (h' : rendered other = .ok s) (b : Builder) :
    ∃ b', b.writeSteps body = .ok b' ∧ b.writeSteps other = .ok b' := by
  obtain ⟨f, hf, hbuild⟩ := exists_fragments_of_rendered h
  obtain ⟨g, hg, hbuild'⟩ := exists_fragments_of_rendered h'
  have hwrite := Builder.write_eq_of_build_eq (Step.spaced_fragments body hbody f hf).plain
    (Step.spaced_fragments other hother g hg).plain (hbuild.trans hbuild'.symm) b
  refine ⟨b.write f, ?_, ?_⟩
  · rw [Builder.writeSteps_eq_write, hf, Except.map]
  · rw [Builder.writeSteps_eq_write, hg, Except.map, hwrite]

variable {x y : Change}

theorem assignment?_eq_of_image (hx : x.Legible) (hy : y.Legible)
    (h : x.image = y.image) : x.assignment? = y.assignment? := by
  have hself {x : Change} (hx : x.Legible) :
      x.assignment?.map (relabel Value.unsigned) = x.assignment? := by
    cases ha : x.assignment? with
    | none => rfl
    | some a =>
      have hfragment : x.fragment = a.fragment := by rw [fragment_eq_assignment x, ha]; rfl
      refine congrArg some (relabel_eq_self (plain_of_assignment? ha) fun v hv => ?_)
      exact unsigned_of_hasFloat (hx.assignment v (hfragment ▸ hv))
  rw [← hself hx, ← hself hy]
  exact congrArg Prod.snd h

/-- Changes that write the same. -/
structure Interchangeable (x y : Change) : Prop where
  isCte : x.isCte = y.isCte
  assignment : x.assignment? = y.assignment?
  statement : ∀ b : Builder, ∃ b', b.writeCte x = .ok b' ∧ b.writeCte y = .ok b'

theorem interchangeable_of_agrees (hx : x.Legible) (hy : y.Legible)
    (h : x.agrees y = .ok true) : Interchangeable x y := by
  obtain ⟨himage, hsound, hsound'⟩ := agrees_eq_true_iff.mp h
  have hbodies : x.bodies.map bodyImage = y.bodies.map bodyImage := congrArg Prod.fst himage
  refine ⟨isCte_eq_of_image himage, assignment?_eq_of_image hx hy himage, fun b => ?_⟩
  rw [Builder.writeCte_eq_head, Builder.writeCte_eq_head]
  match hbody : x.bodies, hother : y.bodies with
  | [], [] => exact ⟨b, rfl, rfl⟩
  | [], _ :: _ | _ :: _, [] => simp [hbody, hother] at hbodies
  | body :: _, other :: _ =>
    have hmem : body ∈ x.bodies := hbody ▸ List.mem_cons_self
    have hmem' : other ∈ y.bodies := hother ▸ List.mem_cons_self
    obtain ⟨s, hs, -⟩ := hsound.bodies body hmem
    obtain ⟨t, ht, -⟩ := hsound'.bodies other hmem'
    have hunsigned : s.unsigned = t.unsigned := by
      rw [hbody, hother, List.map_cons, List.map_cons, List.cons.injEq] at hbodies
      simpa [bodyImage, hs, ht, Except.map] using hbodies.1
    rw [unsigned_of_args (hx.arguments body hmem s hs),
      unsigned_of_args (hy.arguments other hmem' t ht)] at hunsigned
    exact writeSteps_eq_of_rendered (hx.texts body hmem) (hy.texts other hmem') hs
      (hunsigned ▸ ht) b

theorem Interchangeable.fragment_eq (h : Interchangeable x y) : x.fragment = y.fragment := by
  rw [fragment_eq_assignment, fragment_eq_assignment, h.assignment]

end Change

namespace Changes

open Change

variable {xs ys : Changes}

theorem interchangeable_of_agrees (hxs : ∀ x ∈ xs, x.Legible) (hys : ∀ y ∈ ys, y.Legible)
    (h : xs.agrees ys = .ok true) : List.Forall₂ Interchangeable xs ys := by
  rw [agrees_iff_forall₂] at h
  induction h with
  | nil => exact .nil
  | cons hxy _ ih =>
    obtain ⟨hx, hxs⟩ := List.forall_mem_cons.mp hxs
    obtain ⟨hy, hys⟩ := List.forall_mem_cons.mp hys
    exact .cons (Change.interchangeable_of_agrees hx hy hxy) (ih hxs hys)

theorem fragment_eq_of_interchangeable (h : List.Forall₂ Interchangeable xs ys) :
    Changes.fragment xs = Changes.fragment ys := by
  have hassigned : (xs.filter hasAssignment).map Change.fragment =
      (ys.filter hasAssignment).map Change.fragment := by
    induction h with
    | nil => rfl
    | @cons x y xs ys hxy _ ih =>
      have hassigns : x.hasAssignment = y.hasAssignment := by
        rw [hasAssignment_eq_isSome, hasAssignment_eq_isSome, hxy.assignment]
      simp only [List.filter_cons, hassigns]
      split
      next => rw [List.map_cons, List.map_cons, hxy.fragment_eq, ih]
      next => exact ih
  rw [Changes.fragment, Changes.fragment, hassigned]

end Changes

namespace Builder

open Change

theorem writeCtesFrom_eq_of_interchangeable {xs ys : Changes}
    (h : List.Forall₂ Interchangeable xs ys) (b : Builder) (position : Nat) :
    ∃ b', b.writeCtesFrom position xs = .ok b' ∧ b.writeCtesFrom position ys = .ok b' := by
  induction h generalizing b position with
  | nil => exact ⟨b, rfl, rfl⟩
  | @cons x y xs ys hxy _ ih =>
    rw [writeCtesFrom, writeCtesFrom, ← hxy.isCte]
    split
    next =>
      obtain ⟨b', hx, hy⟩ :=
        hxy.statement (b.writeText (", cte_" ++ toString position ++ " AS ("))
      rw [hx, hy]
      exact ih (b'.writeText ")") (position + 1)
    next => exact ih b (position + 1)

/-- Changes and lists of changes that agree write the same on every builder, text, arguments and
positions alike: the assignments for the SET list, and the statements for the WITH clause, none of
which is wrong. -/
theorem write_eq_of_agrees :
    (∀ x y : Change, x.Legible → y.Legible → x.agrees y = .ok true → ∀ b : Builder,
      b.writeAssignment x = b.writeAssignment y ∧
      ∃ b', b.writeCte x = .ok b' ∧ b.writeCte y = .ok b') ∧
    ∀ xs ys : Changes, (∀ x ∈ xs, x.Legible) → (∀ y ∈ ys, y.Legible) →
      xs.agrees ys = .ok true → ∀ b : Builder,
        b.writeAssignments xs = b.writeAssignments ys ∧
        ∃ b', b.writeCtes xs = .ok b' ∧ b.writeCtes ys = .ok b' := by
  refine ⟨fun x y hx hy h b => ?_, fun xs ys hxs hys h b => ?_⟩
  · have hxy := Change.interchangeable_of_agrees hx hy h
    refine ⟨?_, hxy.statement b⟩
    rw [writeAssignment_eq_write, writeAssignment_eq_write, hxy.fragment_eq]
  · have hxys := Changes.interchangeable_of_agrees hxs hys h
    refine ⟨?_, writeCtesFrom_eq_of_interchangeable hxys b 0⟩
    rw [writeAssignments_eq_write, writeAssignments_eq_write,
      Changes.fragment_eq_of_interchangeable hxys]

/-- A statement around another one, and innermost an assignment. -/
def deleting (body : List Step) (mark : Nat) : Change :=
  .cte body mark (some (.cte [.text "DELETE FROM b"] 1 (some (.set (.named "t" "n")
    (.coalesce (.value (.text "y")) (.value (.text "x")))))))

def deletionInTexts : List Step :=
  [.text "DELETE FROM a WHERE (a.u", .text " = ", .arg (.value (.text "x")), .text " AND a.v = ",
    .arg (.value (.text "y")), .text " AND a.w = ", .arg (.value (.text "x")), .text ")"]

def deletionByCondition : List Step :=
  let equals (name value : String) : Condition :=
    .comparison (.named "a" name) (.text .equal) (.value (.text value))
  [.text "DELETE FROM a", .whereClause (.and [equals "u" "x", equals "v" "y", equals "w" "x"])]

theorem rendered_deletionInTexts :
    rendered deletionInTexts =
      .ok ⟨"DELETE FROM a WHERE (a.u = $1 AND a.v = $2 AND a.w = $1)", [.text "x", .text "y"]⟩ := by
  rw [rendered_of_fragments rfl]
  rfl

theorem rendered_deletionByCondition : rendered deletionByCondition = rendered deletionInTexts := by
  rw [rendered_deletionInTexts, rendered_of_fragments rfl]
  rfl

theorem rendered_inner : rendered [.text "DELETE FROM b"] = .ok ⟨"DELETE FROM b", []⟩ := by
  rw [rendered_of_fragments rfl]
  rfl

theorem legible_deleting {body : List Step} (hbody : rendered body = rendered deletionInTexts)
    (htexts : ∀ s ∈ Step.namesAll body, ClearText s) (mark : Nat) :
    (deleting body mark).Legible := by
  have hassigned : (deleting body mark).fragment.literals = [.text "y", .text "x"] := rfl
  have hinner : ∀ s ∈ Step.namesAll [.text "DELETE FROM b"], ClearText s := by decide
  refine ⟨?_, ?_, List.forall_mem_cons.mpr ⟨htexts, List.forall_mem_singleton.mpr hinner⟩⟩
  · rw [hassigned]
    decide
  · refine List.forall_mem_cons.mpr ⟨fun s hs => ?_, List.forall_mem_singleton.mpr fun s hs => ?_⟩
    · obtain rfl := Except.ok.inj ((hbody.trans rendered_deletionInTexts).symm.trans hs)
      decide
    · obtain rfl := Except.ok.inj (rendered_inner.symm.trans hs)
      decide

theorem agrees_deleting :
    (deleting deletionInTexts 0).agrees (deleting deletionByCondition 2) = .ok true := by
  refine agrees_around.mpr ⟨agrees_around.mpr ⟨congrArg Except.ok (by decide), ?_⟩, ?_⟩
  · simp only [rendersSame, rendered_inner]
    exact congrArg Except.ok (by decide)
  · simp only [rendersSame, rendered_deletionByCondition, rendered_deletionInTexts]
    exact congrArg Except.ok (by decide)

/-- The one is put together from texts and the other from a condition. The second text is bound
before, so that what is first on an empty builder comes second. -/
theorem deletions_interchangeable :
    let x := deleting deletionInTexts 0
    let y := deleting deletionByCondition 2
    let z := Change.toNull (.named "t" "m")
    let b := (start "SELECT ").writeArg (.value (.text "y"))
    x.Legible ∧ y.Legible ∧ z.Legible ∧ x.agrees y = .ok true ∧ x.same y = false ∧
      (∃ b', b.writeCte x = .ok b' ∧ b.writeCte y = .ok b' ∧
        b'.sql = "SELECT $1DELETE FROM a WHERE (a.u = $2 AND a.v = $1 AND a.w = $2)") ∧
      ∃ b', b.writeCtes [z, x] = .ok b' ∧ b.writeCtes [z, y] = .ok b' ∧
        b'.sql =
          "SELECT $1, cte_1 AS (DELETE FROM a WHERE (a.u = $2 AND a.v = $1 AND a.w = $2))" := by
  intro x y z b
  have hx : x.Legible := legible_deleting rfl (by decide) 0
  have hy : y.Legible := legible_deleting rendered_deletionByCondition (by decide) 2
  have hz : z.Legible := ⟨List.forall_mem_nil _, nofun, nofun⟩
  have hpair {w : Change} (hw : w.Legible) : ∀ v ∈ [z, w], v.Legible :=
    List.forall_mem_cons.mpr ⟨hz, List.forall_mem_singleton.mpr hw⟩
  have hlists : Changes.agrees [z, x] [z, y] = .ok true := by
    have hself : z.agrees z = .ok true := congrArg Except.ok (by decide)
    exact Changes.agrees_iff_forall₂.mpr (.cons hself (.cons agrees_deleting .nil))
  obtain ⟨-, c, hc, hc'⟩ := write_eq_of_agrees.1 x y hx hy agrees_deleting b
  obtain ⟨-, d, hd, hd'⟩ := write_eq_of_agrees.2 [z, x] [z, y] (hpair hx) (hpair hy) hlists b
  have hsql (f : Fragment) : (b.write f).sql = _ :=
    sql_write_start "SELECT " (.value (.text "y") :: f)
  have hf : Step.cteBody x = .ok _ := rfl
  have hg : Step.ctesFrom 0 [z, x] = .ok _ := rfl
  refine ⟨hx, hy, hz, agrees_deleting, by decide, ⟨c, hc, hc', ?_⟩, d, hd, hd', ?_⟩
  · have htext : (b.writeCte x).map Builder.sql =
        .ok "SELECT $1DELETE FROM a WHERE (a.u = $2 AND a.v = $1 AND a.w = $2)" := by
      rw [writeCte_eq_write, hf]
      exact congrArg Except.ok ((hsql _).trans (by decide +kernel))
    rw [hc] at htext
    exact Except.ok.inj htext
  · have htext : (b.writeCtes [z, x]).map Builder.sql =
        .ok "SELECT $1, cte_1 AS (DELETE FROM a WHERE (a.u = $2 AND a.v = $1 AND a.w = $2))" := by
      rw [writeCtes, writeCtesFrom_eq_write, hg]
      exact congrArg Except.ok ((hsql _).trans (by decide +kernel))
    rw [hd] at htext
    exact Except.ok.inj htext

end Builder

end BoundSql
