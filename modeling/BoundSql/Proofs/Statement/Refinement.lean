import BoundSql.Proofs.Statement.Placeholders

namespace BoundSql.Builder

/-- Builders in use: begun with a text, and written on step by step. -/
inductive Reachable : Builder → Prop
  | start (sql : String) : Reachable (start sql)
  | step {b b' : Builder} (s : Step) : Reachable b → b.writeStep s = .ok b' → Reachable b'

theorem Reachable.consistent {b : Builder} (hb : b.Reachable) : b.Consistent := by
  induction hb with
  | start sql => exact consistent_start sql
  | @step b b' s _ hs ih =>
    rw [writeStep_eq_write] at hs
    cases hf : s.fragment with
    | error m => simp [hf, Except.map] at hs
    | ok f =>
      simp only [hf, Except.map, Except.ok.injEq] at hs
      rw [← hs]
      exact (ih.write f).1

theorem Consistent.mem_keys_write {b : Builder} (hb : b.Consistent) {f : Fragment} {v : Value}
    (hv : v ∈ f.literals) : v.key ∈ (b.write f).keys := by
  induction f generalizing b with
  | nil => simp [Fragment.literals] at hv
  | cons piece f ih =>
    cases piece with
    | text s => exact ih (hb.writeText s) hv
    | value w =>
      obtain ⟨hw, hmem, _⟩ := hb.writeValue w
      rcases List.mem_cons.mp hv with rfl | hv
      · have hargs := (hw.write f).2.1
        rw [write_value, keys, hargs, List.map_append]
        exact List.mem_append_left _ hmem
      · exact ih hw hv

theorem Consistent.position_unique {b : Builder} (hb : b.Consistent) {v : Value}
    (hv : v.key ∈ b.keys) :
    ∃ i, v.position b.args = i + 1 ∧ ∀ j, b.keys[j]? = some v.key ↔ j = i := by
  refine ⟨b.keys.idxOf v.key, rfl, fun j => ⟨?_, ?_⟩⟩
  · intro hj
    obtain ⟨hlt, hget⟩ := List.getElem?_eq_some_iff.mp hj
    rw [← hget, hb.keys_nodup.idxOf_getElem]
  · rintro rfl
    exact List.getElem?_eq_some_iff.mpr
      ⟨List.idxOf_lt_length_of_mem hv, List.getElem_idxOf (List.idxOf_lt_length_of_mem hv)⟩

theorem Consistent.write_prefix {b : Builder} (hb : b.Consistent) (f g : Fragment) :
    (b.write f).args <+: (b.write (f ++ g)).args ∧
      ∃ rest, (b.write (f ++ g)).sql = (b.write f).sql ++ rest := by
  obtain ⟨_, hargs, hsql⟩ := (hb.write f).1.write g
  rw [write_append]
  exact ⟨⟨_, hargs.symm⟩, _, hsql⟩

/-- Steps write one fragment on every builder in use, unless one of them is wrong. Its literals are
appended to the arguments as far as their keys are not bound, and each is written as the placeholder
of the only argument of its key; what stands there before, and at any point between, is kept. -/
theorem writeSteps_gives_out_placeholders {b : Builder} (hb : b.Reachable) (steps : List Step) :
    (∀ m, Step.fragments steps = .error m → b.writeSteps steps = .error m) ∧
    (∀ f, Step.fragments steps = .ok f →
      b.writeSteps steps = .ok (b.write f) ∧
        (b.write f).args = b.args ++ Value.unbound b.keys f.literals ∧
        (b.write f).sql = b.sql ++ f.render (b.write f).args ∧
        (∀ v ∈ f.literals, ∃ i, v.position (b.write f).args = i + 1 ∧
          ∀ j, (b.write f).keys[j]? = some v.key ↔ j = i) ∧
        ∀ f₁ f₂, f = f₁ ++ f₂ →
          (b.write f₁).Consistent ∧ b.args <+: (b.write f₁).args ∧
            (b.write f₁).args <+: (b.write f).args ∧
            ∃ rest, (b.write f).sql = (b.write f₁).sql ++ rest) ∧
    ∀ i : Instruction, b.writeArg (.instruction i) = b.writeText i.sql := by
  have hc := hb.consistent
  refine ⟨?_, ?_, fun i => rfl⟩
  · intro m hm
    rw [writeSteps_eq_write, hm]
    rfl
  · intro f hf
    obtain ⟨hc', hargs, hsql⟩ := hc.write f
    refine ⟨by rw [writeSteps_eq_write, hf]; rfl, hargs, hsql, ?_, ?_⟩
    · intro v hv
      exact hc'.position_unique (hc.mem_keys_write hv)
    · intro f₁ f₂ hsplit
      obtain ⟨hc₁, hargs₁, _⟩ := hc.write f₁
      rw [hsplit]
      exact ⟨hc₁, ⟨_, hargs₁.symm⟩, hc.write_prefix f₁ f₂⟩

/-- An UPDATE behind a WITH clause that has bound a literal. A statement in the clause, the SET list
and two nested conditions share it and each other's literals; the empty group writes nothing. -/
def updateSteps : List Step :=
  [.ctes [.toNull (.named "t" "d"),
      .cte [.text "INSERT INTO u VALUES (",
        .args [.value (.text "b"), .instruction .now, .value (.text "a")], .text ")"] 0 none],
    .text " UPDATE t SET ", .set [.set (.named "t" "n") (.value (.text "b"))],
    .whereClause (.and [.or [],
      .comparison (.coalesce (.named "t" "k") (.value (.number (.int 5)))) (.text .equal)
        (.value (.text "a")),
      .existsIn "u" (.comparison (.named "u" "k") (.text .equalIgnoreCase) (.value (.text "c")))])]

theorem writeSteps_shares_placeholders :
    ∃ b : Builder, b.Reachable ∧ b.args = [.text "a"] ∧ ∃ f, Step.fragments updateSteps = .ok f ∧
      b.writeSteps updateSteps = .ok (b.write f) ∧
      (b.write f).args = [.text "a", .text "b", .number (.int 5), .text "c"] ∧
      (b.write f).sql =
        "WITH base AS (SELECT $1), cte_1 AS (INSERT INTO u VALUES ($2, NOW(), $1))" ++
        " UPDATE t SET n = $2 WHERE (COALESCE(t.k, $3) = $1 AND EXISTS (SELECT 1 FROM u" ++
        " WHERE LOWER(u.k) = LOWER($4)))" := by
  have hb : ((start "WITH base AS (SELECT ").write [.value (.text "a"), .text ")"]).Reachable :=
    .step (.text ")") (.step (.arg (.value (.text "a"))) (.start "WITH base AS (SELECT ") rfl) rfl
  obtain ⟨-, h, -⟩ := writeSteps_gives_out_placeholders hb updateSteps
  obtain ⟨hok, hargs, hsql, -⟩ := h _ rfl
  rw [keys, args_write_start] at hargs
  have hbound := hargs.trans
    (by rfl : _ = [Value.text "a", .text "b", .number (.int 5), .text "c"])
  refine ⟨_, hb, args_write_start _ _, _, rfl, hok, hbound, ?_⟩
  rw [hsql, hbound, sql_write_start]
  decide +kernel

end BoundSql.Builder
