import BoundSql.Proofs.Json.Fields
import BoundSql.Proofs.Statement.Refinement
import BoundSql.Proofs.Value.Key

namespace BoundSql

namespace Value

def ofFields (fields : List (String × Json)) : Value := json (Json.ofFields fields)

theorem position_eq_iff {args : List Value} {v w : Value} (hv : v.key ∈ args.map key) :
    w.position args = v.position args ↔ v = w := by
  refine ⟨fun h => ?_, fun h => by rw [h]⟩
  exact key_injective ((List.idxOf_inj hv).mp (Nat.succ.inj h).symm)

theorem getElem?_position {args : List Value} {v : Value} (hv : v.key ∈ args.map key) :
    args[v.position args - 1]? = some v := by
  have hlt := List.idxOf_lt_length_of_mem hv
  have hkey : (args.map key)[(args.map key).idxOf v.key]? = some v.key := by
    rw [List.getElem?_eq_getElem hlt, List.getElem_idxOf hlt]
  rw [List.getElem?_map, Option.map_eq_some_iff] at hkey
  obtain ⟨w, hw, hkeys⟩ := hkey
  rw [position, Nat.add_sub_cancel, hw, key_injective hkeys]

end Value

namespace Builder

variable {b : Builder}

theorem Consistent.bind (hb : b.Consistent) (v : Value) :
    (b.bind v).2.Consistent ∧ v.key ∈ (b.bind v).2.keys ∧
      b.args <+: (b.bind v).2.args ∧ (b.bind v).1 = v.position (b.bind v).2.args := by
  have hp := hb.positions_eq v.key
  by_cases h : v.key ∈ b.keys
  · rw [if_pos h] at hp
    simp only [Builder.bind, hp]
    exact ⟨hb, h, List.prefix_rfl, rfl⟩
  · rw [if_neg h] at hp
    simp only [Builder.bind, hp]
    exact ⟨hb.append h, by simp [keys], List.prefix_append _ _, (Value.position_concat h).symm⟩

/-- Keys tell literals of any kind, JSON objects by what they hold under each key. A literal that is
bound once more, whatever steps are written in between, has the position it had, and no other
literal has it: the arguments at their positions are the literals themselves. -/
theorem same_placeholder_iff (hb : b.Reachable) (v w : Value) :
    (v.key = w.key ↔ v = w) ∧
      (∀ fs gs, (Value.ofFields fs).key = (Value.ofFields gs).key ↔
        ∀ k, (Json.ofFields fs).field? k = (Json.ofFields gs).field? k) ∧
      ∀ (steps : List Step) (b' : Builder), (b.bind v).2.writeSteps steps = .ok b' →
        ((b'.bind w).1 = (b.bind v).1 ↔ v = w) ∧
          (b'.bind w).2.args[(b'.bind w).1 - 1]? = some w ∧
          (b'.bind w).2.args[(b.bind v).1 - 1]? = some v := by
  refine ⟨⟨Value.key_injective, fun h => by rw [h]⟩, fun fs gs => ?_, fun steps b' hsteps => ?_⟩
  · rw [← Json.ofFields_eq_iff]
    exact ⟨fun h => Value.json.inj (Value.key_injective h), fun h => by rw [Value.ofFields, h]; rfl⟩
  · obtain ⟨hc, hv, -, hvplace⟩ := hb.consistent.bind v
    obtain ⟨f, hwrite⟩ : ∃ f, (b.bind v).2.write f = b' := by
      rw [writeSteps_eq_write] at hsteps
      cases hf : Step.fragments steps with
      | error m => cases hf ▸ hsteps
      | ok f => exact ⟨f, Except.ok.inj (hf ▸ hsteps)⟩
    obtain ⟨hc', hargs, -⟩ := hc.write f
    rw [hwrite] at hc' hargs
    obtain ⟨-, hw, ⟨more, hmore⟩, hwplace⟩ := hc'.bind w
    -- positions are read off the final arguments, to which those before are a beginning
    rw [hargs, List.append_assoc] at hmore
    have hplace : (b.bind v).1 = v.position (b'.bind w).2.args := by
      rw [← hmore, Value.position_append hv, hvplace]
    have hvfinal : v.key ∈ (b'.bind w).2.args.map Value.key := by
      rw [← hmore, List.map_append]
      exact List.mem_append_left _ hv
    rw [hplace, hwplace]
    exact ⟨Value.position_eq_iff hvfinal, Value.getElem?_position hw,
      Value.getElem?_position hvfinal⟩

/-- Fields in another order make the same literal, and 1.0 in place of 1 another one. -/
theorem same_placeholder_in_any_order :
    ∃ b' : Builder,
      ((start "SELECT ").bind (.ofFields [("b", .ofInt 1), ("a", .array [])])).2.writeSteps
          [.text " + ", .arg (.value (.text "a"))] = .ok b' ∧
      (b'.bind (.ofFields [("a", .array []), ("b", .ofInt 1)])).1 =
        ((start "SELECT ").bind (.ofFields [("b", .ofInt 1), ("a", .array [])])).1 ∧
      (b'.bind (.ofFields [("a", .array []),
          ("b", .number (.double ⟨⟨0x3FF0000000000000⟩, rfl⟩))])).1 ≠
        ((start "SELECT ").bind (.ofFields [("b", .ofInt 1), ("a", .array [])])).1 := by
  have h (w : Value) := (same_placeholder_iff (.start "SELECT ")
    (.ofFields [("b", .ofInt 1), ("a", .array [])]) w).2.2
    [.text " + ", .arg (.value (.text "a"))] _ rfl
  refine ⟨_, rfl, (h _).1.mpr rfl, fun hsame => ?_⟩
  have heq := (h _).1.mp hsame
  cases heq

end Builder

end BoundSql
