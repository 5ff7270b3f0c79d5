import BoundSql.Proofs.Statement.Sharing
import BoundSql.Proofs.Value.Received

namespace BoundSql.Value

variable {v w : Value}

/-- What is sent depends on the key alone. -/
theorem sent_eq_of_key_eq (h : v.key = w.key) (type : WireType) :
    v.checked? type = w.checked? type ∧ v.unchecked? type = w.unchecked? type := by
  obtain rfl := key_injective h
  exact ⟨rfl, rfl⟩

/-- The argument at the position of a literal has its key. -/
theorem key_getElem?_position {args : List Value} (hv : v.key ∈ args.map key) :
    ∃ w, args[v.position args - 1]? = some w ∧ w.key = v.key :=
  ⟨v, getElem?_position hv, rfl⟩

/-- Where the checked form gives bytes, the unchecked one gives the same; it gives bytes elsewhere
too, but not for numbers, of which both forms are one. Literals with one key are sent alike in both
forms, and so each literal of a statement is sent as the argument that its placeholder stands
for. -/
theorem forms_agree (v : Value) (type : WireType) :
    (∀ bs, v.checked? type = some bs ↔ v.Fits type ∧ v.unchecked? type = some bs) ∧
      (v.unchecked? type = none ↔ ∃ n, v = number n ∧ ¬ v.Fits type) ∧
      (∀ n, (number n).checked? type = (number n).unchecked? type) ∧
      (∀ w : Value, v.key = w.key →
        v.checked? type = w.checked? type ∧ v.unchecked? type = w.unchecked? type) ∧
      ∀ (b : Builder) (steps : List Step) (f : Fragment), b.Reachable →
        Step.fragments steps = .ok f → v ∈ f.literals →
          b.writeSteps steps = .ok (b.write f) ∧
            ∃ w, (b.write f).args[v.position (b.write f).args - 1]? = some w ∧
              w.checked? type = v.checked? type ∧ w.unchecked? type = v.unchecked? type := by
  refine ⟨fun bs => checked?_eq_some_iff, unchecked?_eq_none_iff, fun n => rfl,
    fun w h => sent_eq_of_key_eq h type, fun b steps f hb hf hv => ?_⟩
  have hwrite : b.writeSteps steps = .ok (b.write f) := by
    rw [Builder.writeSteps_eq_write, hf]
    rfl
  obtain ⟨w, hw, hkey⟩ := key_getElem?_position (hb.consistent.mem_keys_write hv)
  exact ⟨hwrite, w, hw, sent_eq_of_key_eq hkey type⟩

/-- A JSON object that is bound twice, the second time with its fields in another order. -/
def objectSteps : List Step :=
  [.text "SELECT ", .arg (.value (.ofFields [("b", .ofInt 1), ("a", .array [])])), .text " = ",
    .arg (.value (.ofFields [("a", .array []), ("b", .ofInt 1)]))]

def objectFragment : Fragment :=
  [.text "SELECT ", .value (.ofFields [("b", .ofInt 1), ("a", .array [])]), .text " = ",
    .value (.ofFields [("a", .array []), ("b", .ofInt 1)])]

theorem object_sent_alike :
    (ofFields [("b", .ofInt 1), ("a", .array [])]).checked? .jsonb =
        (ofFields [("a", .array []), ("b", .ofInt 1)]).checked? .jsonb ∧
      Builder.empty.writeSteps objectSteps = .ok (Builder.empty.write objectFragment) ∧
      ∃ w, (Builder.empty.write objectFragment).args = [w] ∧
        w.checked? .jsonb = (ofFields [("a", .array []), ("b", .ofInt 1)]).checked? .jsonb := by
  obtain ⟨-, -, -, hkeys, hplace⟩ :=
    forms_agree (ofFields [("a", .array []), ("b", .ofInt 1)]) .jsonb
  have hsame := hkeys (ofFields [("b", .ofInt 1), ("a", .array [])]) rfl
  obtain ⟨hwrite, w, hw, hsent, -⟩ := hplace Builder.empty objectSteps objectFragment (.start "")
    rfl (List.mem_cons_of_mem _ List.mem_cons_self)
  have hargs : (Builder.empty.write objectFragment).args =
      [ofFields [("a", .array []), ("b", .ofInt 1)]] := Builder.args_write_start "" objectFragment
  rw [hargs, position, List.map_singleton, List.idxOf_cons_self] at hw
  obtain rfl := Option.some.inj hw
  exact ⟨hsame.1.symm, hwrite, _, hargs, hsent⟩

end BoundSql.Value
