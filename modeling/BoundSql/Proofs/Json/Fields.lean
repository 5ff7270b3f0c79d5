import BoundSql.Json.Basic

namespace BoundSql.Json

/-- Fields in the order of their keys, each key once. -/
def Ordered (fields : List (String × Json)) : Prop := fields.Pairwise fun f g => f.1 < g.1

theorem mem_insertField {key : String} {value : Json} {fields : List (String × Json)}
    {f : String × Json} (h : f ∈ insertField key value fields) : f = (key, value) ∨ f ∈ fields := by
  induction fields with
  | nil => exact .inl (List.mem_singleton.mp h)
  | cons g fields ih =>
    rw [insertField] at h
    split at h
    · exact List.mem_cons.mp h
    split at h
    · exact (List.mem_cons.mp h).imp_right (List.mem_cons_of_mem g)
    · rcases List.mem_cons.mp h with rfl | h
      · exact .inr List.mem_cons_self
      · exact (ih h).imp_right (List.mem_cons_of_mem g)

theorem Ordered.insertField (key : String) (value : Json) {fields : List (String × Json)}
    (h : Ordered fields) : Ordered (insertField key value fields) := by
  induction fields with
  | nil => exact List.pairwise_singleton _ _
  | cons g fields ih =>
    obtain ⟨hhead, htail⟩ := List.pairwise_cons.mp h
    rw [Json.insertField]
    split
    case isTrue hlt =>
      refine List.pairwise_cons.mpr ⟨fun f hf => ?_, h⟩
      rcases List.mem_cons.mp hf with rfl | hf
      · exact hlt
      · exact String.lt_trans hlt (hhead f hf)
    split
    case isTrue heq =>
      subst heq
      exact List.pairwise_cons.mpr ⟨hhead, htail⟩
    case isFalse hge hne =>
      refine List.pairwise_cons.mpr ⟨fun f hf => ?_, ih htail⟩
      rcases mem_insertField hf with rfl | hf
      · exact String.not_le.mp fun hle => hne (String.le_antisymm hle (String.not_lt.mp hge))
      · exact hhead f hf

theorem Ordered.foldl (fields : List (String × Json)) {acc : List (String × Json)}
    (h : Ordered acc) :
    Ordered (fields.foldl (fun acc f => Json.insertField f.1 f.2 acc) acc) := by
  induction fields generalizing acc with
  | nil => exact h
  | cons f fields ih => exact ih (h.insertField f.1 f.2)

theorem lookup_eq_none {k : String} {fields : List (String × Json)}
    (h : ∀ f ∈ fields, k < f.1) : fields.lookup k = none := by
  rw [List.lookup_eq_none_iff]
  intro f hf
  have hne : k ≠ f.1 := fun heq => String.lt_irrefl k (by simpa [← heq] using h f hf)
  simpa using hne

/-- The first key of ordered fields is the least. -/
theorem Ordered.lookup_of_lt {k l : String} {a : Json} {fields : List (String × Json)}
    (h : Ordered ((l, a) :: fields)) (hkl : k < l) : List.lookup k ((l, a) :: fields) = none := by
  refine lookup_eq_none fun f hf => ?_
  rcases List.mem_cons.mp hf with rfl | hf
  · exact hkl
  · exact String.lt_trans hkl ((List.pairwise_cons.mp h).1 f hf)

theorem Ordered.ext {fs gs : List (String × Json)} (hf : Ordered fs) (hg : Ordered gs)
    (h : ∀ k, fs.lookup k = gs.lookup k) : fs = gs := by
  induction fs generalizing gs with
  | nil =>
    cases gs with
    | nil => rfl
    | cons g gs => cases (h g.1).trans List.lookup_cons_self
  | cons f fs ih =>
    obtain ⟨k, a⟩ := f
    have hk : List.lookup k ((k, a) :: fs) = some a := List.lookup_cons_self
    cases gs with
    | nil => cases hk.symm.trans (h k)
    | cons g gs =>
      obtain ⟨l, b⟩ := g
      have hl : List.lookup l ((l, b) :: gs) = some b := List.lookup_cons_self
      -- of two different first keys the lesser one would be missing on the other side
      have hkl : ¬ k < l := fun hlt => by
        cases (hk.symm.trans (h k)).trans (hg.lookup_of_lt hlt)
      have hlk : ¬ l < k := fun hlt => by
        cases (hl.symm.trans (h l).symm).trans (hf.lookup_of_lt hlt)
      obtain rfl : k = l := String.le_antisymm (String.not_lt.mp hlk) (String.not_lt.mp hkl)
      obtain rfl : a = b := Option.some.inj (hk.symm.trans ((h k).trans hl))
      obtain ⟨hfhead, hftail⟩ := List.pairwise_cons.mp hf
      obtain ⟨hghead, hgtail⟩ := List.pairwise_cons.mp hg
      congr 1
      refine ih hftail hgtail fun k' => ?_
      by_cases hk' : k' = k
      · rw [hk', lookup_eq_none hfhead, lookup_eq_none hghead]
      · have hbeq : (k' == k) = false := beq_false_of_ne hk'
        simpa only [List.lookup_cons, hbeq] using h k'

/-- Objects are the same if they hold the same under each key, in whatever order their fields were
given. -/
theorem ofFields_eq_iff (fs gs : List (String × Json)) :
    ofFields fs = ofFields gs ↔ ∀ k, (ofFields fs).field? k = (ofFields gs).field? k := by
  refine ⟨fun h k => by rw [h], fun h => congrArg object ?_⟩
  have hnil : Ordered [] := List.Pairwise.nil
  exact (hnil.foldl fs).ext (hnil.foldl gs) h

end BoundSql.Json
