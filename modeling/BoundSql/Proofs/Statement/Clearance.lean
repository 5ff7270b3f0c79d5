import BoundSql.Proofs.Statement.Spacing

namespace BoundSql

/-- A text without a dollar sign that does not begin with a digit. -/
def ClearText (s : String) : Prop := Plain s ∧ (s.toList.head?.any Char.isDigit) = false

instance (s : String) : Decidable (ClearText s) := inferInstanceAs (Decidable (_ ∧ _))

theorem Separates.clearText {s : String} (h : Separates s) : ClearText s := by
  refine ⟨h.1, ?_⟩
  have hany := h.2
  cases hhead : s.toList.head? with
  | none => rfl
  | some c => simpa [hhead] using hany

theorem ClearText.append {s t : String} (hs : ClearText s) (ht : ClearText t) :
    ClearText (s ++ t) := by
  refine ⟨plain_append.mpr ⟨hs.1, ht.1⟩, ?_⟩
  have hany := hs.2
  rw [String.toList_append, List.head?_append]
  cases hhead : s.toList.head? with
  | none => exact ht.2
  | some c => simpa [hhead] using hany

instance : TextKind ClearText where
  plain := And.left
  of_separates := Separates.clearText
  empty := by decide
  append := ClearText.append

theorem plain_toString (n : Nat) : Plain (toString n) := by
  intro hmem
  rw [Nat.toString_eq_repr, Nat.toList_repr] at hmem
  exact absurd (Digits.isDigit_toDigits _ hmem) (by decide)

namespace Fragment

/-- Clear texts can stand behind a literal, whatever comes first among them. -/
theorem Spaced.follows {f : Fragment} (h : f.Spaced ClearText) : f.Follows ClearText := by
  refine ⟨h, ?_⟩
  induction f with
  | nil => exact nofun
  | cons piece f ih =>
    cases piece with
    | value v =>
      rintro c ⟨⟩
      rfl
    | text s =>
      obtain ⟨hs, hf⟩ := h
      intro c hc
      have hany := hs.2
      cases hhead : s.toList.head? with
      | none =>
        -- the text is empty, and something behind it comes first
        exact ih hf c (by simpa [first?, hhead] using hc)
      | some d =>
        obtain rfl : d = c := by simpa [first?, hhead] using hc
        simpa [hhead] using hany

end Fragment

open Fragment

namespace Step

mutual

/-- The texts and names that a step is written with. -/
def names : Step → List String
  | text s => [s]
  | arg _ | args _ | wrong _ => []
  | qualified c | unqualified c => c.names
  | columns cs | columnsUnqualified cs => cs.flatMap Column.names
  | condition k | whereClause k => k.names
  | options o => o.names
  | set chs => Changes.names chs
  | ctes chs => cteNames chs
  | operation _ c _ => c.names
  | fromTable t => t.names

def namesAll : List Step → List String
  | [] => []
  | s :: steps => names s ++ namesAll steps

def cteNames : Changes → List String
  | [] => []
  | .cte body _ _ :: chs => namesAll body ++ cteNames chs
  | .set _ _ :: chs | .increment _ _ :: chs | .setJson _ _ _ :: chs => cteNames chs

end

theorem separates_cteOpening (position : Nat) :
    Separates (", cte_" ++ toString position ++ " AS (") :=
  ((show Separates ", cte_" by decide).append (plain_toString position)).append (by decide)

mutual

/-- The induction follows the steps and the statements that changes carry; a wrong step leaves no
fragment. -/
theorem spaced_fragment : ∀ (s : Step), (∀ t ∈ s.names, ClearText t) →
    ∀ f, s.fragment = .ok f → f.Spaced ClearText
  | .text _, h, _, rfl => ⟨h _ List.mem_cons_self, trivial⟩
  | .arg a, _, _, rfl => a.spaced_fragment
  | .args _, _, _, rfl =>
    spaced_join (by decide) (List.forall_mem_map.mpr fun a _ => a.spaced_fragment)
  | .qualified _, h, _, rfl => Column.spaced_qualified h
  | .unqualified _, h, _, rfl => Column.spaced_unqualified h
  | .columns _, h, _, rfl => Columns.spaced_qualified h
  | .columnsUnqualified _, h, _, rfl => Columns.spaced_unqualified h
  | .condition k, h, _, rfl => k.spaced_fragment h
  | .whereClause _, h, _, rfl => (Condition.follows_whereFragment h).spaced
  | .options _, h, _, rfl => (Options.follows_fragment h).spaced
  | .set _, h, _, rfl => Changes.spaced_fragment h
  | .ctes chs, h, _, hf => spaced_ctesFrom 0 chs h _ hf
  | .operation op _ a, h, _, rfl => op.spaced_fragment h a
  | .fromTable _, h, _, rfl => ⟨Table.fromClause_of_names h, trivial⟩

theorem spaced_fragments : ∀ (steps : List Step), (∀ t ∈ namesAll steps, ClearText t) →
    ∀ f, fragments steps = .ok f → f.Spaced ClearText
  | [], _, _, rfl => trivial
  | s :: steps, h, f, hf => by
    obtain ⟨hs, hsteps⟩ := List.forall_mem_append.mp h
    rw [fragments] at hf
    cases hstep : s.fragment with
    | error m => simp [hstep] at hf
    | ok g =>
      cases hrest : fragments steps with
      | error m => simp [hstep, hrest, Except.map] at hf
      | ok rest =>
        simp only [hstep, hrest, Except.map, Except.ok.injEq] at hf
        subst hf
        have hspaced := spaced_fragments steps hsteps rest hrest
        exact (spaced_fragment s hs g hstep).append hspaced.follows

theorem spaced_ctesFrom : ∀ (position : Nat) (chs : Changes), (∀ t ∈ cteNames chs, ClearText t) →
    ∀ f, ctesFrom position chs = .ok f → f.Spaced ClearText
  | _, [], _, _, rfl => trivial
  | position, .set _ _ :: chs, h, f, hf => spaced_ctesFrom (position + 1) chs h f hf
  | position, .increment _ _ :: chs, h, f, hf => spaced_ctesFrom (position + 1) chs h f hf
  | position, .setJson _ _ _ :: chs, h, f, hf => spaced_ctesFrom (position + 1) chs h f hf
  | position, .cte body _ _ :: chs, h, f, hf => by
    obtain ⟨hbody, hchs⟩ := List.forall_mem_append.mp h
    simp only [ctesFrom, Change.isCte, if_true, cteBody] at hf
    cases hstatement : fragments body with
    | error m => simp [hstatement] at hf
    | ok g =>
      cases hrest : ctesFrom (position + 1) chs with
      | error m => simp [hstatement, hrest, Except.map] at hf
      | ok rest =>
        simp only [hstatement, hrest, Except.map, Except.ok.injEq] at hf
        subst hf
        have hspaced := spaced_fragments body hbody g hstatement
        have hspacedRest := spaced_ctesFrom (position + 1) chs hchs rest hrest
        have hopened := follows_text (separates_cteOpening position) hspaced
        exact hopened.spaced.append (follows_text (by decide) hspacedRest)

end

end Step

end BoundSql
