import Mathlib.Data.Bool.Basic
import Mathlib.Data.List.Chain
import BoundSql.Proofs.Condition.Pins
import BoundSql.Proofs.Condition.RoundTrip
import BoundSql.Proofs.Statement.Shown

namespace BoundSql

open Fragment

namespace Token

/-- Whether an operand can begin with the token. -/
def begins : Token → Bool
  | opening | terminal _ | existsIn _ => true
  | closing | connective _ | whereWord => false

/-- Whether an operand can end with the token. -/
def ends : Token → Bool
  | closing | terminal _ => true
  | opening | connective _ | existsIn _ | whereWord => false

/-- Whether a token can stand right behind another. Nothing but an operand stands behind a
connective, an opening parenthesis or a WHERE, and nothing but a connective or a closing parenthesis
behind an operand. -/
def admits : Token → Token → Bool
  | opening, t | connective _, t | whereWord, t => t.begins
  | closing, connective _ | closing, closing => true
  | terminal _, connective _ | terminal _, closing => true
  | existsIn _, whereWord | existsIn _, closing => true
  | _, _ => false

/-- Tokens that an operand can consist of, as far as neighbours tell. There are some; no connective
stands at an end, beside another one or just inside a parenthesis, and no parentheses are empty. -/
structure Joined (ts : List Token) : Prop where
  ne_nil : ts ≠ []
  begins : ∀ t ∈ ts.head?, t.begins = true
  ends : ∀ t ∈ ts.getLast?, t.ends = true
  admits : ts.IsChain fun t u => t.admits u = true

/-- The connectives at one level of parentheses. The first token stands at some depth. -/
def connectivesAt (level : Nat) : Nat → List Token → List Connective
  | _, [] => []
  | depth, opening :: ts | depth, existsIn _ :: ts => connectivesAt level (depth + 1) ts
  | depth, closing :: ts => connectivesAt level (depth - 1) ts
  | depth, connective op :: ts =>
    if depth = level then op :: connectivesAt level depth ts else connectivesAt level depth ts
  | depth, terminal _ :: ts | depth, whereWord :: ts => connectivesAt level depth ts

variable {ts us : List Token} {tss : List (List Token)}

theorem admits_connective {t : Token} (h : t.ends = true) (op : Connective) :
    t.admits (.connective op) = true := by
  cases t <;> first | rfl | cases h

theorem admits_closing {t : Token} (h : t.ends = true) : t.admits .closing = true := by
  cases t <;> first | rfl | cases h

theorem joined_terminal (t : Terminal) : Joined [.terminal t] where
  ne_nil := List.cons_ne_nil _ _
  begins := by simp [Token.begins]
  ends := by simp [Token.ends]
  admits := .singleton _

theorem Joined.connect (ht : Joined ts) (hu : Joined us) (op : Connective) :
    Joined (ts ++ .connective op :: us) where
  ne_nil := List.append_ne_nil_of_left_ne_nil ht.ne_nil _
  begins := by
    rw [List.head?_append_of_ne_nil _ ht.ne_nil]
    exact ht.begins
  ends := by
    rw [List.getLast?_append_cons, List.getLast?_cons_of_ne_nil hu.ne_nil]
    exact hu.ends
  admits := by
    refine List.isChain_append.mpr ⟨ht.admits, List.isChain_cons.mpr ⟨hu.begins, hu.admits⟩, ?_⟩
    intro t hlast u hhead
    cases Option.mem_some_iff.mp hhead
    exact admits_connective (ht.ends t hlast) op

/-- Behind what admits an operand, up to a closing parenthesis. -/
theorem Joined.enclose (h : Joined ts) {t : Token}
    (ht : ∀ u : Token, u.begins = true → t.admits u = true) :
    (t :: (ts ++ [closing])).IsChain fun t u => t.admits u = true := by
  refine List.isChain_cons.mpr ⟨?_, List.isChain_append.mpr ⟨h.admits, .singleton _, ?_⟩⟩
  · rw [List.head?_append_of_ne_nil _ h.ne_nil]
    exact fun u hu => ht u (h.begins u hu)
  · intro u hlast v hhead
    cases Option.mem_some_iff.mp hhead
    exact admits_closing (h.ends u hlast)

theorem Joined.parenthesize (h : Joined ts) : Joined (.opening :: (ts ++ [.closing])) where
  ne_nil := List.cons_ne_nil _ _
  begins := by simp [Token.begins]
  ends := by
    rw [List.getLast?_cons_of_ne_nil (by simp), List.getLast?_concat]
    simp [Token.ends]
  admits := h.enclose fun _ hu => hu

theorem joined_exists (table : String) : Joined [.existsIn table, .closing] where
  ne_nil := List.cons_ne_nil _ _
  begins := by simp [Token.begins]
  ends := by simp [Token.ends]
  admits := by simp [Token.admits]

theorem Joined.existsWhere (h : Joined ts) (table : String) :
    Joined (.existsIn table :: .whereWord :: (ts ++ [.closing])) where
  ne_nil := List.cons_ne_nil _ _
  begins := by simp [Token.begins]
  ends := by
    rw [List.getLast?_cons_cons, List.getLast?_cons_of_ne_nil (by simp), List.getLast?_concat]
    simp [Token.ends]
  admits := by
    refine List.isChain_cons.mpr ⟨?_, h.enclose fun _ hu => hu⟩
    simp [Token.admits]

theorem joined_join (h : ∀ ts ∈ tss, Joined ts) (hne : tss ≠ []) (op : Connective) :
    Joined (join op tss) := by
  induction tss with
  | nil => exact absurd rfl hne
  | cons ts tss ih =>
    obtain ⟨hts, htss⟩ := List.forall_mem_cons.mp h
    cases tss with
    | nil => simpa [join] using hts
    | cons us tss =>
      rw [join_cons_cons]
      exact hts.connect (ih htss (List.cons_ne_nil _ _)) op

theorem joined_group (h : ∀ ts ∈ tss, Joined ts) (hne : tss ≠ []) (op : Connective) :
    Joined (group op tss) := by
  match tss, h with
  | [], _ => exact absurd rfl hne
  | [ts], h => exact h ts List.mem_cons_self
  | ts :: us :: tss, h => exact (joined_join h (List.cons_ne_nil _ _) op).parenthesize

/-- Tokens that have no connective outside parentheses of their own, and close what they open. -/
def Enclosed (ts : List Token) : Prop :=
  ∀ level depth, level ≤ depth → ∀ rest,
    connectivesAt level depth (ts ++ rest) = connectivesAt level depth rest

theorem connectivesAt_join {level depth : Nat} (hdepth : level ≤ depth)
    (h : ∀ ts ∈ tss, Enclosed ts) (op : Connective) (rest : List Token) :
    connectivesAt level depth (join op tss ++ rest) =
      (if depth = level then List.replicate (tss.length - 1) op else []) ++
        connectivesAt level depth rest := by
  induction tss with
  | nil => simp [join]
  | cons ts tss ih =>
    obtain ⟨hts, htss⟩ := List.forall_mem_cons.mp h
    cases tss with
    | nil =>
      have hjoin : join op [ts] = ts := List.append_nil ts
      rw [hjoin, hts level depth hdepth]
      simp
    | cons us tss =>
      rw [join_cons_cons, List.append_assoc, hts level depth hdepth, List.cons_append,
        connectivesAt, ih htss]
      split
      next => rfl
      next => rfl

theorem enclosed_group (h : ∀ ts ∈ tss, Enclosed ts) (op : Connective) :
    Enclosed (group op tss) := by
  match tss, h with
  | [], _ => exact fun _ _ _ _ => rfl
  | [ts], h => exact h ts List.mem_cons_self
  | ts :: us :: tss, h =>
    intro level depth hdepth rest
    have hinside := connectivesAt_join (Nat.le_succ_of_le hdepth) h op (.closing :: rest)
    rw [if_neg (Nat.ne_of_gt (Nat.lt_succ_of_le hdepth))] at hinside
    simpa [group, connectivesAt] using hinside

end Token

theorem Terminal.shows_fragment (t : Terminal) : t.condition.fragment.Shows := by
  cases t with
  | isNull c | isNotNull c | columnsEqual c d => exact shows_append.mpr (.inl c.shows_qualified)
  | comparison c op a => exact op.shows_fragment c a

/-- Where an operand begins there is a text. -/
theorem Token.shows_fragment {t : Token} (h : t.begins = true) : t.fragment.Shows := by
  cases t with
  | opening => exact shows_text.mpr (.inl (by decide))
  | terminal t => exact t.shows_fragment
  | existsIn table => exact shows_text.mpr (.inl (by decide))
  | closing | connective op | whereWord => cases h

namespace Connective

/-- The condition that is a group of the members with the connective between them. -/
def condition : Connective → List Condition → Condition
  | and, ks => .and ks
  | or, ks => .or ks

end Connective

namespace Condition

open Token

/-- The level of parentheses at which a group's own connectives stand. A group with fewer than two
members that are written has no parentheses. -/
def level (ks : List Condition) : Nat := if 1 < filled ks then 1 else 0

theorem memberTokens_eq_map (ks : List Condition) :
    memberTokens ks = (ks.filter fun k => !k.isEmpty).map tokens := by
  induction ks with
  | nil => rfl
  | cons k ks ih =>
    rw [memberTokens, List.filter_cons, ih]
    cases k.isEmpty <;> rfl

theorem forall_mem_memberTokens {p : List Token → Prop} {ks : List Condition} :
    (∀ ts ∈ memberTokens ks, p ts) ↔ ∀ k ∈ ks, k.isEmpty = false → p k.tokens := by
  rw [memberTokens_eq_map, List.forall_mem_map]
  simp [List.mem_filter]

theorem length_memberTokens (ks : List Condition) : (memberTokens ks).length = filled ks := by
  rw [memberTokens_eq_map, List.length_map, filled, List.countP_eq_length_filter]

theorem memberTokens_eq_nil_iff {ks : List Condition} :
    memberTokens ks = [] ↔ allEmpty ks = true := by
  simp [memberTokens_eq_map, allEmpty_iff]

theorem tokens_condition (op : Connective) (ks : List Condition) :
    (op.condition ks).tokens = Token.group op (memberTokens ks) := by
  cases op <;> rw [Connective.condition, tokens]

theorem isEmpty_condition (op : Connective) (ks : List Condition) :
    (op.condition ks).isEmpty = allEmpty ks := by
  cases op <;> rw [Connective.condition, isEmpty]

theorem joined_tokens {k : Condition} (h : k.isEmpty = false) : Joined k.tokens := by
  have hgroup (op : Connective) {ks : List Condition}
      (ih : ∀ k ∈ ks, k.isEmpty = false → Joined k.tokens)
      (hks : (op.condition ks).isEmpty = false) : Joined (op.condition ks).tokens := by
    rw [tokens_condition]
    refine joined_group (forall_mem_memberTokens.mpr ih) ?_ op
    rw [Ne, memberTokens_eq_nil_iff, ← isEmpty_condition op, hks]
    exact Bool.false_ne_true
  induction k using induction_on_members with
  | and ks ih => exact hgroup .and ih h
  | or ks ih => exact hgroup .or ih h
  | existsIn table inner ih =>
    rw [tokens]
    cases hinner : inner.isEmpty with
    | true => exact joined_exists table
    | false => exact (ih hinner).existsWhere table
  | _ => exact joined_terminal _

theorem enclosed_tokens (k : Condition) : Enclosed k.tokens := by
  have hgroup (op : Connective) {ks : List Condition} (ih : ∀ k ∈ ks, Enclosed k.tokens) :
      Enclosed (op.condition ks).tokens := by
    rw [tokens_condition]
    exact enclosed_group (forall_mem_memberTokens.mpr fun k hk _ => ih k hk) op
  induction k using induction_on_members with
  | and ks ih => exact hgroup .and ih
  | or ks ih => exact hgroup .or ih
  | existsIn table inner ih =>
    intro level depth hdepth rest
    have hinner := ih level (depth + 1) (Nat.le_succ_of_le hdepth) (.closing :: rest)
    rw [tokens]
    cases inner.isEmpty with
    | true => rfl
    | false => simpa [connectivesAt] using hinner
  | _ => exact fun _ _ _ _ => rfl

/-- Between the members that are written there is one connective each time. -/
theorem connectivesAt_level (op : Connective) (ks : List Condition) :
    connectivesAt (level ks) 0 (op.condition ks).tokens = List.replicate (filled ks - 1) op := by
  by_cases hks : 1 < filled ks
  · have hjoin := connectivesAt_join (le_refl 1)
      (forall_mem_memberTokens.mpr fun k (_ : k ∈ ks) _ => enclosed_tokens k) op [.closing]
    rw [if_pos rfl, length_memberTokens] at hjoin
    rw [level, if_pos hks, tokens_condition]
    rw [← length_memberTokens] at hks
    match memberTokens ks, hks, hjoin with
    | ts :: us :: tss, _, hjoin => simpa [Token.group, connectivesAt] using hjoin
  · have hnone := enclosed_tokens (op.condition ks) 0 0 (le_refl 0) []
    have hfew : filled ks - 1 = 0 := by omega
    rw [List.append_nil] at hnone
    rw [level, if_neg hks, hnone, hfew]
    rfl

theorem tokens_of_isEmpty {k : Condition} (h : k.isEmpty = true) : k.tokens = [] := by
  have hgroup (op : Connective) {ks : List Condition} (hks : (op.condition ks).isEmpty = true) :
      (op.condition ks).tokens = [] := by
    rw [isEmpty_condition, ← memberTokens_eq_nil_iff] at hks
    rw [tokens_condition, hks]
    rfl
  cases k with
  | and ks => exact hgroup .and h
  | or ks => exact hgroup .or h
  | _ => cases h

theorem shows_fragment {k : Condition} (h : k.isEmpty = false) : k.fragment.Shows := by
  have hjoined := joined_tokens h
  obtain ⟨t, ts, hts⟩ := List.exists_cons_of_ne_nil hjoined.ne_nil
  have ht : t.begins = true := hjoined.begins t (by rw [hts]; rfl)
  rw [← fragments_tokens, hts, fragments_cons, shows_append]
  exact .inl (Token.shows_fragment ht)

theorem fragment_of_isEmpty {k : Condition} (h : k.isEmpty = true) : k.fragment = [] := by
  rw [← fragments_tokens, tokens_of_isEmpty h]
  rfl

/-- A condition is empty if and only if nothing is written of it, and then no WHERE is written. All
others write a text, the same behind a WHERE as without it, whose tokens leave no connective without
an operand and no parentheses without content, inside EXISTS and outside; each group has its own
connective one time less than it has members that are not empty. -/
theorem isEmpty_iff_writes_nothing (k : Condition) (b : Builder) :
    (k.isEmpty = true ↔
      (b.writeCondition k).sql = b.sql ∧ (b.writeCondition k).args = b.args) ∧
    (k.isEmpty = true → b.writeCondition k = b ∧ b.writeWhere k = b) ∧
    (k.isEmpty = false → Joined k.tokens ∧
      ∃ s, s ≠ "" ∧ (b.writeCondition k).sql = b.sql ++ s ∧
        b.writeWhere k = (b.writeCondition k).retexted (b.sql ++ " WHERE " ++ s)) ∧
    b.writeCondition k = b.write (Token.fragments k.tokens) ∧
    ∀ (op : Connective) (ks : List Condition),
      connectivesAt (level ks) 0 (op.condition ks).tokens = List.replicate (filled ks - 1) op := by
  obtain ⟨s, hs, happended⟩ := b.exists_appended k.fragment
  have hsql : (b.writeCondition k).sql = b.sql ++ s := by
    rw [Builder.writeCondition_eq_write]
    exact congrArg Builder.sql (happended b.sql)
  have hempty (h : k.isEmpty = true) : b.writeCondition k = b := by
    rw [Builder.writeCondition_eq_write, fragment_of_isEmpty h, Builder.write_nil]
  refine ⟨⟨fun h => by rw [hempty h]; exact ⟨rfl, rfl⟩, ?_⟩, ?_, ?_, ?_, connectivesAt_level⟩
  · rintro ⟨hsame, -⟩
    rw [hsql, String.append_eq_left_iff] at hsame
    refine Bool.eq_true_of_not_eq_false fun h => ?_
    exact hs.mpr (shows_fragment h) hsame
  · exact fun h => ⟨hempty h, if_pos h⟩
  · intro h
    refine ⟨joined_tokens h, s, hs.mpr (shows_fragment h), hsql, ?_⟩
    rw [Builder.writeWhere, h, Builder.writeCondition_eq_write, Builder.writeCondition_eq_write]
    exact happended (b.sql ++ " WHERE ")
  · rw [fragments_tokens, Builder.writeCondition_eq_write]

/-- Empty groups among the members, an EXISTS without a condition, and a group inside another
EXISTS that loses a member. -/
def sparse : List Condition :=
  [and [], existsIn "u" (or [and []]), or [or []],
    existsIn "v" (and [isNull (.named "v" "a"), or [], isNotNull (.named "v" "b")])]

theorem sparse_written_tidily :
    (or sparse).isEmpty = false ∧ Joined (or sparse).tokens ∧
      ((Builder.start "DELETE FROM t").writeWhere (or sparse)).sql =
        "DELETE FROM t WHERE (EXISTS (SELECT 1 FROM u) OR " ++
        "EXISTS (SELECT 1 FROM v WHERE (v.a IS NULL AND v.b IS NOT NULL)))" ∧
      connectivesAt 1 0 (or sparse).tokens = [.or] := by
  have hfilled : (or sparse).isEmpty = false := rfl
  obtain ⟨-, -, hwritten, -, hlevel⟩ :=
    isEmpty_iff_writes_nothing (or sparse) (Builder.start "DELETE FROM t")
  obtain ⟨hjoined, s, -, hsql, hwhere⟩ := hwritten hfilled
  have htext : ((Builder.start "DELETE FROM t").writeCondition (or sparse)).sql =
      "DELETE FROM t" ++ ("(EXISTS (SELECT 1 FROM u) OR " ++
        "EXISTS (SELECT 1 FROM v WHERE (v.a IS NULL AND v.b IS NOT NULL)))") := rfl
  refine ⟨hfilled, hjoined, ?_, hlevel .or sparse⟩
  rw [hwhere, (String.append_right_inj _).mp (hsql.symm.trans htext)]
  rfl

end Condition

end BoundSql
