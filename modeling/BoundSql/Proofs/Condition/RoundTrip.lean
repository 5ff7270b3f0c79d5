import Mathlib.Data.List.Forall2
import BoundSql.Proofs.Condition.Grammar
import BoundSql.Proofs.Statement.Writers

namespace BoundSql

namespace Token

/-- What is written for a token. For an atom it is what is written for its condition. -/
def fragment : Token → Fragment
  | opening => [.text "("]
  | closing => [.text ")"]
  | connective op => [.text op.word]
  | terminal t => t.condition.fragment
  | existsIn table => [.text "EXISTS (SELECT 1 FROM ", .text table]
  | whereWord => [.text " WHERE "]

def fragments (ts : List Token) : Fragment := ts.flatMap fragment

def join (op : Connective) : List (List Token) → List Token
  | [] => []
  | ts :: tss => ts ++ tss.flatMap fun ts => .connective op :: ts

def group (op : Connective) : List (List Token) → List Token
  | [] => []
  | [ts] => ts
  | tss => .opening :: join op tss ++ [.closing]

@[simp] theorem fragments_append (ts us : List Token) :
    fragments (ts ++ us) = fragments ts ++ fragments us := List.flatMap_append

@[simp] theorem fragments_cons (t : Token) (ts : List Token) :
    fragments (t :: ts) = t.fragment ++ fragments ts := rfl

theorem fragments_join (op : Connective) (tss : List (List Token)) :
    fragments (join op tss) = Fragment.join op.word (tss.map fragments) := by
  have htail (tss : List (List Token)) :
      fragments (tss.flatMap fun ts => .connective op :: ts) =
        (tss.map fragments).flatMap fun f => .text op.word :: f := by
    induction tss with
    | nil => rfl
    | cons ts tss ih => simp [ih, fragment]
  cases tss with
  | nil => rfl
  | cons ts tss => rw [join, fragments_append, htail, List.map_cons, Fragment.join]

theorem fragments_group (op : Connective) (tss : List (List Token)) :
    fragments (group op tss) = Fragment.group op.word (tss.map fragments) := by
  match tss with
  | [] => rfl
  | [ts] => rfl
  | ts :: us :: tss =>
    have hjoin := fragments_join op (ts :: us :: tss)
    have hgroup : group op (ts :: us :: tss) =
        .opening :: join op (ts :: us :: tss) ++ [.closing] := rfl
    rw [hgroup, fragments_append, fragments_cons, hjoin]
    rfl

end Token

namespace Condition

mutual

/-- The tokens that are written for a condition. -/
def tokens : Condition → List Token
  | and children => Token.group .and (memberTokens children)
  | or children => Token.group .or (memberTokens children)
  | isNull c => [.terminal (.isNull c)]
  | isNotNull c => [.terminal (.isNotNull c)]
  | comparison c op a => [.terminal (.comparison c op a)]
  | columnsEqual a b => [.terminal (.columnsEqual a b)]
  | existsIn table inner =>
    .existsIn table :: (if inner.isEmpty then [] else .whereWord :: tokens inner) ++ [.closing]

def memberTokens : List Condition → List (List Token)
  | [] => []
  | k :: ks => if k.isEmpty then memberTokens ks else tokens k :: memberTokens ks

end

mutual

/-- The tree without its empty groups, and with a group's only member in the place of the group.
Nothing is left of an empty condition. -/
def normal : Condition → Option Formula
  | and children => Formula.gather .and (normals children)
  | or children => Formula.gather .or (normals children)
  | isNull c => some (.terminal (.isNull c))
  | isNotNull c => some (.terminal (.isNotNull c))
  | comparison c op a => some (.terminal (.comparison c op a))
  | columnsEqual a b => some (.terminal (.columnsEqual a b))
  | existsIn table inner => some (.existsIn table (normal inner))

def normals : List Condition → List Formula
  | [] => []
  | k :: ks =>
    match normal k with
    | some f => f :: normals ks
    | none => normals ks

end

mutual

theorem fragments_tokens : ∀ k : Condition, Token.fragments k.tokens = k.fragment
  | and ks => by
    rw [tokens, Token.fragments_group, map_fragments_memberTokens ks]
    rfl
  | or ks => by
    rw [tokens, Token.fragments_group, map_fragments_memberTokens ks]
    rfl
  | isNull _ | isNotNull _ | comparison _ _ _ | columnsEqual _ _ => List.append_nil _
  | existsIn table inner => by
    rw [tokens, fragment, Token.fragments_append, Token.fragments_cons]
    split
    next => rfl
    next =>
      rw [Token.fragments_cons, fragments_tokens inner]
      rfl

theorem map_fragments_memberTokens : ∀ ks : List Condition,
    (memberTokens ks).map Token.fragments = fragments ks
  | [] => rfl
  | k :: ks => by
    rw [memberTokens, fragments]
    split
    next => exact map_fragments_memberTokens ks
    next => rw [List.map_cons, fragments_tokens k, map_fragments_memberTokens ks]

end

end Condition

theorem Formula.gather_eq_none {op : Connective} {fs : List Formula} :
    gather op fs = none ↔ fs = [] := by
  match fs with
  | [] => simp [gather]
  | [f] => simp [gather]
  | f :: g :: fs => simp [gather]

namespace Condition

mutual

theorem normal_eq_none : ∀ k : Condition, k.normal = none ↔ k.isEmpty = true
  | and ks => by rw [normal, isEmpty, Formula.gather_eq_none, normals_eq_nil ks]
  | or ks => by rw [normal, isEmpty, Formula.gather_eq_none, normals_eq_nil ks]
  | isNull _ | isNotNull _ | comparison _ _ _ | columnsEqual _ _ | existsIn _ _ => by
    simp [normal, isEmpty]

theorem normals_eq_nil : ∀ ks : List Condition, normals ks = [] ↔ allEmpty ks = true
  | [] => by simp [normals, allEmpty]
  | k :: ks => by
    rw [normals, allEmpty, Bool.and_eq_true, ← normal_eq_none k, ← normals_eq_nil ks]
    cases k.normal with
    | none => simp
    | some f => simp

end

theorem normals_cons_of_isEmpty {k : Condition} (h : k.isEmpty = true) (ks : List Condition) :
    normals (k :: ks) = normals ks := by
  rw [normals, (normal_eq_none k).mpr h]

theorem normals_cons_of_normal {k : Condition} {f : Formula} (h : k.normal = some f)
    (ks : List Condition) : normals (k :: ks) = f :: normals ks := by
  rw [normals, h]

theorem isEmpty_of_normal {k : Condition} {f : Formula} (h : k.normal = some f) :
    k.isEmpty = false := by
  cases he : k.isEmpty with
  | true => simp [(normal_eq_none k).mpr he] at h
  | false => rfl

theorem exists_normal {k : Condition} (h : k.isEmpty = false) : ∃ f, k.normal = some f := by
  cases hn : k.normal with
  | none => simp [(normal_eq_none k).mp hn] at h
  | some f => exact ⟨f, rfl⟩

end Condition

namespace Token

open Formula

/-- What has been read of the tokens, and what is left of them. -/
def Read {α : Type} {ts : List Token} (p : Option (α × Rest ts)) (a : α) (rest : List Token) :
    Prop :=
  ∃ h, p = some (a, ⟨rest, h⟩)

variable {ts rest more : List Token} {f g : Formula} {fs gs : List Formula}

/-! One lemma for each rule of the grammar. -/

theorem read_terminal (t : Terminal) : Read (operand (.terminal t :: rest)) (.terminal t) rest :=
  ⟨by simp, by rw [operand]⟩

theorem read_parentheses (h : Read (disjunction ts) f (.closing :: rest)) :
    Read (operand (.opening :: ts)) f rest := by
  obtain ⟨hlt, h⟩ := h
  refine ⟨by grind, ?_⟩
  rw [operand, h]

theorem read_exists (table : String) :
    Read (operand (.existsIn table :: .closing :: rest)) (.existsIn table none) rest :=
  ⟨by grind, by rw [operand]⟩

theorem read_exists_where (table : String) (h : Read (disjunction ts) f (.closing :: rest)) :
    Read (operand (.existsIn table :: .whereWord :: ts)) (.existsIn table (some f)) rest := by
  obtain ⟨hlt, h⟩ := h
  refine ⟨by grind, ?_⟩
  rw [operand, h]

theorem read_operands_last (h : Read (operand ts) f rest)
    (hrest : ∀ more, rest ≠ .connective .and :: more) : Read (operands ts) [f] rest := by
  obtain ⟨hlt, h⟩ := h
  refine ⟨hlt, ?_⟩
  rw [operands, h]
  split
  next more _ heq =>
    cases heq
    exact absurd rfl (hrest more)
  next heq =>
    cases heq
    rfl
  next heq => cases heq

theorem read_operands_and (h : Read (operand ts) f (.connective .and :: more))
    (h' : Read (operands more) fs rest) : Read (operands ts) (f :: fs) rest := by
  obtain ⟨hlt, h⟩ := h
  obtain ⟨hlt', h'⟩ := h'
  refine ⟨by grind, ?_⟩
  rw [operands, h]
  simp only [h']

theorem read_conjunctions_last (h : Read (operands ts) fs rest) (hf : gather .and fs = some f)
    (hrest : ∀ more, rest ≠ .connective .or :: more) : Read (conjunctions ts) [f] rest := by
  obtain ⟨hlt, h⟩ := h
  refine ⟨hlt, ?_⟩
  rw [conjunctions, h]
  split
  next more _ heq =>
    cases heq
    exact absurd rfl (hrest more)
  next heq =>
    cases heq
    rw [hf]
    rfl
  next heq => cases heq

theorem read_conjunctions_or (h : Read (operands ts) fs (.connective .or :: more))
    (hf : gather .and fs = some f) (h' : Read (conjunctions more) gs rest) :
    Read (conjunctions ts) (f :: gs) rest := by
  obtain ⟨hlt, h⟩ := h
  obtain ⟨hlt', h'⟩ := h'
  refine ⟨by grind, ?_⟩
  rw [conjunctions, h]
  simp only [h', hf]

theorem read_disjunction (h : Read (conjunctions ts) fs rest) (hf : gather .or fs = some f) :
    Read (disjunction ts) f rest := by
  obtain ⟨hlt, h⟩ := h
  refine ⟨hlt, ?_⟩
  rw [disjunction, h]
  simp only [hf, Option.map_some]

/-- Tokens that are read as an operand, whatever comes after them. -/
def Reads (ts : List Token) (f : Formula) : Prop := ∀ rest, Read (operand (ts ++ rest)) f rest

variable {tss : List (List Token)}

theorem join_cons_cons (op : Connective) (ts us : List Token) (tss : List (List Token)) :
    join op (ts :: us :: tss) = ts ++ .connective op :: join op (us :: tss) := by
  simp [join]

theorem read_operands_join (h : List.Forall₂ Reads (ts :: tss) fs)
    (hrest : ∀ more, rest ≠ .connective .and :: more) :
    Read (operands (join .and (ts :: tss) ++ rest)) fs rest := by
  induction tss generalizing ts fs with
  | nil =>
    cases h with
    | cons hf hnil =>
      cases hnil
      rw [join, List.flatMap_nil, List.append_nil]
      exact read_operands_last (hf rest) hrest
  | cons us tss ih =>
    cases h with
    | cons hf htail =>
      rw [join_cons_cons, List.append_assoc]
      exact read_operands_and (hf _) (ih htail)

theorem read_conjunctions_join (h : List.Forall₂ Reads (ts :: tss) fs)
    (hrest : ∀ op more, rest ≠ .connective op :: more) :
    Read (conjunctions (join .or (ts :: tss) ++ rest)) fs rest := by
  induction tss generalizing ts fs with
  | nil =>
    cases h with
    | cons hf hnil =>
      cases hnil
      rw [join, List.flatMap_nil, List.append_nil]
      have hone := read_operands_last (hf rest) (hrest .and)
      exact read_conjunctions_last hone rfl (hrest .or)
  | cons us tss ih =>
    cases h with
    | cons hf htail =>
      rw [join_cons_cons, List.append_assoc]
      have hone := read_operands_last (hf (.connective .or :: (join .or (us :: tss) ++ rest)))
        nofun
      exact read_conjunctions_or hone rfl (ih htail)

/-- What one connective joins is read as one group. -/
theorem read_disjunction_join {op : Connective} (h : List.Forall₂ Reads tss fs)
    (hf : gather op fs = some f) (hrest : ∀ op more, rest ≠ .connective op :: more) :
    Read (disjunction (join op tss ++ rest)) f rest := by
  cases tss with
  | nil =>
    cases h
    cases hf
  | cons ts tss =>
    cases op with
    | and =>
      have hone := read_conjunctions_last (read_operands_join h (hrest .and)) hf (hrest .or)
      exact read_disjunction hone rfl
    | or => exact read_disjunction (read_conjunctions_join h hrest) hf

theorem Reads.disjunction (h : Reads ts f) (rest : List Token)
    (hrest : ∀ op more, rest ≠ .connective op :: more) :
    Read (disjunction (ts ++ rest)) f rest := by
  have hone : gather .or [f] = some f := rfl
  have hjoin := read_disjunction_join (.cons h .nil) hone hrest
  rwa [join, List.flatMap_nil, List.append_nil] at hjoin

/-- A group stands in parentheses unless it has a single member, which is an operand already. -/
theorem reads_group {op : Connective} (h : List.Forall₂ Reads tss fs)
    (hf : gather op fs = some f) : Reads (group op tss) f := by
  match tss, fs, h with
  | [], [], .nil => cases hf
  | [ts], [g], .cons hg .nil =>
    cases hf
    exact hg
  | ts :: us :: tss, fs, h =>
    intro rest
    have hgroup : group op (ts :: us :: tss) ++ rest =
        .opening :: (join op (ts :: us :: tss) ++ .closing :: rest) := by
      simp [group]
    rw [hgroup]
    exact read_parentheses (read_disjunction_join h hf nofun)

theorem Reads.parse (h : Reads ts f) : parse ts = some f := by
  have hread := h.disjunction [] nofun
  rw [List.append_nil] at hread
  obtain ⟨hlt, hread⟩ := hread
  rw [Token.parse, hread]

end Token

namespace Condition

open Token

mutual

theorem reads_tokens : ∀ {k : Condition} {f : Formula}, k.normal = some f → Reads k.tokens f
  | and ks, f, h => reads_group (reads_memberTokens ks) h
  | or ks, f, h => reads_group (reads_memberTokens ks) h
  | isNull _, f, h | isNotNull _, f, h | comparison _ _ _, f, h | columnsEqual _ _, f, h => by
    cases h
    exact fun rest => read_terminal _
  | existsIn table inner, f, h => by
    cases h
    intro rest
    rw [tokens]
    cases hn : inner.normal with
    | none =>
      rw [if_pos ((normal_eq_none inner).mp hn)]
      exact read_exists table
    | some g =>
      have hg := (reads_tokens hn).disjunction (.closing :: rest) nofun
      rw [if_neg (by simp [isEmpty_of_normal hn])]
      have hsplit : .existsIn table :: .whereWord :: inner.tokens ++ [.closing] ++ rest =
          .existsIn table :: .whereWord :: (inner.tokens ++ .closing :: rest) := by simp
      rw [hsplit]
      exact read_exists_where table hg

theorem reads_memberTokens : ∀ ks : List Condition,
    List.Forall₂ Reads (memberTokens ks) (normals ks)
  | [] => .nil
  | k :: ks => by
    rw [memberTokens]
    split
    next he =>
      rw [normals_cons_of_isEmpty he]
      exact reads_memberTokens ks
    next he =>
      obtain ⟨f, hf⟩ := exists_normal (by simpa using he)
      rw [normals_cons_of_normal hf]
      exact .cons (reads_tokens hf) (reads_memberTokens ks)

end

variable {ρ : Type} {m : Assignment ρ}

mutual

theorem truth_normal : ∀ {k : Condition} {f : Formula}, k.normal = some f →
    ∀ r, f.truth m r = k.truth m r
  | and ks, f, h, r => by
    rw [Formula.truth_of_gather h, truth, truths_normals ks]
    rfl
  | or ks, f, h, r => by
    rw [Formula.truth_of_gather h, truth, truths_normals ks]
    rfl
  | isNull _, f, h, r | isNotNull _, f, h, r | comparison _ _ _, f, h, r
  | columnsEqual _ _, f, h, r => by
    cases h
    rfl
  | existsIn table inner, f, h, r => by
    cases h
    rw [truth, Formula.truth]
    congr 1
    funext r
    cases hn : inner.normal with
    | none =>
      rw [if_pos ((normal_eq_none inner).mp hn)]
      rfl
    | some g =>
      rw [if_neg (by simp [isEmpty_of_normal hn])]
      exact truth_normal hn r

theorem truths_normals : ∀ (ks : List Condition) (r : ρ),
    Formula.truths m (normals ks) r = truths m ks r
  | [], _ => rfl
  | k :: ks, r => by
    rw [truths]
    split
    next he => rw [normals_cons_of_isEmpty he, truths_normals ks]
    next he =>
      obtain ⟨f, hf⟩ := exists_normal (by simpa using he)
      rw [normals_cons_of_normal hf, Formula.truths, truth_normal hf r, truths_normals ks]

end

/-- What is written for a condition, read by the grammar, is its normal form, which has the truth
value of the tree. Nothing is left unread. -/
theorem written_reads_back {k : Condition} (h : k.isEmpty = false) :
    (∀ b : Builder, b.writeCondition k = b.write (Token.fragments k.tokens)) ∧
      ∃ f, k.normal = some f ∧ parse k.tokens = some f ∧
        ∀ {ρ : Type} (m : Assignment ρ) (r : ρ), f.truth m r = k.truth m r := by
  obtain ⟨f, hf⟩ := exists_normal h
  refine ⟨?_, f, hf, (reads_tokens hf).parse, fun m => truth_normal hf⟩
  intro b
  rw [fragments_tokens, Builder.writeCondition_eq_write]

/-- Groups that are empty, have one member, or lose members that are empty. -/
def partlyEmpty : Condition :=
  and [or [], or [isNull (.named "t" "a"),
      and [and [], isNull (.named "t" "b"), isNotNull (.named "t" "c")]],
    existsIn "u" (or [and [columnsEqual (.named "u" "id") (.named "t" "id")], or [and []]])]

theorem partlyEmpty_reads_back :
    partlyEmpty.isEmpty = false ∧
      (Builder.empty.writeCondition partlyEmpty).sql =
        "((t.a IS NULL OR (t.b IS NULL AND t.c IS NOT NULL)) AND " ++
        "EXISTS (SELECT 1 FROM u WHERE u.id = t.id))" ∧
      parse partlyEmpty.tokens = some (.group .and
        [.group .or [.terminal (.isNull (.named "t" "a")),
          .group .and [.terminal (.isNull (.named "t" "b")),
            .terminal (.isNotNull (.named "t" "c"))]],
        .existsIn "u"
          (some (.terminal (.columnsEqual (.named "u" "id") (.named "t" "id"))))]) := by
  have hfilled : partlyEmpty.isEmpty = false := rfl
  obtain ⟨hwritten, f, hf, hparse, -⟩ := written_reads_back hfilled
  refine ⟨hfilled, ?_, ?_⟩
  · rw [hwritten]
    cbv
  · rw [hparse, ← hf]
    rfl

end Condition

end BoundSql
