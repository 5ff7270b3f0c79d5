import Mathlib.Data.List.Basic
import Mathlib.Data.List.Perm.Basic
import BoundSql.Proofs.Statement.Numbering

namespace BoundSql

namespace Change

mutual

/-- The statements that a change carries, the outermost first. -/
def bodies : Change → List (List Step)
  | cte body _ assignment => body :: optionalBodies assignment
  | set _ _ | increment _ _ | setJson _ _ _ => []

def optionalBodies : Option Change → List (List Step)
  | none => []
  | some ch => bodies ch

end

mutual

/-- What a change assigns, seen through the statements around it. -/
def assignment? : Change → Option Change
  | cte _ _ assignment => optionalAssignment? assignment
  | set c a => some (set c a)
  | increment c source => some (increment c source)
  | setJson c path value => some (setJson c path value)

def optionalAssignment? : Option Change → Option Change
  | none => none
  | some ch => assignment? ch

end

/-- A change is plain, or it carries a statement, alone or around another change. -/
theorem carried_induction {p : Change → Prop} (plain : ∀ ch, ch.isCte = false → p ch)
    (bare : ∀ body mark, p (cte body mark none))
    (around : ∀ body mark ch, p ch → p (cte body mark (some ch))) : ∀ ch, p ch
  | set _ _ => plain _ rfl
  | increment _ _ => plain _ rfl
  | setJson _ _ _ => plain _ rfl
  | cte body mark none => bare body mark
  | cte body mark (some ch) => around body mark ch (carried_induction plain bare around ch)

variable {ch : Change}

theorem bodies_of_plain (h : ch.isCte = false) : ch.bodies = [] := by
  cases ch with
  | cte _ _ _ => cases h
  | set _ _ | increment _ _ | setJson _ _ _ => rfl

theorem assignment?_of_plain (h : ch.isCte = false) : ch.assignment? = some ch := by
  cases ch with
  | cte _ _ _ => cases h
  | set _ _ | increment _ _ | setJson _ _ _ => rfl

theorem plain_of_assignment? {a : Change} (h : ch.assignment? = some a) : a.isCte = false := by
  induction ch using carried_induction with
  | plain ch hch =>
    rw [assignment?_of_plain hch] at h
    rwa [← Option.some.inj h]
  | bare body mark => cases h
  | around body mark ch ih => exact ih h

/-- Statements are left out of the SET list. -/
theorem fragment_eq_assignment (ch : Change) :
    ch.fragment = (ch.assignment?.map fragment).getD [] := by
  induction ch using carried_induction with
  | plain ch hch => rw [assignment?_of_plain hch]; rfl
  | bare body mark => rfl
  | around body mark ch ih => exact ih

theorem hasAssignment_eq_isSome (ch : Change) : ch.hasAssignment = ch.assignment?.isSome := by
  induction ch using carried_induction with
  | plain ch hch =>
    rw [assignment?_of_plain hch]
    cases ch with
    | cte _ _ _ => cases hch
    | set _ _ | increment _ _ | setJson _ _ _ => rfl
  | bare body mark => rfl
  | around body mark ch ih => exact ih

end Change

namespace Changes

/-- The statements in a list of changes, at any depth. -/
def carried (chs : Changes) : List (List Step) := chs.flatMap Change.bodies

/-- The statements that are inside no other, each with the position of its change from a first
position on. -/
def outermostFrom (position : Nat) (chs : Changes) : List (Nat × List Step) :=
  (chs.zipIdx position).filterMap fun p => p.1.bodies.head?.map fun body => (p.2, body)

def outermost (chs : Changes) : List (Nat × List Step) := outermostFrom 0 chs

/-- The statements that are inside another. -/
def inner (chs : Changes) : List (List Step) := chs.flatMap fun ch => ch.bodies.tail

variable {chs : Changes}

theorem outermostFrom_cons (position : Nat) (ch : Change) (chs : Changes) :
    outermostFrom position (ch :: chs) =
      (ch.bodies.head?.map fun body => (position, body)).toList ++
        outermostFrom (position + 1) chs := by
  rw [outermostFrom, List.zipIdx_cons, List.filterMap_cons, outermostFrom]
  cases ch.bodies.head? <;> rfl

theorem map_snd_outermostFrom (position : Nat) (chs : Changes) :
    (outermostFrom position chs).map Prod.snd = chs.flatMap fun ch => ch.bodies.head?.toList := by
  induction chs generalizing position with
  | nil => rfl
  | cons ch chs ih =>
    rw [outermostFrom_cons, List.map_append, ih, List.flatMap_cons]
    cases ch.bodies.head? <;> rfl

theorem carried_perm (chs : Changes) :
    chs.carried.Perm (chs.outermost.map Prod.snd ++ chs.inner) := by
  have hsplit : chs.carried = chs.flatMap fun ch => ch.bodies.head?.toList ++ ch.bodies.tail := by
    rw [carried]
    congr 1
    funext ch
    cases ch.bodies <;> rfl
  rw [hsplit, outermost, map_snd_outermostFrom, inner]
  exact (List.flatMap_append_perm _ _ _).symm

/-- No statement is inside another if and only if the outermost are all there are. -/
theorem carried_eq_outermost_iff :
    chs.carried = chs.outermost.map Prod.snd ↔ ∀ ch ∈ chs, ch.bodies.length ≤ 1 := by
  constructor
  · intro h
    have hlength := (carried_perm chs).length_eq
    rw [h, List.length_append] at hlength
    have hinner : chs.inner = [] := List.length_eq_zero_iff.mp (by omega)
    intro ch hch
    have htail := List.flatMap_eq_nil_iff.mp hinner ch hch
    have := congrArg List.length htail
    rw [List.length_tail, List.length_nil] at this
    omega
  · intro h
    rw [outermost, map_snd_outermostFrom, carried]
    refine List.flatMap_congr fun ch hch => ?_
    have hlength := h ch hch
    match hbodies : ch.bodies, hlength with
    | [], _ => rfl
    | [body], _ => rfl

theorem pairwise_outermost (chs : Changes) :
    chs.outermost.Pairwise fun s t => s.1 < t.1 := by
  have hpositions : (chs.zipIdx 0).Pairwise fun p q => p.2 < q.2 := by
    have h := List.pairwise_lt_range' (s := 0) (n := chs.length)
    rw [← List.zipIdx_map_snd 0 chs, List.pairwise_map] at h
    exact h
  refine List.pairwise_filterMap.mpr (hpositions.imp fun {p q} hpq => ?_)
  intro s hs t ht
  obtain ⟨_, -, rfl⟩ := Option.map_eq_some_iff.mp hs
  obtain ⟨_, -, rfl⟩ := Option.map_eq_some_iff.mp ht
  exact hpq

theorem mem_outermost_iff {i : Nat} {body : List Step} :
    (i, body) ∈ chs.outermost ↔ ∃ mark x, chs[i]? = some (.cte body mark x) := by
  simp only [outermost, outermostFrom, List.mem_filterMap, Prod.exists, List.mem_zipIdx_iff_getElem?,
    Option.map_eq_some_iff, Prod.mk.injEq]
  constructor
  · rintro ⟨ch, j, hch, b, hb, rfl, rfl⟩
    cases ch with
    | set _ _ | increment _ _ | setJson _ _ _ => cases hb
    | cte f mark x =>
      cases hb
      exact ⟨mark, x, hch⟩
  · rintro ⟨mark, x, hch⟩
    exact ⟨_, i, hch, body, rfl, rfl, rfl⟩

end Changes

namespace Builder

/-- The name of the statement at a position. -/
def cteName (position : Nat) : String := "cte_" ++ toString position

/-- Write a statement into an open WITH clause, under the name of its position. -/
def writeNamed (b : Builder) (s : Nat × List Step) : Except Misuse Builder :=
  ((b.writeText (", " ++ cteName s.1 ++ " AS (")).writeSteps s.2).map fun b => b.writeText ")"

theorem cteName_injective {i j : Nat} (h : cteName i = cteName j) : i = j := by
  have hdigits := congrArg String.toList h
  simp only [cteName, String.toList_append, List.append_cancel_left_eq, Nat.toString_eq_repr,
    Nat.toList_repr] at hdigits
  simpa using congrArg (Nat.ofDigitChars 10 · 0) hdigits

/-- Of the statements of a change only the outermost is written. -/
theorem writeCte_eq_head (b : Builder) (ch : Change) :
    b.writeCte ch = ch.bodies.head?.elim (.ok b) b.writeSteps := by
  cases ch <;> rfl

theorem writeCtesFrom_eq_foldlM (b : Builder) (position : Nat) (chs : Changes) :
    b.writeCtesFrom position chs = (Changes.outermostFrom position chs).foldlM writeNamed b := by
  induction chs generalizing b position with
  | nil => rfl
  | cons ch chs ih =>
    rw [writeCtesFrom, Changes.outermostFrom_cons, List.foldlM_append]
    cases ch with
    | set _ _ | increment _ _ | setJson _ _ _ => exact ih b (position + 1)
    | cte body mark x =>
      have hname : ", cte_" ++ toString position ++ " AS (" =
          ", " ++ cteName position ++ " AS (" := by
        simp only [cteName, ← String.append_assoc]
        rfl
      simp only [Change.isCte, if_true, writeCte, hname, ih]
      simp only [Change.bodies, List.head?_cons, Option.map_some, Option.toList_some,
        List.foldlM_cons, List.foldlM_nil, writeNamed]
      cases (b.writeText (", " ++ cteName position ++ " AS (")).writeSteps body <;> rfl

/-- The outermost statements are written, each once, in the order of the list and under a name of
its own; changes without a statement write nothing. A statement inside another is not written, so
that all are exactly if none is inside another. -/
theorem writeCtes_writes_outermost (b : Builder) (chs : Changes) :
    b.writeCtes chs = chs.outermost.foldlM writeNamed b ∧
      (∀ i body, (i, body) ∈ chs.outermost ↔ ∃ mark x, chs[i]? = some (.cte body mark x)) ∧
      (chs.outermost.Pairwise fun s t => s.1 < t.1) ∧
      (chs.outermost.map fun s => cteName s.1).Nodup ∧
      chs.carried.Perm (chs.outermost.map Prod.snd ++ chs.inner) ∧
      (chs.carried = chs.outermost.map Prod.snd ↔ ∀ ch ∈ chs, ch.bodies.length ≤ 1) := by
  have hpairwise := Changes.pairwise_outermost chs
  refine ⟨writeCtesFrom_eq_foldlM b 0 chs, fun i body => Changes.mem_outermost_iff, hpairwise, ?_,
    Changes.carried_perm chs, Changes.carried_eq_outermost_iff⟩
  refine List.pairwise_map.mpr (hpairwise.imp fun hlt hname => ?_)
  exact Nat.ne_of_lt hlt (cteName_injective hname)

/-- A statement around one that is inside it, and a plain change in between. -/
def nestedDeletes : Changes :=
  [.cte [.text "DELETE FROM a WHERE id = ", .arg (.value (.text "x"))] 0
      (some (.cte [.text "DELETE FROM b"] 1 (some (.toNull (.named "t" "n"))))),
    .toNull (.named "t" "m"), .cte [.text "DELETE FROM c"] 2 none]

theorem nestedDeletes_written_outermost :
    (∃ b, (start "WITH base AS (SELECT 1)").writeCtes nestedDeletes = .ok b ∧
      b.sql = "WITH base AS (SELECT 1), cte_0 AS (DELETE FROM a WHERE id = $1)" ++
        ", cte_2 AS (DELETE FROM c)" ∧ b.args = [.text "x"]) ∧
    nestedDeletes.carried ≠ nestedDeletes.outermost.map Prod.snd := by
  have hf : Step.ctesFrom 0 nestedDeletes = .ok _ := rfl
  have hwrite := writeCtesFrom_eq_write (start "WITH base AS (SELECT 1)") 0 nestedDeletes
  rw [hf] at hwrite
  obtain ⟨-, -, -, -, -, hall⟩ :=
    writeCtes_writes_outermost (start "WITH base AS (SELECT 1)") nestedDeletes
  refine ⟨⟨_, hwrite, ?_, args_write_start _ _⟩, fun h => ?_⟩
  · rw [sql_write_start]
    decide +kernel
  · exact absurd (hall.mp h _ List.mem_cons_self) (by decide)

/-- One statement inside another, each of them a deletion. It is not written under any name. -/
theorem inner_statement_not_written :
    ∃ chs : Changes, chs.carried = [[.text "DELETE FROM a"], [.text "DELETE FROM b"]] ∧
      (∃ b, (start "").writeCtes chs = .ok b ∧ b.sql = ", cte_0 AS (DELETE FROM a)") ∧
      ∀ named : List (Nat × List Step), named.map Prod.snd = chs.carried →
        (start "").writeCtes chs ≠ named.foldlM writeNamed (start "") := by
  refine ⟨[.cte [.text "DELETE FROM a"] 0 (some (.cte [.text "DELETE FROM b"] 1 none))], rfl,
    ⟨_, rfl, rfl⟩, fun named hnamed hwrite => ?_⟩
  obtain ⟨⟨i, f⟩, rest, rfl, rfl, hrest⟩ := List.map_eq_cons_iff.mp hnamed
  obtain ⟨⟨j, g⟩, rest', rfl, rfl, hrest'⟩ := List.map_eq_cons_iff.mp hrest
  obtain rfl := List.map_eq_nil_iff.mp hrest'
  -- two statements would make a longer text than the one that is written
  have hlength := congrArg (fun b => b.sql.length) (Except.ok.inj hwrite)
  simp only [writeText, start, String.length_append] at hlength
  have hwritten : "".length + (", cte_".length + (toString 0).length + " AS (".length) +
      "DELETE FROM a".length + ")".length = 26 := by decide
  have hopening : " AS (".length = 5 := by decide
  have hfirst : "DELETE FROM a".length = 13 := by decide
  have hsecond : "DELETE FROM b".length = 13 := by decide
  omega

end Builder
end BoundSql
