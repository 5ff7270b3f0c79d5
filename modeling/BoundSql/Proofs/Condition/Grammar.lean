import BoundSql.Proofs.Condition.Truth
/-!
OR binds loosest, AND tighter, and parentheses tightest of all. A token is a parenthesis, a
connective, or an atom that is not looked into; an EXISTS is read like a parenthesis around the
condition inside it.
-/

namespace BoundSql

inductive Connective where
  | and
  | or
  deriving DecidableEq

def Connective.word : Connective → String
  | and => " AND "
  | or => " OR "

def Connective.combine : Connective → List Truth → Truth
  | and => Truth.all
  | or => Truth.any

inductive Token where
  | opening
  | closing
  | connective (op : Connective)
  | terminal (t : Terminal)
  /-- `EXISTS (SELECT 1 FROM` with the table; it ends at a `closing`. -/
  | existsIn (table : String)
  | whereWord

/-- A boolean expression as it is read. Parentheses are gone, and what one connective joins is one
group. -/
inductive Formula where
  | terminal (t : Terminal)
  | existsIn (table : String) (inner : Option Formula)
  | group (op : Connective) (members : List Formula)

namespace Formula

/-- A group of several members; a single one stands for itself. -/
def gather (op : Connective) : List Formula → Option Formula
  | [] => none
  | [f] => some f
  | fs => some (group op fs)

mutual

def truth {ρ : Type} (m : Assignment ρ) : Formula → ρ → Truth
  | terminal t, r => m.terminal t r
  | existsIn table inner, r => m.existsIn table (optionalTruth m inner) r
  | group op fs, r => op.combine (truths m fs r)

def optionalTruth {ρ : Type} (m : Assignment ρ) : Option Formula → ρ → Truth
  | none, _ => .yes
  | some f, r => truth m f r

def truths {ρ : Type} (m : Assignment ρ) : List Formula → ρ → List Truth
  | [], _ => []
  | f :: fs, r => truth m f r :: truths m fs r

end

theorem truth_of_gather {ρ : Type} {m : Assignment ρ} {op : Connective} {fs : List Formula}
    {f : Formula} (h : gather op fs = some f) (r : ρ) :
    f.truth m r = op.combine (truths m fs r) := by
  match fs with
  | [] => cases h
  | [g] =>
    cases h
    cases op <;> simp [truths, Connective.combine]
  | g :: g' :: gs =>
    cases h
    rfl

end Formula

namespace Token

/-- What is left of the tokens when some have been read. -/
abbrev Rest (ts : List Token) := { rest : List Token // rest.length < ts.length }

mutual

/-- An atom, or an expression in parentheses. -/
def operand (ts : List Token) : Option (Formula × Rest ts) :=
  match ts with
  | .terminal t :: rest => some (.terminal t, ⟨rest, Nat.lt_succ_self _⟩)
  | .opening :: ts =>
    match disjunction ts with
    | some (f, ⟨.closing :: rest, h⟩) => some (f, ⟨rest, Nat.lt_succ_of_lt (Nat.lt_of_succ_lt h)⟩)
    | _ => none
  | .existsIn table :: .closing :: rest =>
    some (.existsIn table none, ⟨rest, Nat.lt_succ_of_lt (Nat.lt_succ_self _)⟩)
  | .existsIn table :: .whereWord :: ts =>
    match disjunction ts with
    | some (f, ⟨.closing :: rest, h⟩) =>
      some (.existsIn table (some f),
        ⟨rest, Nat.lt_succ_of_lt (Nat.lt_succ_of_lt (Nat.lt_of_succ_lt h))⟩)
    | _ => none
  | _ => none
termination_by (ts.length, 0)

/-- Operands with AND between them. -/
def operands (ts : List Token) : Option (List Formula × Rest ts) :=
  match operand ts with
  | some (f, ⟨.connective .and :: rest, h⟩) =>
    have hrest : rest.length < ts.length := Nat.lt_of_succ_lt h
    match operands rest with
    | some (fs, ⟨rest, h'⟩) => some (f :: fs, ⟨rest, Nat.lt_trans h' hrest⟩)
    | none => none
  | some (f, rest) => some ([f], rest)
  | none => none
termination_by (ts.length, 1)

/-- Conjunctions with OR between them. -/
def conjunctions (ts : List Token) : Option (List Formula × Rest ts) :=
  match operands ts with
  | some (fs, ⟨.connective .or :: rest, h⟩) =>
    have hrest : rest.length < ts.length := Nat.lt_of_succ_lt h
    match Formula.gather .and fs, conjunctions rest with
    | some f, some (gs, ⟨rest, h'⟩) => some (f :: gs, ⟨rest, Nat.lt_trans h' hrest⟩)
    | _, _ => none
  | some (fs, rest) => (Formula.gather .and fs).map fun f => ([f], rest)
  | none => none
termination_by (ts.length, 2)

def disjunction (ts : List Token) : Option (Formula × Rest ts) :=
  match conjunctions ts with
  | some (fs, rest) => (Formula.gather .or fs).map fun f => (f, rest)
  | none => none
termination_by (ts.length, 3)

end

/-- The expression that the tokens are, if all of them can be read. -/
def parse (ts : List Token) : Option Formula :=
  match disjunction ts with
  | some (f, ⟨[], _⟩) => some f
  | _ => none

end Token

end BoundSql
