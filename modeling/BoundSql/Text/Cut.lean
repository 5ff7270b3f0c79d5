namespace BoundSql.Cut

/-- A character begins at this byte, or the text ends there. -/
def isBoundary (s : String) (i : Nat) : Bool := (⟨i⟩ : String.Pos.Raw).isValid s

/-- There is no text before a position that lies inside a character or behind the end. -/
def before? (s : String) (i : Nat) : Option String :=
  if h : isBoundary s i = true then
    some (s.sliceTo (s.pos ⟨i⟩ (String.Pos.Raw.isValid_eq_true_iff.mp h))).copy
  else none

/-- Steps down from a position to the first boundary. -/
def backOff (s : String) : Nat → Nat
  | 0 => 0
  | i + 1 => if isBoundary s (i + 1) then i + 1 else backOff s i

theorem isBoundary_backOff (s : String) (i : Nat) : isBoundary s (backOff s i) = true := by
  induction i with
  | zero => exact String.Pos.Raw.isValid_eq_true_iff.mpr String.Pos.Raw.isValid_zero
  | succ i ih =>
    rw [backOff]
    split
    next h => exact h
    next => exact ih

/-- A text of at most `limit` bytes as it is, any other up to the last boundary not behind them. -/
def cut? (limit : Nat) (s : String) : Option String :=
  if s.utf8ByteSize ≤ limit then some s else before? s (backOff s limit)

theorem isSome_cut? (limit : Nat) (s : String) : (cut? limit s).isSome = true := by
  rw [cut?]
  split
  next => rfl
  next => rw [before?, dif_pos (isBoundary_backOff s limit), Option.isSome_some]

end BoundSql.Cut
