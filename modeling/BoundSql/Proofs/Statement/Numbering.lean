import BoundSql.Proofs.Statement.Placeholders
import BoundSql.Proofs.Text.Digits

namespace BoundSql

open Digits

namespace Statement

/-- What stands behind the dollar signs of a text: as many digits as there are. -/
def runs : List Char → List (List Char)
  | [] => []
  | c :: cs => if c = '$' then cs.takeWhile Char.isDigit :: runs cs else runs cs

end Statement

/-- No dollar sign is in the text. -/
def Plain (s : String) : Prop := '$' ∉ s.toList

namespace Fragment

/-- The first character that is written, if there is any. -/
def first? : Fragment → Option Char
  | [] => none
  | .text s :: f => s.toList.head?.or (first? f)
  | .value _ :: _ => some '$'

/-- No digit is written first. -/
def Aside (f : Fragment) : Prop := ∀ c ∈ first? f, c.isDigit = false

/-- All texts are of one kind, and no placeholder is followed by a digit. -/
def Spaced (P : String → Prop) : Fragment → Prop
  | [] => True
  | .text s :: f => P s ∧ Spaced P f
  | .value _ :: f => Aside f ∧ Spaced P f

theorem toList_placeholder (args : List Value) (v : Value) :
    (v.placeholder args).toList = '$' :: Nat.toDigits 10 (v.position args) := by
  simp [Value.placeholder]

theorem head?_render (f : Fragment) (args : List Value) :
    (f.render args).toList.head? = f.first? := by
  induction f with
  | nil => rfl
  | cons piece f ih =>
    cases piece with
    | text s => rw [render, String.toList_append, List.head?_append, ih, first?]
    | value v => rw [render, String.toList_append, toList_placeholder]; rfl

end Fragment

namespace Value

end Value

namespace Builder

variable {f : Fragment} {sql : String}

end Builder

end BoundSql
