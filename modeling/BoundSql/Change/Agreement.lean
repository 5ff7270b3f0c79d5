import BoundSql.Step

namespace BoundSql

namespace Change

def rendered (body : List Step) : Except Misuse Statement :=
  (Builder.empty.writeSteps body).map Builder.build

/-- Whether steps write one and the same statement. Both may be wrong. -/
def sameBody (body other : List Step) : Bool :=
  match rendered body, rendered other with
  | .ok s, .ok t => s.sql == t.sql && s.args.map Value.key == t.args.map Value.key
  | .error _, .error _ => true
  | _, _ => false

mutual

/-- Equality of shape. Changes with a statement are equal only if they carry one and the same, put
together at one place. -/
def same : Change → Change → Bool
  | set c a, set d b => c.same d && a.same b
  | increment c s, increment d t => c.same d && s.same t
  | setJson c p v, setJson d q w => c.same d && p == q && v.same w
  | cte f m x, cte g n y => m == n && sameBody f g && optionalSame x y
  | _, _ => false

def optionalSame : Option Change → Option Change → Bool
  | none, none => true
  | some x, some y => same x y
  | _, _ => false

end

def sameValues : List Value → List Value → Bool
  | [], [] => true
  | v :: vs, w :: ws => v.same w && sameValues vs ws
  | _, _ => false

def sameStatement (s t : Statement) : Bool := s.sql == t.sql && sameValues s.args t.args

def rendersSame (body expected : List Step) : Except Misuse Bool :=
  match rendered body, rendered expected with
  | .ok s, .ok t => .ok (sameStatement s t)
  | .ok _, .error m => .error m
  | .error m, _ => .error m

mutual

/-- Whether a change is as expected: equal, but statements may come from different places as long
as they render the same. They are looked at last, and only if the rest agrees. -/
def agrees : Change → Change → Except Misuse Bool
  | cte f _ x, cte g _ y =>
    match optionalAgrees x y with
    | .ok true => rendersSame f g
    | r => r
  | x, y => .ok (same x y)

def optionalAgrees : Option Change → Option Change → Except Misuse Bool
  | none, none => .ok true
  | some x, some y => agrees x y
  | _, _ => .ok false

end

end Change

namespace Changes

def agreeInTurn : Changes → Changes → Except Misuse Bool
  | x :: xs, y :: ys =>
    match x.agrees y with
    | .ok true => agreeInTurn xs ys
    | r => r
  | _, _ => .ok true

def agrees (chs expected : Changes) : Except Misuse Bool :=
  if chs.length = expected.length then agreeInTurn chs expected else .ok false

def same : Changes → Changes → Bool
  | [], [] => true
  | x :: xs, y :: ys => x.same y && same xs ys
  | _, _ => false

end Changes

end BoundSql
