import BoundSql.Misuse

namespace BoundSql

inductive Condition where
  | and (children : List Condition)
  | or (children : List Condition)
  | isNull (c : Column)
  | isNotNull (c : Column)
  | comparison (c : Column) (op : Operation) (a : Arg)
  | columnsEqual (a b : Column)
  | existsIn (table : String) (inner : Condition)

namespace Condition

/-- A comparison, unless the operator does not accept the argument's family. -/
def compare (c : Column) (op : Operation) (a : Arg) : Except Misuse Condition :=
  if op.accepts a.family then .ok (comparison c op a) else .error (.incomparable op a)

def boolean (c : Column) (b : Bool) : Condition :=
  comparison c (.boolean (if b then .isTrue else .isFalse)) (.value (.boolean b))

mutual

/-- Whether nothing is written: a group whose members are all empty. -/
def isEmpty : Condition → Bool
  | and children => allEmpty children
  | or children => allEmpty children
  | _ => false

def allEmpty : List Condition → Bool
  | [] => true
  | k :: ks => isEmpty k && allEmpty ks

end

def filled (ks : List Condition) : Nat := ks.countP fun k => !k.isEmpty

mutual

/-- Whether the condition pins a column in every row that it matches. One member of a conjunction
is enough; a disjunction needs all of them, and at least one. -/
def restricts (c : Column) : Condition → Bool
  | and children => anyRestricts c children
  | or children => !children.isEmpty && allRestrict c children
  | isNull d => d.same c
  | isNotNull _ => false
  | comparison d op _ => d.same c && op.isEquality
  | columnsEqual a b => a.same c || b.same c
  | existsIn _ _ => false

def anyRestricts (c : Column) : List Condition → Bool
  | [] => false
  | k :: ks => restricts c k || anyRestricts c ks

def allRestrict (c : Column) : List Condition → Bool
  | [] => true
  | k :: ks => restricts c k && allRestrict c ks

end

mutual

def same : Condition → Condition → Bool
  | and ks, and ls => sameAll ks ls
  | or ks, or ls => sameAll ks ls
  | isNull c, isNull d => c.same d
  | isNotNull c, isNotNull d => c.same d
  | comparison c op a, comparison d op' b => c.same d && op == op' && a.same b
  | columnsEqual a b, columnsEqual c d => a.same c && b.same d
  | existsIn t k, existsIn u l => t == u && same k l
  | _, _ => false

def sameAll : List Condition → List Condition → Bool
  | [], [] => true
  | k :: ks, l :: ls => same k l && sameAll ks ls
  | _, _ => false

end

end Condition

namespace Builder

mutual

/-- Write a condition. A group stands in parentheses if several of its members write something. -/
def writeCondition : Builder → Condition → Builder
  | b, .and children =>
    if 1 < Condition.filled children then
      b.writeText "(" |>.writeMembers " AND " true children |>.writeText ")"
    else b.writeMembers " AND " true children
  | b, .or children =>
    if 1 < Condition.filled children then
      b.writeText "(" |>.writeMembers " OR " true children |>.writeText ")"
    else b.writeMembers " OR " true children
  | b, .isNull c => b.writeQualified c |>.writeText " IS NULL"
  | b, .isNotNull c => b.writeQualified c |>.writeText " IS NOT NULL"
  | b, .comparison c op a => b.writeOperation op c a
  | b, .columnsEqual c d => b.writeQualified c |>.writeText " = " |>.writeQualified d
  | b, .existsIn table inner =>
    let b := b.writeText "EXISTS (SELECT 1 FROM " |>.writeText table
    let b := if inner.isEmpty then b else b.writeText " WHERE " |>.writeCondition inner
    b.writeText ")"

/-- Write the members that write something, with a separator before each but the first. -/
def writeMembers (separator : String) : Builder → Bool → List Condition → Builder
  | b, _, [] => b
  | b, first, k :: ks =>
    if k.isEmpty then b.writeMembers separator first ks
    else
      let b := if first then b else b.writeText separator
      b.writeCondition k |>.writeMembers separator false ks

end

def writeWhere (b : Builder) (k : Condition) : Builder :=
  if k.isEmpty then b else b.writeText " WHERE " |>.writeCondition k

end Builder

end BoundSql
