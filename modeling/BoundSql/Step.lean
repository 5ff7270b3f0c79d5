import BoundSql.Change

namespace BoundSql.Builder

mutual

def writeStep : Builder → Step → Except Misuse Builder
  | b, .text s => .ok (b.writeText s)
  | b, .arg a => .ok (b.writeArg a)
  | b, .args as => .ok (b.writeArgs as)
  | b, .qualified c => .ok (b.writeQualified c)
  | b, .unqualified c => .ok (b.writeUnqualified c)
  | b, .columns cs => .ok (b.writeColumns cs)
  | b, .columnsUnqualified cs => .ok (b.writeColumnsUnqualified cs)
  | b, .condition k => .ok (b.writeCondition k)
  | b, .whereClause k => .ok (b.writeWhere k)
  | b, .options o => .ok (b.writeOptions o)
  | b, .set chs => .ok (b.writeAssignments chs)
  | b, .ctes chs => b.writeCtesFrom 0 chs
  | b, .operation op c a => .ok (b.writeOperation op c a)
  | b, .fromTable t => .ok (b.writeText t.fromClause)
  | _, .wrong m => .error m

def writeSteps : Builder → List Step → Except Misuse Builder
  | b, [] => .ok b
  | b, s :: steps =>
    match b.writeStep s with
    | .error m => .error m
    | .ok b => b.writeSteps steps

def writeCte : Builder → Change → Except Misuse Builder
  | b, .cte body _ _ => b.writeSteps body
  | b, .set _ _ | b, .increment _ _ | b, .setJson _ _ _ => .ok b

/-- Write the statements of the changes into an open WITH clause, each named by its position. -/
def writeCtesFrom : Builder → Nat → Changes → Except Misuse Builder
  | b, _, [] => .ok b
  | b, position, ch :: chs =>
    if ch.isCte then
      match (b.writeText (", cte_" ++ toString position ++ " AS (")).writeCte ch with
      | .error m => .error m
      | .ok b => (b.writeText ")").writeCtesFrom (position + 1) chs
    else b.writeCtesFrom (position + 1) chs

end

def writeCtes (b : Builder) (chs : Changes) : Except Misuse Builder := b.writeCtesFrom 0 chs

end BoundSql.Builder
