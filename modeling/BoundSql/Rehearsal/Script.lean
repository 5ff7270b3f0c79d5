import BoundSql.Event

namespace BoundSql.Rehearsal

structure Rule (α : Type) where
  on : String
  /-- How many statements are still let pass to later rules. -/
  skip : Nat
  /-- How many times the rule still applies; without limit if absent. -/
  times : Option Nat
  effect : α

abbrev Script (α : Type) := List (Rule α)

/-- The effect of the first rule that applies, and the script from then on. -/
def Script.choose {α : Type} (sql : String) : Script α → Option α × Script α
  | [] => (none, [])
  | r :: rules =>
    let pass (r : Rule α) : Option α × Script α :=
      let (effect, rules) := choose sql rules
      (effect, r :: rules)
    if r.on.toList.isPrefixOf sql.toList then
      match r.skip, r.times with
      | skip + 1, _ => pass { r with skip := skip }
      | 0, none => (some r.effect, r :: rules)
      | 0, some (n + 1) => (some r.effect, { r with times := some n } :: rules)
      | 0, some 0 => pass r
    else pass r

structure Journal (ℓ : Type) where
  log : List ℓ
  events : List Event

end BoundSql.Rehearsal
