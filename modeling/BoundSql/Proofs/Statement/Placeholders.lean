import BoundSql.Proofs.Statement.Writers

namespace BoundSql

namespace Value

def position (args : List Value) (v : Value) : Nat := (args.map key).idxOf v.key + 1

def placeholder (args : List Value) (v : Value) : String := "$" ++ toString (position args v)

/-- The literals with keys that are not bound yet, each at its first occurrence. -/
def unbound (bound : List Key) (vs : List Value) : List Value :=
  (vs.filter fun v => v.key ∉ bound).eraseDupsBy fun v w => v.key == w.key

theorem position_append {args : List Value} {v : Value} (h : v.key ∈ args.map key)
    (more : List Value) : position (args ++ more) v = position args v := by
  simp only [position, List.map_append, List.idxOf_append, if_pos h]

theorem placeholder_append {args : List Value} {v : Value} (h : v.key ∈ args.map key)
    (more : List Value) : placeholder (args ++ more) v = placeholder args v := by
  rw [placeholder, placeholder, position_append h]

theorem position_concat {args : List Value} {v : Value} (h : v.key ∉ args.map key) :
    position (args ++ [v]) v = args.length + 1 := by
  simp [position, List.idxOf_append, h]

@[simp] theorem unbound_nil (bound : List Key) : unbound bound [] = [] := rfl

theorem unbound_cons_of_mem {bound : List Key} {v : Value} (h : v.key ∈ bound) (vs : List Value) :
    unbound bound (v :: vs) = unbound bound vs := by
  simp [unbound, h]

theorem unbound_cons_of_notMem {bound : List Key} {v : Value} (h : v.key ∉ bound)
    (vs : List Value) :
    unbound bound (v :: vs) = v :: unbound (bound ++ [v.key]) vs := by
  have hfilter : (v :: vs).filter (fun w => w.key ∉ bound) =
      v :: vs.filter fun w => w.key ∉ bound := by simp [h]
  rw [unbound, hfilter, List.eraseDupsBy_cons, List.filter_filter, unbound]
  congr 3
  funext w
  by_cases hw : w.key = v.key <;> simp [hw, h]

/-- Once the first literal has been bound, its key is among those that are bound. -/
theorem unbound_cons (bound : List Key) (v : Value) (vs : List Value) :
    unbound bound (v :: vs) =
      unbound bound [v] ++ unbound (bound ++ (unbound bound [v]).map key) vs := by
  by_cases h : v.key ∈ bound
  · simp [unbound_cons_of_mem h]
  · simp [unbound_cons_of_notMem h]

end Value

namespace Fragment

def literals : Fragment → List Value
  | [] => []
  | .text _ :: f => literals f
  | .value v :: f => v :: literals f

def render (args : List Value) : Fragment → String
  | [] => ""
  | .text s :: f => s ++ render args f
  | .value v :: f => v.placeholder args ++ render args f

@[simp] theorem literals_nil : literals [] = [] := rfl

@[simp] theorem literals_text (s : String) (f : Fragment) :
    literals (.text s :: f) = literals f := rfl

@[simp] theorem literals_value (v : Value) (f : Fragment) :
    literals (.value v :: f) = v :: literals f := rfl

@[simp] theorem literals_append (f g : Fragment) :
    (f ++ g).literals = f.literals ++ g.literals := by
  induction f with
  | nil => rfl
  | cons piece f ih => cases piece <;> simp [ih]

end Fragment

namespace Builder

def keys (b : Builder) : List Key := b.args.map Value.key

/-- No key is bound twice, and the positions are those of the keys among the arguments. -/
structure Consistent (b : Builder) : Prop where
  keys_nodup : b.keys.Nodup
  positions_eq : ∀ key, b.positions[key]? =
    if key ∈ b.keys then some (b.keys.idxOf key + 1) else none

theorem consistent_start (sql : String) : (start sql).Consistent where
  keys_nodup := by simp [start, keys]
  positions_eq key := by simp [start, keys]

theorem Consistent.writeText {b : Builder} (hb : b.Consistent) (s : String) :
    (b.writeText s).Consistent := ⟨hb.keys_nodup, hb.positions_eq⟩

theorem Consistent.writeValue_of_mem {b : Builder} (hb : b.Consistent) {v : Value}
    (h : v.key ∈ b.keys) : b.writeValue v = b.writeText (v.placeholder b.args) := by
  have hp := hb.positions_eq v.key
  rw [if_pos h] at hp
  simp only [writeValue, bind, hp]
  rfl

def append (b : Builder) (v : Value) : Builder :=
  ⟨b.sql, b.args ++ [v], b.positions.insert v.key (b.args.length + 1)⟩

theorem Consistent.writeValue_of_notMem {b : Builder} (hb : b.Consistent) {v : Value}
    (h : v.key ∉ b.keys) :
    b.writeValue v = (b.append v).writeText (v.placeholder (b.append v).args) := by
  have hp := hb.positions_eq v.key
  rw [if_neg h] at hp
  simp only [writeValue, bind, hp, append, Value.placeholder, Value.position_concat h]

theorem Consistent.append {b : Builder} (hb : b.Consistent) {v : Value} (h : v.key ∉ b.keys) :
    (b.append v).Consistent where
  keys_nodup := by
    have hkeys : (b.append v).keys = b.keys ++ [v.key] := by simp [keys, Builder.append]
    rw [hkeys]
    exact List.nodup_append.mpr ⟨hb.keys_nodup, by simp, by
      intro k hk l hl e
      rw [List.mem_singleton] at hl
      exact h (hl ▸ e ▸ hk)⟩
  positions_eq key := by
    have hp := hb.positions_eq key
    simp only [keys, Builder.append, List.map_append, List.map_cons, List.map_nil] at hp h ⊢
    rw [Std.HashMap.getElem?_insert, hp]
    by_cases hk : v.key = key
    · subst hk
      simp [List.idxOf_append, h]
    · have hk' : key ≠ v.key := fun e => hk e.symm
      by_cases hm : key ∈ b.args.map Value.key
      · simp [hk, hm, List.idxOf_append]
      · simp [hk, hk', hm]

theorem Consistent.writeValue {b : Builder} (hb : b.Consistent) (v : Value) :
    (b.writeValue v).Consistent ∧ v.key ∈ (b.writeValue v).keys ∧
      (b.writeValue v).args = b.args ++ Value.unbound b.keys [v] ∧
      (b.writeValue v).sql = b.sql ++ v.placeholder (b.writeValue v).args := by
  by_cases h : v.key ∈ b.keys
  · rw [hb.writeValue_of_mem h, Value.unbound_cons_of_mem h]
    exact ⟨hb.writeText _, h, by simp [Builder.writeText], rfl⟩
  · rw [hb.writeValue_of_notMem h, Value.unbound_cons_of_notMem h]
    exact ⟨(hb.append h).writeText _, by simp [keys, Builder.writeText, Builder.append], rfl,
      rfl⟩

/-- What writing a fragment leaves. The placeholders are read off the final arguments; those given
out before stand for the same arguments, since arguments are only appended. -/
theorem Consistent.write {b : Builder} (hb : b.Consistent) (f : Fragment) :
    (b.write f).Consistent ∧
      (b.write f).args = b.args ++ Value.unbound b.keys f.literals ∧
      (b.write f).sql = b.sql ++ f.render (b.write f).args := by
  induction f generalizing b with
  | nil => exact ⟨hb, by simp [Fragment.literals], by simp [Fragment.render]⟩
  | cons piece f ih =>
    cases piece with
    | text s =>
      obtain ⟨hc, hargs, hsql⟩ := ih (hb.writeText s)
      refine ⟨hc, hargs, ?_⟩
      rw [write_text, hsql, Fragment.render, ← String.append_assoc]
      rfl
    | value v =>
      obtain ⟨hv, hmem, hvargs, hvsql⟩ := hb.writeValue v
      obtain ⟨hc, hargs, hsql⟩ := ih hv
      have hkeys : (b.writeValue v).keys =
          b.keys ++ (Value.unbound b.keys [v]).map Value.key := by
        rw [keys, hvargs, List.map_append]
        rfl
      have hplace : v.placeholder ((b.writeValue v).write f).args =
          v.placeholder (b.writeValue v).args := by
        rw [hargs]
        exact Value.placeholder_append hmem _
      refine ⟨hc, ?_, ?_⟩
      · rw [write_value, hargs, hvargs, hkeys, Fragment.literals,
          Value.unbound_cons b.keys v (Fragment.literals f), List.append_assoc]
      · rw [write_value, hsql, hvsql, Fragment.render, hplace, String.append_assoc]

theorem args_write_start (sql : String) (f : Fragment) :
    ((start sql).write f).args = Value.unbound [] f.literals :=
  ((consistent_start sql).write f).2.1

theorem sql_write_start (sql : String) (f : Fragment) :
    ((start sql).write f).sql = sql ++ f.render (Value.unbound [] f.literals) := by
  rw [((consistent_start sql).write f).2.2, args_write_start]
  rfl

end Builder

end BoundSql
