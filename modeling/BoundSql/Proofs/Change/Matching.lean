import BoundSql.Proofs.Change.Carried
import BoundSql.Proofs.Value.Equality
import BoundSql.Proofs.Value.Key

namespace BoundSql

open Value

def Statement.unsigned (s : Statement) : Statement := ⟨s.sql, s.args.map Value.unsigned⟩

namespace Change

theorem sameValues_iff {vs ws : List Value} :
    sameValues vs ws = true ↔
      vs.map Value.unsigned = ws.map Value.unsigned ∧ Value.Definite vs ∧ Value.Definite ws := by
  induction vs generalizing ws with
  | nil => cases ws <;> simp [sameValues]
  | cons v vs ih =>
    cases ws <;> simp [sameValues, Value.same_iff, ih]
    tauto

theorem sameStatement_iff {s t : Statement} :
    sameStatement s t = true ↔
      s.unsigned = t.unsigned ∧ Value.Definite s.args ∧ Value.Definite t.args := by
  simp [sameStatement, Statement.unsigned, sameValues_iff, and_assoc]

theorem sameStatement_comm (s t : Statement) : sameStatement s t = sameStatement t s := by
  rw [Bool.eq_iff_iff, sameStatement_iff, sameStatement_iff, eq_comm,
    and_comm (a := Value.Definite s.args)]

theorem same_comm_of_plain {x y : Change} (hx : x.isCte = false) (hy : y.isCte = false) :
    x.same y = y.same x := by
  rw [Bool.eq_iff_iff, same_iff_of_plain hx, same_iff_of_plain hy, eq_comm,
    and_comm (a := Value.Definite x.fragment.literals)]

theorem rendered_of_fragments {body : List Step} {f : Fragment}
    (h : Step.fragments body = .ok f) :
    rendered body = .ok ⟨f.render (Value.unbound [] f.literals), Value.unbound [] f.literals⟩ := by
  have hsql := (Builder.sql_write_start "" f).trans String.empty_append
  rw [rendered, Builder.writeSteps_eq_write, h, ← hsql, ← Builder.args_write_start "" f]
  rfl

/-! What agreement compares: of every statement that is carried what it renders, and what is
assigned. -/

/-- A statement comes of the steps, and no NaN is among its arguments. -/
def SoundBody (body : List Step) : Prop := ∃ s, rendered body = .ok s ∧ Value.Definite s.args

def bodyImage (body : List Step) : Except Misuse Statement :=
  (rendered body).map Statement.unsigned

/-- No step that is written is wrong, and no NaN is bound. -/
structure Sound (ch : Change) : Prop where
  assignment : Value.Definite ch.fragment.literals
  bodies : ∀ body ∈ ch.bodies, SoundBody body

def image (ch : Change) : List (Except Misuse Statement) × Option Change :=
  (ch.bodies.map bodyImage, ch.assignment?.map (relabel Value.unsigned))

theorem rendersSame_eq_true_iff {f g : List Step} :
    rendersSame f g = .ok true ↔ bodyImage f = bodyImage g ∧ SoundBody f ∧ SoundBody g := by
  unfold rendersSame bodyImage SoundBody
  cases rendered f <;> cases rendered g <;> simp [Except.map, sameStatement_iff]

variable {x y : Change}

theorem agrees_of_plain (hx : x.isCte = false) : x.agrees y = .ok (x.same y) := by
  cases x with
  | cte _ _ _ => cases hx
  | set _ _ | increment _ _ | setJson _ _ _ => cases y <;> rfl

theorem agrees_of_mixed (h : x.isCte ≠ y.isCte) : x.agrees y = .ok false := by
  cases x <;> cases y <;> first | rfl | exact absurd rfl h

theorem isCte_eq_of_image (h : x.image = y.image) : x.isCte = y.isCte := by
  have hbodies := congrArg (fun i => i.1.isEmpty) h
  cases x <;> cases y <;> first | rfl | cases hbodies

theorem image_of_plain (hx : x.isCte = false) :
    x.image = ([], some (x.relabel Value.unsigned)) := by
  rw [image, bodies_of_plain hx, assignment?_of_plain hx]
  rfl

theorem sound_of_plain (hx : x.isCte = false) :
    x.Sound ↔ Value.Definite x.fragment.literals := by
  refine ⟨Sound.assignment, fun h => ⟨h, ?_⟩⟩
  rw [bodies_of_plain hx]
  exact fun _ hbody => absurd hbody List.not_mem_nil

theorem sound_bare {f : List Step} {m : Nat} : (cte f m none).Sound ↔ SoundBody f :=
  ⟨fun h => h.bodies f List.mem_cons_self,
    fun h => ⟨Value.definite_nil, List.forall_mem_singleton.mpr h⟩⟩

theorem sound_around {f : List Step} {m : Nat} :
    (cte f m (some x)).Sound ↔ SoundBody f ∧ x.Sound :=
  ⟨fun h => ⟨h.bodies f List.mem_cons_self, h.assignment,
      fun body hbody => h.bodies body (List.mem_cons_of_mem _ hbody)⟩,
    fun h => ⟨h.2.assignment, List.forall_mem_cons.mpr ⟨h.1, h.2.bodies⟩⟩⟩

theorem image_bare {f : List Step} {m : Nat} : (cte f m none).image = ([bodyImage f], none) := rfl

theorem image_around {f : List Step} {m : Nat} :
    (cte f m (some x)).image = (bodyImage f :: x.image.1, x.image.2) := rfl

/-- No change is without statement and assignment. -/
theorem image_ne_empty (x : Change) : x.image ≠ ([], none) := by
  induction x using carried_induction with
  | plain x hx => simp [image_of_plain hx]
  | bare f m => simp [image_bare]
  | around f m x ih => simp [image_around]

theorem image_around_ne {f g : List Step} {m n : Nat} :
    (cte f m (some x)).image ≠ (cte g n none).image := by
  rw [image_around, image_bare]
  intro h
  obtain ⟨hbodies, hassigned⟩ := Prod.mk.inj h
  exact x.image_ne_empty (Prod.ext (List.cons.inj hbodies).2 hassigned)

theorem agrees_bare {f g : List Step} {m n : Nat} :
    (cte f m none).agrees (cte g n none) = rendersSame f g := rfl

theorem agrees_around {f g : List Step} {m n : Nat} :
    (cte f m (some x)).agrees (cte g n (some y)) = .ok true ↔
      x.agrees y = .ok true ∧ rendersSame f g = .ok true := by
  simp only [agrees, optionalAgrees]
  split
  next h => simp [h]
  next h => exact ⟨fun h' => absurd h' h, fun h' => absurd h'.1 h⟩

/-- Changes agree if they render and assign the same, no NaN among it. -/
theorem agrees_eq_true_iff {x y : Change} :
    x.agrees y = .ok true ↔ x.image = y.image ∧ x.Sound ∧ y.Sound := by
  induction x using carried_induction generalizing y with
  | plain x hx =>
    cases hy : y.isCte with
    | false =>
      rw [agrees_of_plain hx, image_of_plain hx, sound_of_plain hx, image_of_plain hy,
        sound_of_plain hy]
      simp [same_iff_of_plain hx]
    | true =>
      have hmixed : x.isCte ≠ y.isCte := by simp [hx, hy]
      rw [agrees_of_mixed hmixed]
      exact ⟨nofun, fun h => absurd (isCte_eq_of_image h.1) hmixed⟩
  | bare f m =>
    match y with
    | .set _ _ | .increment _ _ | .setJson _ _ _ =>
      exact ⟨nofun, fun h => nomatch isCte_eq_of_image h.1⟩
    | .cte g n none =>
      rw [agrees_bare, rendersSame_eq_true_iff, sound_bare, sound_bare, image_bare, image_bare]
      simp
    | .cte g n (some y) =>
      exact ⟨nofun, fun h => absurd h.1.symm image_around_ne⟩
  | around f m x ih =>
    match y with
    | .set _ _ | .increment _ _ | .setJson _ _ _ =>
      exact ⟨nofun, fun h => nomatch isCte_eq_of_image h.1⟩
    | .cte g n none =>
      exact ⟨nofun, fun h => absurd h.1 image_around_ne⟩
    | .cte g n (some y) =>
      rw [agrees_around, ih, rendersSame_eq_true_iff, sound_around, sound_around, image_around,
        image_around]
      simp only [Prod.ext_iff, List.cons.injEq]
      tauto

theorem agrees_trans {z : Change} (hxy : x.agrees y = .ok true) (hyz : y.agrees z = .ok true) :
    x.agrees z = .ok true := by
  rw [agrees_eq_true_iff] at hxy hyz ⊢
  exact ⟨hxy.1.trans hyz.1, hxy.2.1, hyz.2.2⟩

theorem toOption_rendersSame (f g : List Step) :
    (rendersSame f g).toOption = (rendersSame g f).toOption := by
  unfold rendersSame
  cases rendered f with
  | error m => cases rendered g <;> rfl
  | ok s =>
    cases rendered g with
    | error m => rfl
    | ok t => exact congrArg some (sameStatement_comm s t)

/-- What is looked at only if the rest agrees. -/
theorem toOption_further {r r' k k' : Except Misuse Bool} (hr : r.toOption = r'.toOption)
    (hk : k.toOption = k'.toOption) :
    (match r with | .ok true => k | r => r).toOption =
      (match r' with | .ok true => k' | r => r).toOption := by
  cases r with
  | error _ =>
    cases r' with
    | error _ => rfl
    | ok _ => cases hr
  | ok b =>
    cases r' with
    | error _ => cases hr
    | ok b' =>
      obtain rfl : b = b' := Option.some.inj hr
      cases b with
      | false => rfl
      | true => exact hk

theorem toOption_agrees_comm (x y : Change) :
    (x.agrees y).toOption = (y.agrees x).toOption := by
  induction x using carried_induction generalizing y with
  | plain x hx =>
    cases hy : y.isCte with
    | false => rw [agrees_of_plain hx, agrees_of_plain hy, same_comm_of_plain hx hy]
    | true =>
      rw [agrees_of_mixed (by simp [hx, hy]), agrees_of_mixed (by simp [hx, hy])]
  | bare f m =>
    match y with
    | .set _ _ | .increment _ _ | .setJson _ _ _ | .cte _ _ (some _) => rfl
    | .cte g n none => exact toOption_rendersSame f g
  | around f m x ih =>
    match y with
    | .set _ _ | .increment _ _ | .setJson _ _ _ | .cte _ _ none => rfl
    | .cte g n (some y) => exact toOption_further (ih y) (toOption_rendersSame f g)

/-- No NaN is bound, by an assignment or by a statement that is rendered. -/
structure Definite (ch : Change) : Prop where
  assignment : Value.Definite ch.fragment.literals
  bodies : ∀ body ∈ ch.bodies, ∀ s, rendered body = .ok s → Value.Definite s.args

/-- The answer is yes, unless one of the statements cannot be rendered. -/
def AgreesUnlessWrong (answer : Except Misuse Bool) (bodies : List (List Step)) : Prop :=
  answer = .ok true ∨ ∃ body ∈ bodies, ∃ m, rendered body = .error m ∧ answer = .error m

theorem rendersSame_of_sameBody {f g : List Step} (h : sameBody f g = true)
    (hf : ∀ s, rendered f = .ok s → Value.Definite s.args) (others : List (List Step)) :
    AgreesUnlessWrong (rendersSame f g) (f :: others) := by
  unfold sameBody at h
  unfold rendersSame
  cases hs : rendered f with
  | error m => exact .inr ⟨f, List.mem_cons_self, m, hs, by cases rendered g <;> rfl⟩
  | ok s =>
    cases ht : rendered g with
    | error m => simp [hs, ht] at h
    | ok t =>
      simp only [hs, ht, Bool.and_eq_true, beq_iff_eq] at h
      obtain ⟨hsql, hkeys⟩ := h
      have hargs : s.args = t.args :=
        List.map_injective_iff.mpr (fun _ _ => Value.key_injective) hkeys
      have himage : s.unsigned = t.unsigned := by
        rw [Statement.unsigned, Statement.unsigned, hsql, hargs]
      have hdefinite := hf s hs
      exact .inl (congrArg Except.ok
        (sameStatement_iff.mpr ⟨himage, hdefinite, hargs ▸ hdefinite⟩))

theorem exists_of_same_cte {f : List Step} {m : Nat} {x : Option Change}
    (h : (cte f m x).same y = true) :
    ∃ g z, y = cte g m z ∧ sameBody f g = true ∧ optionalSame x z = true := by
  cases y with
  | set _ _ | increment _ _ | setJson _ _ _ => cases h
  | cte g n z =>
    simp only [same, Bool.and_eq_true, beq_iff_eq] at h
    obtain ⟨⟨rfl, hbody⟩, hrest⟩ := h
    exact ⟨g, z, rfl, hbody, hrest⟩

theorem Definite.of_around {f : List Step} {m : Nat} (h : (cte f m (some x)).Definite) :
    x.Definite :=
  ⟨h.assignment, fun body hbody => h.bodies body (List.mem_cons_of_mem _ hbody)⟩

theorem agrees_of_same (hx : x.Definite) (h : x.same y = true) :
    AgreesUnlessWrong (x.agrees y) x.bodies := by
  induction x using carried_induction generalizing y with
  | plain x hplain => exact .inl (by rw [agrees_of_plain hplain, h])
  | bare f m =>
    obtain ⟨g, z, rfl, hbody, hrest⟩ := exists_of_same_cte h
    cases z with
    | some z => cases hrest
    | none => exact rendersSame_of_sameBody hbody (hx.bodies f List.mem_cons_self) []
  | around f m x ih =>
    obtain ⟨g, z, rfl, hbody, hrest⟩ := exists_of_same_cte h
    cases z with
    | none => cases hrest
    | some z =>
      rcases ih hx.of_around hrest with hagrees | ⟨body, hmem, m', hm, hanswer⟩
      · simp only [agrees, optionalAgrees, hagrees]
        exact rendersSame_of_sameBody hbody (hx.bodies f List.mem_cons_self) x.bodies
      · simp only [agrees, optionalAgrees, hanswer]
        exact .inr ⟨body, List.mem_cons_of_mem _ hmem, m', hm, rfl⟩

theorem sameBody_self (f : List Step) : sameBody f f = true := by
  unfold sameBody
  cases rendered f <;> simp

theorem same_self (hx : x.Definite) : x.same x = true := by
  induction x using carried_induction with
  | plain x hplain =>
    exact (same_iff_of_plain hplain).mpr ⟨rfl, hx.assignment, hx.assignment⟩
  | bare f m => simp [same, optionalSame, sameBody_self]
  | around f m x ih => simp [same, optionalSame, sameBody_self, ih hx.of_around]

theorem Sound.definite (hx : x.Sound) : x.Definite := by
  refine ⟨hx.assignment, fun body hbody s hs => ?_⟩
  obtain ⟨t, ht, hdefinite⟩ := hx.bodies body hbody
  obtain rfl : t = s := Except.ok.inj (ht.symm.trans hs)
  exact hdefinite

theorem definite_of_agrees_self (h : x.agrees x = .ok true) : x.Definite :=
  (agrees_eq_true_iff.mp h).2.1.definite

end Change

namespace Changes

open Change

def Definite (chs : Changes) : Prop := ∀ ch ∈ chs, ch.Definite

theorem agreeInTurn_cons_eq_true {x y : Change} {xs ys : Changes} :
    agreeInTurn (x :: xs) (y :: ys) = .ok true ↔
      x.agrees y = .ok true ∧ agreeInTurn xs ys = .ok true := by
  rw [agreeInTurn]
  split
  next h => simp [h]
  next h => exact ⟨fun h' => absurd h' h, fun h' => absurd h'.1 h⟩

/-- Lists agree if their changes do, position by position, and none is longer. -/
theorem agrees_iff_forall₂ {xs ys : Changes} :
    xs.agrees ys = .ok true ↔ List.Forall₂ (fun x y => x.agrees y = .ok true) xs ys := by
  rw [agrees]
  split
  next hlength =>
    induction xs generalizing ys with
    | nil =>
      obtain rfl := List.length_eq_zero_iff.mp hlength.symm
      simp [agreeInTurn]
    | cons x xs ih =>
      obtain ⟨y, ys, rfl⟩ := List.exists_cons_of_length_eq_add_one hlength.symm
      rw [agreeInTurn_cons_eq_true, List.forall₂_cons, ih (by simpa using hlength)]
  next hlength => exact ⟨nofun, fun h => absurd h.length_eq hlength⟩

theorem agrees_trans {xs ys zs : Changes} (hxy : xs.agrees ys = .ok true)
    (hyz : ys.agrees zs = .ok true) : xs.agrees zs = .ok true := by
  rw [agrees_iff_forall₂] at hxy hyz ⊢
  induction hxy generalizing zs with
  | nil => exact hyz
  | cons hxy _ ih =>
    cases hyz with
    | cons hyz hrest => exact .cons (Change.agrees_trans hxy hyz) (ih hrest)

theorem definite_of_agrees_self {xs : Changes} (h : xs.agrees xs = .ok true) : xs.Definite := by
  rw [agrees_iff_forall₂, List.forall₂_same] at h
  exact fun x hx => Change.definite_of_agrees_self (h x hx)

theorem toOption_agrees_comm (xs ys : Changes) :
    (xs.agrees ys).toOption = (ys.agrees xs).toOption := by
  have hinTurn (xs ys : Changes) :
      (agreeInTurn xs ys).toOption = (agreeInTurn ys xs).toOption := by
    induction xs generalizing ys with
    | nil => cases ys <;> rfl
    | cons x xs ih =>
      cases ys with
      | nil => rfl
      | cons y ys => exact toOption_further (Change.toOption_agrees_comm x y) (ih ys)
  by_cases hlength : xs.length = ys.length
  · rw [agrees, agrees, if_pos hlength, if_pos hlength.symm]
    exact hinTurn xs ys
  · rw [agrees, agrees, if_neg hlength, if_neg (Ne.symm hlength)]

theorem forall₂_of_same {xs ys : Changes} (h : xs.same ys = true) :
    List.Forall₂ (fun x y => x.same y = true) xs ys := by
  induction xs generalizing ys with
  | nil =>
    cases ys with
    | nil => exact .nil
    | cons y ys => cases h
  | cons x xs ih =>
    cases ys with
    | nil => cases h
    | cons y ys =>
      obtain ⟨hx, hxs⟩ := Bool.and_eq_true_iff.mp h
      exact .cons hx (ih hxs)

theorem agrees_of_same {xs ys : Changes} (hxs : xs.Definite) (h : xs.same ys = true) :
    AgreesUnlessWrong (xs.agrees ys) xs.carried := by
  have hsame := forall₂_of_same h
  rw [agrees, if_pos hsame.length_eq]
  clear h
  induction hsame with
  | nil => exact .inl rfl
  | @cons x y xs ys hxy _ ih =>
    obtain ⟨hx, hxs⟩ := List.forall_mem_cons.mp hxs
    rw [agreeInTurn, carried, List.flatMap_cons]
    rcases Change.agrees_of_same hx hxy with hagrees | ⟨body, hmem, m, hm, hanswer⟩
    · rw [hagrees]
      rcases ih hxs with hrest | ⟨body, hmem, hbody⟩
      · exact .inl hrest
      · exact .inr ⟨body, List.mem_append_right _ hmem, hbody⟩
    · rw [hanswer]
      exact .inr ⟨body, List.mem_append_left _ hmem, m, hm, rfl⟩

theorem same_self {xs : Changes} (hxs : xs.Definite) : xs.same xs = true := by
  induction xs with
  | nil => rfl
  | cons x xs ih =>
    obtain ⟨hx, hxs⟩ := List.forall_mem_cons.mp hxs
    rw [same, Change.same_self hx, ih hxs]
    rfl

end Changes

/-- A partial equivalence that holds of equal things, except that a NaN agrees with nothing. Answers
do not depend on the order, and where one is missing in either order a statement is wrong that has
to be rendered for it. -/
structure RefinesEquality {α : Type} (agrees : α → α → Except Misuse Bool) (same : α → α → Bool)
    (bodies : α → List (List Step)) (Definite : α → Prop) : Prop where
  symm : ∀ x y, (agrees x y).toOption = (agrees y x).toOption
  trans : ∀ x y z, agrees x y = .ok true → agrees y z = .ok true → agrees x z = .ok true
  refl : ∀ x, Definite x → Change.AgreesUnlessWrong (agrees x x) (bodies x)
  definite_of_refl : ∀ x, agrees x x = .ok true → Definite x
  of_same : ∀ x y, Definite x → same x y = true →
    Change.AgreesUnlessWrong (agrees x y) (bodies x)

/-- Agreement of changes, and of lists of changes position by position, is a partial equivalence that
refines equality. -/
theorem agrees_refines_same :
    RefinesEquality Change.agrees Change.same Change.bodies Change.Definite ∧
    RefinesEquality Changes.agrees Changes.same Changes.carried Changes.Definite ∧
    ∀ xs ys : Changes, xs.agrees ys = .ok true → xs.length = ys.length := by
  refine ⟨⟨Change.toOption_agrees_comm, ?_, ?_, ?_, ?_⟩,
    ⟨Changes.toOption_agrees_comm, ?_, ?_, ?_, ?_⟩, fun xs ys h => ?_⟩
  · exact fun x y z hxy hyz => Change.agrees_trans hxy hyz
  · exact fun x hx => Change.agrees_of_same hx (Change.same_self hx)
  · exact fun x h => Change.definite_of_agrees_self h
  · exact fun x y hx h => Change.agrees_of_same hx h
  · exact fun xs ys zs hxy hyz => Changes.agrees_trans hxy hyz
  · exact fun xs hxs => Changes.agrees_of_same hxs (Changes.same_self hxs)
  · exact fun xs h => Changes.definite_of_agrees_self h
  · exact fun xs ys hxs h => Changes.agrees_of_same hxs h
  · exact (Changes.agrees_iff_forall₂.mp h).length_eq

/-- A deletion where a number is found, and an assignment with another number in a fallback. -/
def deletingAt (x y : Binary.Binary64) (mark : Nat) : Change :=
  .cte [.text "DELETE FROM t WHERE x = ", .arg (.value (.number (.double x)))] mark
    (some (.set (.named "t" "y")
      (.coalesce (.value (.text "a")) (.value (.number (.double y))))))

theorem rendered_deletion (x : Binary.Binary64) :
    Change.rendered [.text "DELETE FROM t WHERE x = ", .arg (.value (.number (.double x)))] =
      .ok ⟨"DELETE FROM t WHERE x = $1", [.number (.double x)]⟩ := by
  let v : Value := .number (.double x)
  have hfragments : Step.fragments [.text "DELETE FROM t WHERE x = ", .arg (.value v)] =
      .ok [.text "DELETE FROM t WHERE x = ", .value v] := rfl
  have hargs : unbound [] [v] = [v] := by
    rw [unbound_cons_of_notMem List.not_mem_nil, unbound_nil]
  have hplaceholder : v.placeholder [v] = "$1" := by
    rw [Value.placeholder, Value.position, List.map_singleton, List.idxOf_cons_self]
    rfl
  rw [Change.rendered_of_fragments hfragments, Fragment.literals_text, Fragment.literals_value,
    Fragment.literals_nil, hargs, Fragment.render, Fragment.render, hplaceholder]
  rfl

/-- Zeros agree whatever their signs, though the changes are not equal; a NaN does not agree with
itself. -/
theorem zeros_agree_and_nan_does_not :
    let zeros := deletingAt ⟨0⟩ ⟨0x8000000000000000⟩ 0
    let others := deletingAt ⟨0x8000000000000000⟩ ⟨0⟩ 1
    let nan := deletingAt ⟨0x7ff8000000000000⟩ ⟨0⟩ 2
    zeros.agrees others = .ok true ∧ others.agrees zeros = .ok true ∧
      zeros.agrees zeros = .ok true ∧ zeros.same others = false ∧ nan.agrees nan ≠ .ok true := by
  intro zeros others nan
  obtain ⟨hchange, -, -⟩ := agrees_refines_same
  have hzeros : zeros.agrees others = .ok true := by
    refine Change.agrees_around.mpr ⟨congrArg Except.ok (by decide), ?_⟩
    simp only [Change.rendersSame, rendered_deletion]
    exact congrArg Except.ok (by decide)
  have hback : others.agrees zeros = .ok true := by
    have hsymm := hchange.symm others zeros
    rw [hzeros] at hsymm
    cases hanswer : others.agrees zeros with
    | error m => cases hanswer ▸ hsymm
    | ok answer =>
      rw [hanswer] at hsymm
      exact congrArg Except.ok (Option.some.inj hsymm)
  refine ⟨hzeros, hback, hchange.trans _ _ _ hzeros hback, by decide, fun hnan => ?_⟩
  have hdefinite := (hchange.definite_of_refl _ hnan).bodies _ List.mem_cons_self _
    (rendered_deletion _)
  exact absurd (hdefinite _ List.mem_cons_self) (by decide)

end BoundSql
