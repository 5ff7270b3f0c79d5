import Mathlib.Data.List.Nodup
import BoundSql.Proofs.Pool.Traffic

namespace BoundSql

namespace Database

/-- The number of the message that opened the open block. -/
def opener : List (Nat × Message) → Option Nat
  | [] => none
  | p :: done =>
    if (replay (p :: done)).block.isSome then
      if (replay done).block.isSome then opener done else some p.1
    else none

variable {p : Nat × Message} {done : List (Nat × Message)} {j : Nat}

theorem opener_of_none (h : (replay done).block = none) : opener done = none := by
  cases done with
  | nil => rfl
  | cons p done => simp [opener, h]

theorem opener_of_isSome (h : (replay done).block.isSome) : ∃ j, opener done = some j := by
  induction done with
  | nil => cases h
  | cons p done ih =>
    rw [opener, if_pos h]
    split
    next hopen => exact ih hopen
    next => exact ⟨p.1, rfl⟩

theorem opener_cons (h : opener (p :: done) = some j) : j = p.1 ∨ opener done = some j := by
  rw [opener] at h
  split at h
  next =>
    split at h
    next => exact .inr h
    next =>
      cases h
      exact .inl rfl
  next => cases h

end Database

namespace Backend

open Database

variable {b b' : Backend} {m : Message} {ok : Bool} {sender : Nat → Option Nat} {κ : Nat}

/-- What holds of a link and of those who have sent its requests. -/
structure Attributed (b : Backend) (sender : Nat → Option Nat) : Prop where
  sent {i κ : Nat} (h : sender i = some κ) : i < b.requests
  unsent {p : Nat × Message} (hp : p ∈ b.done) (h : sender p.1 = none) : p.2 = .batch "ROLLBACK"
  own {later earlier : List (Nat × Message)} {p : Nat × Message} {κ j : Nat}
    (hdone : b.done = later ++ p :: earlier) (h : sender p.1 = some κ)
    (hj : opener earlier = some j) : sender j = some κ
  unshared {i j k κ : Nat} (hi : sender i = some κ) (hk : sender k = some κ) (hij : i ≤ j)
    (hjk : j ≤ k) : sender j = some κ

/-- The open block, and all requests since its first one, are those of a checkout. -/
structure Reserved (κ : Nat) (b : Backend) (sender : Nat → Option Nat) : Prop where
  block {j : Nat} (h : opener b.done = some j) : sender j = some κ
  latest {i j : Nat} (hi : sender i = some κ) (hij : i ≤ j) (hj : j < b.requests) :
    sender j = some κ

theorem attributed_fresh (fates : Nat → Fate) : Attributed (fresh fates) fun _ => none where
  sent := nofun
  unsent := nofun
  own _ := nofun
  unshared := nofun

/-- What was carried out last was the request, or nothing was. -/
theorem Handled.split {later earlier : List (Nat × Message)} {p : Nat × Message}
    (hh : Handled m b ok b') (hdone : b'.done = later ++ p :: earlier) :
    p = (b.requests, m) ∧ earlier = b.done ∨ ∃ later', b.done = later' ++ p :: earlier := by
  cases hh with
  | skipped => exact .inr ⟨later, hdone⟩
  | taken =>
    rcases List.cons_eq_append_iff.mp hdone with ⟨-, hcons⟩ | ⟨later', -, hdone⟩
    · cases hcons
      exact .inl ⟨rfl, rfl⟩
    · exact .inr ⟨later', hdone⟩

theorem Handled.mem {p : Nat × Message} (hh : Handled m b ok b') (hp : p ∈ b'.done) :
    p = (b.requests, m) ∨ p ∈ b.done := by
  cases hh with
  | skipped => exact .inr hp
  | taken => exact List.mem_cons.mp hp

theorem Attributed.unsent_requests (h : Attributed b sender) : sender b.requests = none := by
  cases hs : sender b.requests with
  | none => rfl
  | some κ => exact absurd (h.sent hs) (Nat.lt_irrefl _)

theorem Attributed.rolledBack (h : Attributed b sender) (hh : Handled (.batch "ROLLBACK") b ok b') :
    Attributed b' sender where
  sent hs := by
    rw [hh.requests_eq]
    exact Nat.lt_succ_of_lt (h.sent hs)
  unsent hp hs := by
    rcases hh.mem hp with rfl | hp
    · rfl
    · exact h.unsent hp hs
  own hdone hs hj := by
    rcases hh.split hdone with ⟨rfl, -⟩ | ⟨later, hdone⟩
    · rw [h.unsent_requests] at hs
      cases hs
    · exact h.own hdone hs hj
  unshared := h.unshared

/-- A link on which a rollback has succeeded is anyone's. -/
theorem reserved_of_rolledBack (hunused : ∀ i, sender i ≠ some κ)
    (hh : Handled (.batch "ROLLBACK") b true b') : Reserved κ b' sender := by
  have hnone : b'.database.block = none := by
    rcases hh.of_batch with ⟨hok, -⟩ | hd
    · cases hok
    · exact block_of_batch (.inr rfl) hd
  refine ⟨fun hj => ?_, fun hi => absurd hi (hunused _)⟩
  rw [opener_of_none hnone] at hj
  cases hj

section Sending

variable (h : Attributed b sender) (hr : Reserved κ b sender) (hh : Handled m b ok b')

include h

theorem Attributed.update_eq {i κ' : Nat} (hi : sender i = some κ') :
    Function.update sender b.requests (some κ) i = some κ' := by
  rw [Function.update_of_ne (Nat.ne_of_lt (h.sent hi)), hi]

theorem Attributed.of_update {i κ' : Nat}
    (hi : Function.update sender b.requests (some κ) i = some κ') :
    i = b.requests ∧ κ' = κ ∨ i < b.requests ∧ sender i = some κ' := by
  by_cases hi' : i = b.requests
  · rw [hi', Function.update_self] at hi
    exact .inl ⟨hi', (Option.some.inj hi).symm⟩
  · rw [Function.update_of_ne hi'] at hi
    exact .inr ⟨h.sent hi, hi⟩

include hr hh

theorem Reserved.sending : Reserved κ b' (Function.update sender b.requests (some κ)) where
  block {j} hj := by
    have hor : j = b.requests ∨ opener b.done = some j := by
      cases hh with
      | skipped => exact .inr hj
      | taken => exact opener_cons hj
    rcases hor with rfl | hj
    · exact Function.update_self ..
    · exact h.update_eq (hr.block hj)
  latest {i j} hi hij hj := by
    rw [hh.requests_eq] at hj
    rcases Nat.lt_succ_iff_lt_or_eq.mp hj with hj | rfl
    · rcases h.of_update hi with ⟨rfl, -⟩ | ⟨-, hi⟩
      · omega
      · exact h.update_eq (hr.latest hi hij hj)
    · exact Function.update_self ..

theorem Attributed.sending : Attributed b' (Function.update sender b.requests (some κ)) where
  sent hs := by
    rw [hh.requests_eq]
    rcases h.of_update hs with ⟨rfl, -⟩ | ⟨hi, -⟩ <;> omega
  unsent {p} hp hs := by
    rcases hh.mem hp with rfl | hp
    · rw [Function.update_self] at hs
      cases hs
    · rw [Function.update_of_ne (Nat.ne_of_lt (b.numbered p hp))] at hs
      exact h.unsent hp hs
  own {later earlier p κ' j} hdone hs hj := by
    rcases hh.split hdone with ⟨rfl, rfl⟩ | ⟨later', hdone⟩
    · rw [Function.update_self] at hs
      cases hs
      exact h.update_eq (hr.block hj)
    · have hp : p ∈ b.done := by simp [hdone]
      rw [Function.update_of_ne (Nat.ne_of_lt (b.numbered p hp))] at hs
      exact h.update_eq (h.own hdone hs hj)
  unshared {i j k κ'} hi hk hij hjk := by
    rcases h.of_update hk with ⟨rfl, rfl⟩ | ⟨hk', hk⟩
    · rcases Nat.lt_or_eq_of_le hjk with hj | rfl
      · rcases h.of_update hi with ⟨rfl, -⟩ | ⟨-, hi⟩
        · omega
        · exact h.update_eq (hr.latest hi hij hj)
      · exact hk
    · rcases h.of_update hi with ⟨rfl, -⟩ | ⟨-, hi⟩
      · omega
      · exact h.update_eq (h.unshared hi hk hij hjk)

end Sending

end Backend

namespace Traffic

variable {u u' : Traffic} {κ n : Nat} {idle idle' : List Nat} {opened : Nat}
  {checkouts : List Checkout}

/-- Where the links are: no link is in two places. -/
structure Placed (idle : List Nat) (opened : Nat) (checkouts : List Checkout) : Prop where
  nodup : idle.Nodup
  idle_opened {n : Nat} (h : n ∈ idle) : n < opened
  opened {κ : Nat} {c : Checkout} (h : checkouts[κ]? = some c) : c.link < opened
  not_idle {κ n : Nat} (h : checkouts[κ]? = some ⟨n, true⟩) : n ∉ idle
  single {κ κ' n : Nat} (h : checkouts[κ]? = some ⟨n, true⟩)
    (h' : checkouts[κ']? = some ⟨n, true⟩) : κ = κ'

theorem of_getElem?_concat {c c' : Checkout} (h : (checkouts ++ [c])[κ]? = some c') :
    checkouts[κ]? = some c' ∨ κ = checkouts.length ∧ c' = c := by
  rcases Nat.lt_trichotomy κ checkouts.length with hlt | rfl | hgt
  · rw [List.getElem?_append_left hlt] at h
    exact .inl h
  · rw [List.getElem?_concat_length] at h
    exact .inr ⟨rfl, (Option.some.inj h).symm⟩
  · rw [List.getElem?_eq_none (by simpa using Nat.succ_le_of_lt hgt)] at h
    cases h

theorem getElem?_concat_of_eq_some {c c' : Checkout} (h : checkouts[κ]? = some c') :
    (checkouts ++ [c])[κ]? = some c' := by
  rw [List.getElem?_append_left (List.getElem?_eq_some_iff.mp h).1, h]

/-- What is out after a checkout has ended was out before, and is another one. -/
theorem of_getElem?_set {κ' n' : Nat}
    (h : (checkouts.set κ ⟨n, false⟩)[κ']? = some ⟨n', true⟩) :
    κ' ≠ κ ∧ checkouts[κ']? = some ⟨n', true⟩ := by
  by_cases hκ : κ = κ'
  · subst hκ
    rw [List.getElem?_set_self'] at h
    rcases hc : checkouts[κ]? with _ | c <;> rw [hc] at h <;> cases h
  · rw [List.getElem?_set_ne hκ] at h
    exact ⟨Ne.symm hκ, h⟩

theorem link_of_getElem?_set {κ' : Nat} {c : Checkout} (hκ : checkouts[κ]? = some ⟨n, true⟩)
    (h : (checkouts.set κ ⟨n, false⟩)[κ']? = some c) :
    ∃ c', checkouts[κ']? = some c' ∧ c'.link = c.link := by
  by_cases hne : κ = κ'
  · subst hne
    rw [List.getElem?_set_self', hκ] at h
    cases h
    exact ⟨_, hκ, rfl⟩
  · rw [List.getElem?_set_ne hne] at h
    exact ⟨c, h, rfl⟩

theorem exists_getElem?_set {κ' n' : Nat} {out : Bool} (hκ : checkouts[κ]? = some ⟨n, true⟩)
    (h : checkouts[κ']? = some ⟨n', out⟩) :
    ∃ out, (checkouts.set κ ⟨n, false⟩)[κ']? = some ⟨n', out⟩ := by
  by_cases hne : κ = κ'
  · subst hne
    rw [hκ] at h
    cases h
    exact ⟨false, by rw [List.getElem?_set_self', hκ]; rfl⟩
  · exact ⟨out, by rwa [List.getElem?_set_ne hne]⟩

namespace Placed

theorem sublist (h : Placed idle opened checkouts) (hs : idle'.Sublist idle) :
    Placed idle' opened checkouts where
  nodup := h.nodup.sublist hs
  idle_opened hn := h.idle_opened (hs.subset hn)
  opened := h.opened
  not_idle hκ hn := h.not_idle hκ (hs.subset hn)
  single := h.single

theorem opening (h : Placed idle opened checkouts) : Placed idle (opened + 1) checkouts where
  nodup := h.nodup
  idle_opened hn := Nat.lt_succ_of_lt (h.idle_opened hn)
  opened hc := Nat.lt_succ_of_lt (h.opened hc)
  not_idle := h.not_idle
  single := h.single

theorem handOut (h : Placed idle opened checkouts) (hidle : n ∉ idle) (ho : n < opened)
    (hfree : ∀ κ : Nat, checkouts[κ]? ≠ some (Checkout.mk n true)) :
    Placed idle opened (checkouts ++ [⟨n, true⟩]) where
  nodup := h.nodup
  idle_opened := h.idle_opened
  opened hc := by
    rcases of_getElem?_concat hc with hc | ⟨-, rfl⟩
    · exact h.opened hc
    · exact ho
  not_idle hκ := by
    rcases of_getElem?_concat hκ with hκ | ⟨-, hc⟩
    · exact h.not_idle hκ
    · cases hc
      exact hidle
  single hκ hκ' := by
    rcases of_getElem?_concat hκ with hκ | ⟨rfl, hc⟩ <;>
      rcases of_getElem?_concat hκ' with hκ' | ⟨rfl, hc'⟩
    · exact h.single hκ hκ'
    · cases hc'
      exact absurd hκ (hfree _)
    · cases hc
      exact absurd hκ' (hfree _)
    · rfl

theorem giveBack (h : Placed idle opened checkouts) (hκ : checkouts[κ]? = some ⟨n, true⟩) :
    Placed (idle ++ [n]) opened (checkouts.set κ ⟨n, false⟩) where
  nodup := by
    rw [← List.concat_eq_append, List.nodup_concat]
    exact ⟨h.not_idle hκ, h.nodup⟩
  idle_opened hn := by
    rcases List.mem_append.mp hn with hn | hn
    · exact h.idle_opened hn
    · rw [List.mem_singleton.mp hn]
      exact h.opened hκ
  opened hc := by
    obtain ⟨c', hc', hlink⟩ := link_of_getElem?_set hκ hc
    rw [← hlink]
    exact h.opened hc'
  not_idle hκ' hn := by
    obtain ⟨hne, hκ'⟩ := of_getElem?_set hκ'
    rcases List.mem_append.mp hn with hn | hn
    · exact h.not_idle hκ' hn
    · rw [List.mem_singleton.mp hn] at hκ'
      exact hne (h.single hκ' hκ)
  single hκ' hκ'' := h.single (of_getElem?_set hκ').2 (of_getElem?_set hκ'').2

end Placed

/-- The invariant of traffic. -/
structure Orderly (u : Traffic) : Prop where
  placed : Placed u.pool.idle u.pool.world.opened u.checkouts
  attributed (n : Nat) : (u.link n).Attributed (u.sender n)
  reserved {κ n : Nat} (h : u.Has κ n) : Backend.Reserved κ (u.link n) (u.sender n)
  made {κ n i : Nat} (h : u.sender n i = some κ) : ∃ out, u.checkouts[κ]? = some ⟨n, out⟩
  unopened {n : Nat} (h : u.pool.world.opened ≤ n) : (u.link n).done = []

theorem orderly_start (fates : Nat → Nat → Fate) (maxSize : Nat) :
    Orderly (start fates maxSize) where
  placed := ⟨.nil, nofun, nofun, nofun, nofun⟩
  attributed n := Backend.attributed_fresh (fates n)
  reserved := nofun
  made := nofun
  unopened _ := rfl

namespace Orderly

theorem recycled (h : Orderly u) (hidle : u.pool.idle = n :: idle) :
    Orderly { u with pool := Traffic.recycled n idle u.pool } := by
  have hself : (Traffic.recycled n idle u.pool).world.links n =
      ((u.link n).request (.batch "ROLLBACK")).2 := Cluster.request_links_self ..
  have hother {n' : Nat} (hn : n' ≠ n) :
      (Traffic.recycled n idle u.pool).world.links n' = u.link n' :=
    Cluster.request_links_of_ne hn ..
  have hmem : n ∈ u.pool.idle := by simp [hidle]
  refine ⟨h.placed.sublist ?_, fun n' => ?_, fun {κ n'} hκ => ?_, h.made, fun {n'} hn' => ?_⟩
  · rw [hidle]
    exact List.sublist_cons_self n idle
  · by_cases hn : n' = n
    · subst hn
      rw [link, hself]
      exact (h.attributed n').rolledBack (Backend.request_handled _ _)
    · rw [link, hother hn]
      exact h.attributed n'
  · have hn : n' ≠ n := by
      rintro rfl
      exact h.placed.not_idle hκ hmem
    rw [link, hother hn]
    exact h.reserved hκ
  · have hlt : n < u.pool.world.opened := h.placed.idle_opened hmem
    have hle : u.pool.world.opened ≤ n' := hn'
    rw [link, hother (by omega)]
    exact h.unopened hle

theorem handOut {p : Pool Cluster} (h : Orderly { u with pool := p }) (hidle : n ∉ p.idle)
    (ho : n < p.world.opened) (hfree : ∀ κ, ¬ u.Has κ n)
    (hr : Backend.Reserved u.checkouts.length (p.world.links n) (u.sender n)) :
    Orderly (u.handOut n p) where
  placed := h.placed.handOut hidle ho hfree
  attributed := h.attributed
  reserved hκ := by
    rcases of_getElem?_concat hκ with hκ | ⟨rfl, hc⟩
    · exact h.reserved hκ
    · cases hc
      exact hr
  made hs := by
    obtain ⟨out, hc⟩ := h.made hs
    exact ⟨out, getElem?_concat_of_eq_some hc⟩
  unopened := h.unopened

theorem not_made (h : Orderly u) (i : Nat) : u.sender n i ≠ some u.checkouts.length := by
  intro hs
  obtain ⟨out, hc⟩ := h.made hs
  simp at hc

theorem reused {q : Nat × Rows} (h : Orderly u) (hidle : u.pool.idle = n :: idle)
    (hr : ((u.link n).request (.batch "ROLLBACK")).1 = .ok q) :
    Orderly (u.handOut n (Traffic.recycled n idle u.pool)) := by
  have hmem : n ∈ u.pool.idle := by simp [hidle]
  have hnodup : (n :: idle).Nodup := hidle ▸ h.placed.nodup
  have hh := Backend.request_handled (.batch "ROLLBACK") (u.link n)
  rw [hr] at hh
  refine (h.recycled hidle).handOut (List.nodup_cons.mp hnodup).1 (h.placed.idle_opened hmem)
    (fun κ hκ => h.placed.not_idle hκ hmem) ?_
  rw [Traffic.recycled, Cluster.request_links_self]
  exact Backend.reserved_of_rolledBack h.not_made hh

theorem connected (h : Orderly u) :
    Orderly (u.handOut u.pool.world.opened { u.pool with world := u.pool.world.opening }) := by
  have hopening : Orderly { u with pool := { u.pool with world := u.pool.world.opening } } :=
    ⟨h.placed.opening, h.attributed, h.reserved, h.made,
      fun hn => h.unopened (Nat.le_of_succ_le hn)⟩
  refine hopening.handOut (fun hn => Nat.lt_irrefl _ (h.placed.idle_opened hn)) (Nat.lt_succ_self _)
    (fun κ hκ => Nat.lt_irrefl _ (h.placed.opened hκ)) ?_
  refine ⟨fun hj => ?_, fun hi => absurd hi (h.not_made _)⟩
  have hdone : (u.link u.pool.world.opened).done = [] := h.unopened (Nat.le_refl _)
  rw [link] at hdone
  simp [Cluster.opening, hdone, Database.opener] at hj

theorem sent (h : Orderly u) (hκ : u.Has κ n) (m : Message) : Orderly (u.send κ n m) := by
  have hh := Backend.request_handled m (u.link n)
  have hself : (u.send κ n m).link n = ((u.link n).request m).2 := Cluster.request_links_self ..
  have hsender : (u.send κ n m).sender n =
      Function.update (u.sender n) (u.link n).requests (some κ) := Function.update_self ..
  have hother {n' : Nat} (hn : n' ≠ n) :
      (u.send κ n m).link n' = u.link n' ∧ (u.send κ n m).sender n' = u.sender n' :=
    ⟨Cluster.request_links_of_ne hn .., Function.update_of_ne hn ..⟩
  refine ⟨h.placed, fun n' => ?_, fun {κ' n'} hκ' => ?_, fun {κ' n' i} hs => ?_, fun {n'} hn' => ?_⟩
  · by_cases hn : n' = n
    · subst hn
      rw [hself, hsender]
      exact (h.attributed n').sending (h.reserved hκ) hh
    · rw [(hother hn).1, (hother hn).2]
      exact h.attributed n'
  · by_cases hn : n' = n
    · subst hn
      obtain rfl := h.placed.single hκ' hκ
      rw [hself, hsender]
      exact (h.reserved hκ).sending (h.attributed n') hh
    · rw [(hother hn).1, (hother hn).2]
      exact h.reserved hκ'
  · by_cases hn : n' = n
    · subst hn
      rw [hsender] at hs
      rcases (h.attributed n').of_update hs with ⟨-, rfl⟩ | ⟨-, hs⟩
      · exact ⟨true, hκ⟩
      · exact h.made hs
    · rw [(hother hn).2] at hs
      exact h.made hs
  · have hlt : n < u.pool.world.opened := h.placed.opened hκ
    have hle : u.pool.world.opened ≤ n' := hn'
    rw [(hother (by omega)).1]
    exact h.unopened hle

theorem gaveBack (h : Orderly u) (hκ : u.Has κ n) :
    Orderly ⟨u.pool.giveBack n, u.checkouts.set κ ⟨n, false⟩, u.sender⟩ := by
  have hworld : (u.pool.giveBack n).world = u.pool.world := by
    rw [Pool.giveBack]
    split <;> rfl
  have hidle : (u.pool.giveBack n).idle.Sublist (u.pool.idle ++ [n]) := by
    rw [Pool.giveBack]
    split
    · exact List.sublist_append_left ..
    · exact .refl _
  have hlink (n' : Nat) :
      link ⟨u.pool.giveBack n, u.checkouts.set κ ⟨n, false⟩, u.sender⟩ n' = u.link n' := by
    rw [link, hworld, link]
  refine ⟨?_, fun n' => ?_, fun {κ' n'} hκ' => ?_, fun {κ' n' i} hs => ?_, fun {n'} hn' => ?_⟩
  · rw [hworld]
    exact (h.placed.giveBack hκ).sublist hidle
  · rw [hlink]
    exact h.attributed n'
  · rw [hlink]
    exact h.reserved (of_getElem?_set hκ').2
  · obtain ⟨out, hc⟩ := h.made hs
    exact exists_getElem?_set hκ hc
  · rw [hlink]
    rw [hworld] at hn'
    exact h.unopened hn'

theorem step (h : Orderly u) (hs : Step κ u u') : Orderly u' := by
  cases hs with
  | @discarded n idle hidle =>
    have hsublist : idle.Sublist u.pool.idle := by
      rw [hidle]
      exact List.sublist_cons_self n idle
    exact ⟨h.placed.sublist hsublist, h.attributed, h.reserved, h.made, h.unopened⟩
  | spoiled hidle => exact h.recycled hidle
  | reused hidle hr => exact h.reused hidle hr
  | refused => exact ⟨h.placed, h.attributed, h.reserved, h.made, h.unopened⟩
  | connected => exact h.connected
  | sent hκ => exact h.sent hκ _
  | gaveBack hκ => exact h.gaveBack hκ
  | closed =>
    exact ⟨h.placed.sublist (List.nil_sublist _), h.attributed, h.reserved, h.made, h.unopened⟩
  | noted => exact ⟨h.placed, h.attributed, h.reserved, h.made, h.unopened⟩

/-- While a checkout has a link, the steps of the others leave the link as it is. -/
theorem untouched {κ' : Nat} (h : Orderly u) (hκ : u.Has κ n) (hne : κ' ≠ κ)
    (hs : Step κ' u u') : u'.Has κ n ∧ u'.link n = u.link n := by
  have hrecycled {n' : Nat} {idle : List Nat} (hidle : u.pool.idle = n' :: idle) :
      (Traffic.recycled n' idle u.pool).world.links n = u.link n := by
    refine Cluster.request_links_of_ne ?_ ..
    rintro rfl
    exact h.placed.not_idle hκ (by simp [hidle])
  cases hs with
  | discarded | refused | closed | noted => exact ⟨hκ, rfl⟩
  | spoiled hidle => exact ⟨hκ, hrecycled hidle⟩
  | reused hidle => exact ⟨getElem?_concat_of_eq_some hκ, hrecycled hidle⟩
  | connected => exact ⟨getElem?_concat_of_eq_some hκ, rfl⟩
  | @sent n' m hκ' =>
    refine ⟨hκ, Cluster.request_links_of_ne ?_ ..⟩
    rintro rfl
    exact hne (h.placed.single hκ' hκ)
  | @gaveBack n' hκ' =>
    have hlink : (u.pool.giveBack n').world.links n = u.link n := by
      rw [Pool.giveBack]
      split <;> rfl
    refine ⟨?_, hlink⟩
    rw [Has, List.getElem?_set_ne hne]
    exact hκ

end Orderly

/-- What the steps of checkouts, in any order, can lead to. The links are opened one after another,
and every request on each of them meets its fate. -/
inductive Reached (fates : Nat → Nat → Fate) (maxSize : Nat) : Traffic → Prop
  | start : Reached fates maxSize (start fates maxSize)
  | step {κ : Nat} {u u' : Traffic} (h : Reached fates maxSize u) (hs : Step κ u u') :
      Reached fates maxSize u'

structure Isolated (u : Traffic) : Prop where
  /-- What a checkout has sent was carried out in a transaction that it had opened itself, or in
  none. -/
  own_block {n κ : Nat} {later earlier : List (Nat × Message)} {p : Nat × Message}
    (hdone : (u.link n).done = later ++ p :: earlier) (h : u.sender n p.1 = some κ)
    (hopen : (Database.replay earlier).block.isSome) :
    ∃ j, Database.opener earlier = some j ∧ u.sender n j = some κ
  /-- The pool itself sends nothing but rollbacks. -/
  unsent {n : Nat} {p : Nat × Message} (hp : p ∈ (u.link n).done) (h : u.sender n p.1 = none) :
    p.2 = .batch "ROLLBACK"
  one_link {κ n i : Nat} (h : u.sender n i = some κ) : ∃ out, u.checkouts[κ]? = some ⟨n, out⟩
  /-- Between two requests of a checkout there are none of others. -/
  unshared {κ n i j k : Nat} (hi : u.sender n i = some κ) (hk : u.sender n k = some κ)
    (hij : i ≤ j) (hjk : j ≤ k) : u.sender n j = some κ
  /-- A checkout keeps its link whatever others do, and none of them uses it. -/
  untouched {κ κ' n : Nat} {u' : Traffic} (h : u.Has κ n) (hne : κ' ≠ κ) (hs : Step κ' u u') :
    u'.Has κ n ∧ u'.link n = u.link n

variable {fates : Nat → Nat → Fate} {maxSize : Nat}

theorem Reached.orderly (h : Reached fates maxSize u) : Orderly u := by
  induction h with
  | start => exact orderly_start fates maxSize
  | step h hs ih => exact ih.step hs

/-- In every order in which checkouts come, send and go, whatever is lost or not answered on the
way, each of them has a link to itself and no part in the transactions of others. The steps are all
that is done with a pool, its transactions and their savepoints included. -/
theorem Reached.isolated (h : Reached fates maxSize u) :
    u.Isolated ∧ ∀ refusal closed, Covers (Cluster.dock refusal closed) u := by
  have horderly := h.orderly
  refine ⟨⟨?_, ?_, horderly.made, ?_, horderly.untouched⟩, fun refusal closed =>
    covers refusal closed u⟩
  · intro n κ later earlier p hdone hs hopen
    obtain ⟨j, hj⟩ := Database.opener_of_isSome hopen
    exact ⟨j, hj, (horderly.attributed n).own hdone hs hj⟩
  · intro n p hp hs
    exact (horderly.attributed n).unsent hp hs
  · intro κ n i j k hi hk hij hjk
    exact (horderly.attributed n).unshared hi hk hij hjk

/-- A `BEGIN` is carried out without an answer, and its link is given back. The next checkout gets
the same link, and works outside any transaction. -/
theorem unanswered_begin_not_inherited :
    ∃ (fates : Nat → Nat → Fate) (u : Traffic) (begun : Nat × Message) (sql : String),
      Reached fates 1 u ∧
        (u.link 0).done = [(2, .statement sql []), (1, .batch "ROLLBACK"), begun] ∧
        u.sender 0 0 = some 0 ∧ u.sender 0 2 = some 1 ∧
        (Database.replay [begun]).block.isSome ∧ u.Isolated := by
  let fates (_ : Nat) := Backend.servedBut 0 (.unanswered (.timeout (.ofMillis 50)))
  let begun := Message.batch TransactionOptions.default.beginSql
  let insert := Message.statement "INSERT INTO t VALUES (1)" []
  let u₀ := start fates 1
  let u₁ := u₀.handOut 0 { u₀.pool with world := u₀.pool.world.opening }
  let u₂ := u₁.send 0 0 begun
  let u₃ : Traffic := ⟨u₂.pool.giveBack 0, u₂.checkouts.set 0 ⟨0, false⟩, u₂.sender⟩
  let u₄ := u₃.handOut 0 (recycled 0 [] u₃.pool)
  let u₅ := u₄.send 1 0 insert
  have hrolledBack : ((u₃.link 0).request (.batch "ROLLBACK")).1 = .ok (1, .empty) := rfl
  have h₁ : Reached fates 1 u₁ := Reached.start.step (.connected rfl)
  have h₂ : Reached fates 1 u₂ := h₁.step (Step.sent rfl)
  have h₃ : Reached fates 1 u₃ := h₂.step (Step.gaveBack rfl)
  have h₄ : Reached fates 1 u₄ := h₃.step (.reused rfl hrolledBack rfl)
  have h₅ : Reached fates 1 u₅ := h₄.step (Step.sent rfl)
  exact ⟨fates, u₅, (0, begun), _, h₅, rfl, rfl, rfl, rfl, h₅.isolated.1⟩

end Traffic

end BoundSql
