import Scorebook.Proofs.Arsenal
/-!
# Which blindings find their flash

When blindings belong to the flash of the same thrower at the same tick, a flash that has detonated once is the only
one of its thrower at its tick, and no blinding waits for it: a second detonation at that tick is not taken for another
flash, and an explosion lets in whoever waited (`Correlated`).  A flash that is told to detonate again at another tick
moves there unchecked and lets nobody in, so that all of this is said of the flashes that have not moved in the round.
-/
namespace Scorebook

namespace MatchState

/-- An event makes a flash that has detonated detonate again, at another tick. -/
def Moves (s : MatchState) (e : TimedEvent) (entity : EntityId) : Prop :=
  s.round.isOpen = true ∧ ∃ n effect, e.event = .flashExplode n ∧ n.thrower.isSome = true ∧ n.entity = entity ∧
    s.tables.flashes.get? entity = some effect ∧ effect.tick ≠ e.tick

/-- **Flashes and blindings that wait, with the flashes that have moved left out.** -/
structure Correlated (moved : EntityId → Prop) (s : MatchState) : Prop where
  current : ∀ {entity : EntityId} {x : FlashEffect}, s.tables.flashes.get? entity = some x → x.round = s.round.number
  noted : ∀ {entity : EntityId} {x : FlashEffect}, s.tables.flashes.get? entity = some x → ¬ moved entity →
    s.tables.detonations.contains (x.thrower, x.tick) = true
  apart : ∀ {a b : EntityId} {x y : FlashEffect}, s.tables.flashes.get? a = some x →
    s.tables.flashes.get? b = some y → ¬ moved a → ¬ moved b → x.thrower = y.thrower → x.tick = y.tick → a = b
  waiting : ∀ {w : PendingBlinding}, w ∈ s.tables.pendingBlindings → w.round = s.round.number ∧
    ∀ {entity : EntityId} {x : FlashEffect}, s.tables.flashes.get? entity = some x → ¬ moved entity →
      ¬ (x.thrower = w.thrower ∧ x.tick = w.tick)

namespace Correlated

variable {s s' : MatchState} {moved moved' : EntityId → Prop}

theorem of_empty (hf : s.tables.flashes = ∅) (hw : s.tables.pendingBlindings = []) : Correlated moved s := by
  refine ⟨fun hx => ?_, fun hx => ?_, fun hx => ?_, fun hmem => ?_⟩
  · rw [hf] at hx
    cases hx
  · rw [hf] at hx
    cases hx
  · rw [hf] at hx
    cases hx
  · rw [hw] at hmem
    cases hmem

/-- Flashes that keep their thrower, and their tick unless they move, and fewer that wait. -/
theorem frame (h : Correlated moved s) (hm : ∀ entity, moved entity → moved' entity)
    (hf : ∀ {entity x}, s'.tables.flashes.get? entity = some x → ∃ y, s.tables.flashes.get? entity = some y ∧
      x.round = y.round ∧ x.thrower = y.thrower ∧ (x.tick = y.tick ∨ moved' entity))
    (hn : s'.round.number = s.round.number)
    (hd : ∀ key, s.tables.detonations.contains key = true → s'.tables.detonations.contains key = true)
    (hw : ∀ w ∈ s'.tables.pendingBlindings, w ∈ s.tables.pendingBlindings) : Correlated moved' s' := by
  have still {entity : EntityId} {x : FlashEffect} (hx : s'.tables.flashes.get? entity = some x)
      (hstill : ¬ moved' entity) : ∃ y, s.tables.flashes.get? entity = some y ∧ ¬ moved entity ∧
        x.thrower = y.thrower ∧ x.tick = y.tick := by
    obtain ⟨y, hy, -, hthrower, htick⟩ := hf hx
    exact ⟨y, hy, fun hmoved => hstill (hm entity hmoved), hthrower, htick.resolve_right hstill⟩
  refine ⟨fun hx => ?_, fun hx hstill => ?_, fun hx hy ha hb hthrower htick => ?_, fun hmem => ⟨?_, fun hx hstill => ?_⟩⟩
  · obtain ⟨y, hy, hround, -⟩ := hf hx
    rw [hround, hn]
    exact h.current hy
  · obtain ⟨y, hy, hy', hthrower, htick⟩ := still hx hstill
    rw [hthrower, htick]
    exact hd _ (h.noted hy hy')
  · obtain ⟨x', hx', hxm, hxt, hxtick⟩ := still hx ha
    obtain ⟨y', hy', hym, hyt, hytick⟩ := still hy hb
    exact h.apart hx' hy' hxm hym (hxt.symm.trans (hthrower.trans hyt)) (hxtick.symm.trans (htick.trans hytick))
  · rw [hn]
    exact (h.waiting (hw _ hmem)).1
  · obtain ⟨y, hy, hy', hthrower, htick⟩ := still hx hstill
    rw [hthrower, htick]
    exact (h.waiting (hw _ hmem)).2 hy hy'

/-- What leaves the flashes and those who wait for them alone. -/
theorem same (h : Correlated moved s) (hm : ∀ entity, moved entity → moved' entity)
    (hf : s'.tables.flashes = s.tables.flashes) (hn : s'.round.number = s.round.number)
    (hd : ∀ key, s.tables.detonations.contains key = true → s'.tables.detonations.contains key = true)
    (hw : s'.tables.pendingBlindings = s.tables.pendingBlindings) : Correlated moved' s' :=
  h.frame hm (fun hx => ⟨_, hf ▸ hx, rfl, rfl, .inl rfl⟩) hn hd (fun _ hmem => hw ▸ hmem)

theorem calm (h : Correlated moved s) (hm : ∀ entity, moved entity → moved' entity) (hc : Calm s s') :
    Correlated moved' s' :=
  h.same hm (by rw [hc.tables]) hc.number (fun key hkey => by rwa [hc.tables]) (by rw [hc.tables])

theorem contains_noteThrower (s : MatchState) (n : ProjectileNotice) (tick : Tick) (key : PlayerId × Tick)
    (h : s.tables.detonations.contains key = true) :
    (s.noteThrower n tick).tables.detonations.contains key = true := by
  unfold noteThrower
  split
  · exact h
  · obtain ⟨u, hu⟩ := Table.contains_iff.1 h
    refine Table.contains_iff.2 ⟨u, ?_⟩
    exact (Table.get?_insert _ _ _ _).trans (by split <;> first | rfl | exact hu)

/-! ## One event -/

/-- **A flash that detonates for the first time is the only one of its thrower at its tick, and nobody waits for it.** -/
theorem exploded (h : Correlated moved s) {n : ProjectileNotice} {thrower : PlayerId} {tick : Tick}
    (hd : s.tables.detonations.contains (thrower, tick) = false) :
    Correlated moved (s.exploded .exact n thrower tick) := by
  have hget := get?_flashes_exploded s .exact n thrower tick
  have hkeys (key : PlayerId × Tick) : (s.exploded .exact n thrower tick).tables.detonations.get? key =
      if (thrower, tick) = key then some () else s.tables.detonations.get? key := Table.get?_insert _ _ _ _
  have hfirst {entity : EntityId} {x : FlashEffect} (hx : s.tables.flashes.get? entity = some x)
      (hstill : ¬ moved entity) : ¬ (x.thrower = thrower ∧ x.tick = tick) := by
    rintro ⟨hthrower, htick⟩
    have hnoted := h.noted hx hstill
    rw [hthrower, htick, hd] at hnoted
    cases hnoted
  refine ⟨fun hx => ?_, fun hx hstill => ?_, fun hx hy ha hb hthrower htick => ?_, fun {w} hmem => ?_⟩
  · rw [hget] at hx
    split at hx
    · cases hx
      exact round_burstOf s .exact n thrower tick
    · exact h.current hx
  · rw [hget] at hx
    rw [Table.contains, hkeys]
    split at hx
    · cases hx
      simp
    · split
      · rfl
      · exact h.noted hx hstill
  · rw [hget] at hx hy
    split at hx <;> split at hy
    · next hna hnb => exact hna.symm.trans hnb
    · cases hx
      rw [thrower_burstOf] at hthrower
      rw [tick_burstOf] at htick
      exact absurd ⟨hthrower.symm, htick.symm⟩ (hfirst hy hb)
    · cases hy
      rw [thrower_burstOf] at hthrower
      rw [tick_burstOf] at htick
      exact absurd ⟨hthrower, htick⟩ (hfirst hx ha)
    · exact h.apart hx hy ha hb hthrower htick
  · obtain ⟨hmem, hleft⟩ := List.mem_filter.1 hmem
    obtain ⟨hround, hother⟩ := h.waiting hmem
    refine ⟨hround, fun hx hstill => ?_⟩
    rw [hget] at hx
    split at hx
    · cases hx
      rw [thrower_burstOf, tick_burstOf]
      rintro ⟨hthrower, htick⟩
      -- whoever waits for this flash was let in
      have hin : awaits w s.round.number .exact thrower tick = true := by
        simp [awaits, FlashMatching.allows, hround, hthrower, htick]
      have hleft : (!awaits w s.round.number .exact thrower tick) = true := hleft
      rw [hin] at hleft
      cases hleft
    · exact hother hx hstill

/-- A flash to which no blinding of a thrower at a tick belongs. -/
theorem of_flashOf?_none {m : FlashMatching} {thrower : PlayerId} {tick : Tick}
    (h : s.flashOf? m thrower tick = none) {entity : EntityId} {x : FlashEffect}
    (hx : s.tables.flashes.get? entity = some x) : accepts x s.round.number m thrower tick = false := by
  have hnone : nearestTo? tick (·.tick) (s.tables.flashes.values.filter (accepts · s.round.number m thrower tick)) =
      none := Option.map_eq_none_iff.1 h
  have hnil : s.tables.flashes.values.filter (accepts · s.round.number m thrower tick) = [] := by
    cases hl : s.tables.flashes.values.filter (accepts · s.round.number m thrower tick) with
    | nil => rfl
    | cons e rest =>
      rw [hl] at hnone
      cases hnone
  exact Bool.eq_false_iff.2 (List.filter_eq_nil_iff.1 hnil x (Table.mem_values_iff.2 ⟨entity, hx⟩))

/-- **A blinding finds its flash, or waits for one that there is not yet.** -/
theorem placeBlinding (hk : Keyed s) (h : Correlated moved s) (player thrower : PlayerId) (tick : Tick)
    (duration : Float) : Correlated moved (s.placeBlinding .exact player thrower tick duration) := by
  obtain ⟨hround, hdetonations⟩ := placeBlinding_frame s .exact player thrower tick duration
  cases hflash : s.flashOf? .exact thrower tick with
  | some entity =>
    have hw : (s.placeBlinding .exact player thrower tick duration).tables.pendingBlindings =
        s.tables.pendingBlindings := by
      obtain ⟨_, _, _, hs, -⟩ := attachBlinding_frame s entity player duration
      unfold MatchState.placeBlinding
      simp only [hflash, hs]
    refine h.frame (fun _ hm => hm) (fun {k x} hx => ?_) (by rw [hround]) (fun key hkey => hdetonations ▸ hkey)
      (fun _ hmem => hw ▸ hmem)
    have hsame := map_get?_placeBlinding (g := fun e => (e.round, e.thrower, e.tick)) hk (fun _ _ => rfl) .exact player
      thrower tick duration k
    rw [hx] at hsame
    obtain ⟨y, hy, heq⟩ := Option.map_eq_some_iff.1 hsame.symm
    simp only [Prod.mk.injEq] at heq
    exact ⟨y, hy, heq.1.symm, heq.2.1.symm, .inl heq.2.2.symm⟩
  | none =>
    unfold MatchState.placeBlinding
    rw [hflash]
    refine ⟨h.current, h.noted, h.apart, fun hmem => ?_⟩
    rcases List.mem_append.1 hmem with hmem | hmem
    · exact h.waiting hmem
    · rw [List.mem_singleton.1 hmem]
      refine ⟨rfl, fun hx _ hsame => ?_⟩
      have haccepts := of_flashOf?_none hflash hx
      rw [accepts_exact_iff.2 ⟨h.current hx, hsame⟩] at haccepts
      cases haccepts

/-- **Whatever an event does to grenades, the flashes that have not moved are told apart and waited for by nobody.** -/
theorem arming {c : Config} {e : TimedEvent} (hmatch : c.flashMatching = .exact) (hk : Keyed s) (hu : Unarmed s)
    (h : Correlated moved s) (hm : e.event.continues = true → ∀ entity, moved entity → moved' entity)
    (hmoves : ∀ entity, s.Moves e entity → moved' entity) (ha : Arming c s e.tick e.event s') :
    Correlated moved' s' := by
  obtain ⟨tick, event⟩ := e
  cases ha with
  | spared hc _ hcalm => exact h.calm (hm hc) hcalm
  | restarted => exact .of_empty (by rw [hu.restart.1]) (by rw [hu.restart.1])
  | begun => exact .of_empty rfl rfl
  | @fired _ a kind _ _ he hcalm =>
    have hfired : Correlated moved (s.recordGrenadeFire a kind tick) :=
      h.same (fun _ hx => hx) rfl rfl (fun _ hkey => hkey) rfl
    exact hfired.calm (hm (Event.continues_of_fire he)) hcalm
  | thrown _ he => exact h.same (hm (Event.continues_of_throw he)) rfl rfl (fun _ hkey => hkey) rfl
  | @unseen _ n _ he =>
    have hkeys := contains_noteThrower s n tick
    rw [noteThrower_eq] at hkeys ⊢
    exact h.same (hm (Event.of_detonation he).1) rfl rfl hkeys rfl
  | @detonated _ n _ _ he =>
    have hkeys := contains_noteThrower s n tick
    unfold recordGrenade
    rw [noteThrower_eq] at hkeys ⊢
    exact h.same (hm (Event.of_detonation he).1) rfl rfl hkeys rfl
  | @moved n thrower effect ho hn he =>
    have htables : (s.moveFlash effect tick n.position).tables =
        { s.tables with
          flashes := s.tables.flashes.insert effect.entity { effect with tick, position := n.position } } :=
      tables_modifyGrenade _ _ _
    have hround : (s.moveFlash effect tick n.position).round = s.round := by
      obtain ⟨_, _, _, _, hs, -⟩ := flashWork_moveFlash s effect tick n.position
      rw [hs]
    refine h.frame (hm rfl) (fun {entity x} hx => ?_) (by rw [hround]) (by rw [htables]; exact fun _ hkey => hkey)
      (by rw [htables]; exact fun _ hmem => hmem)
    rw [htables] at hx
    have hx := (Table.get?_insert _ _ _ _).symm.trans hx
    split at hx
    · next hentity =>
      cases hx
      have hown : n.entity = entity := (hk.own he).symm.trans hentity
      refine ⟨effect, hown ▸ he, rfl, rfl, ?_⟩
      by_cases htick : tick = effect.tick
      · exact .inl htick
      · refine .inr (hmoves entity ⟨ho, n, effect, rfl, by rw [hn]; rfl, hown, hown ▸ he, fun heq => htick heq.symm⟩)
    · exact ⟨x, hx, rfl, rfl, .inl rfl⟩
  | exploded ho hn he hd =>
    rw [hmatch]
    exact (h.exploded hd).same (hm rfl) rfl rfl (fun _ hkey => hkey) rfl
  | @blinded n player thrower =>
    have hb : Correlated moved (s.noteBlinded player.id) := h.same (fun _ hx => hx) rfl rfl (fun _ hkey => hkey) rfl
    have hkb : Keyed (s.noteBlinded player.id) := hk.mono rfl
    rw [hmatch]
    exact (hb.placeBlinding hkb player.id thrower.id tick _).same (hm rfl) rfl rfl (fun _ hkey => hkey) rfl

end Correlated

/-! ## Looking a flash up -/

theorem map_entity_values (hk : Keyed s) : s.tables.flashes.values.map (·.entity) = s.tables.flashes.keys := by
  unfold Table.values Table.keys
  rw [List.map_map]
  exact List.map_congr_left (fun e he => hk.own (Table.mem_entries_iff.1 he))

/-- **A thrower's only flash at a tick is found in whatever order the flashes are looked through.** -/
theorem flashOf?_of_perm (hk : Keyed s) {thrower : PlayerId} {tick : Tick}
    (hone : ∀ {a b : EntityId} {x y : FlashEffect}, s.tables.flashes.get? a = some x →
      s.tables.flashes.get? b = some y → x.thrower = thrower ∧ x.tick = tick → y.thrower = thrower ∧ y.tick = tick → a = b)
    {flashes : List FlashEffect} (hp : flashes.Perm s.tables.flashes.values) :
    (nearestTo? tick (·.tick) (flashes.filter (accepts · s.round.number .exact thrower tick))).map (·.entity) =
      s.flashOf? .exact thrower tick := by
  have hperm := hp.filter (accepts · s.round.number .exact thrower tick)
  have hnodup : (s.tables.flashes.values.filter (accepts · s.round.number .exact thrower tick)).Nodup := by
    refine (List.Nodup.of_map (·.entity) ?_).filter _
    rw [map_entity_values hk]
    exact Table.keys_nodup _
  have hsame : ∀ x ∈ s.tables.flashes.values.filter (accepts · s.round.number .exact thrower tick),
      ∀ y ∈ s.tables.flashes.values.filter (accepts · s.round.number .exact thrower tick), x = y := by
    intro x hx y hy
    obtain ⟨hx, hxa⟩ := List.mem_filter.1 hx
    obtain ⟨hy, hya⟩ := List.mem_filter.1 hy
    obtain ⟨a, ha⟩ := Table.mem_values_iff.1 hx
    obtain ⟨b, hb⟩ := Table.mem_values_iff.1 hy
    have hab := hone ha hb (accepts_exact_iff.1 hxa).2 (accepts_exact_iff.1 hya).2
    rw [hab, hb] at ha
    exact (Option.some.inj ha).symm
  -- at most one flash is left to choose from
  have heq : flashes.filter (accepts · s.round.number .exact thrower tick) =
      s.tables.flashes.values.filter (accepts · s.round.number .exact thrower tick) := by
    generalize s.tables.flashes.values.filter (accepts · s.round.number .exact thrower tick) = found at *
    match found with
    | [] => exact hperm.eq_nil
    | [x] => exact hperm.eq_singleton
    | x :: y :: rest =>
      have hxy := hsame x List.mem_cons_self y (List.mem_cons_of_mem _ List.mem_cons_self)
      exact absurd (hxy ▸ List.mem_cons_self) (List.nodup_cons.1 hnodup).1
  rw [heq]
  rfl

end MatchState

namespace Processor

open MatchState

variable {header : Header} {config : Config} {p q : Processor} {events : List TimedEvent}

/-- In the round in progress, a flash was told to detonate again, at another tick. -/
def HasMoved (p : Processor) (events : List TimedEvent) (entity : EntityId) : Prop :=
  Since (fun e => e.continues = true) (fun before e => (p.after before).state.Moves e entity) events

namespace Fresh

theorem keyed (h : Fresh header config p) (events : List TimedEvent) : (p.after events).state.Keyed :=
  h.keeps_after (Keyed.kept config) (.new header config) events

theorem keyed_of_follows (h : Fresh header config p) (hq : Follows p q) : q.state.Keyed := by
  obtain ⟨events, hr⟩ := h.reaches_of_follows hq
  refine h.holds_of_reaches (fun s hs => ?_) (h.keyed events) hr
  exact hs.mono (by rw [(Calm.closeState s config).tables])

theorem placed_of_follows (h : Fresh header config p) (hq : Follows p q) : q.state.Placed := by
  obtain ⟨events, hr⟩ := h.reaches_of_follows hq
  refine h.holds_of_reaches (fun s hs => hs.closeState config) ?_ hr
  exact h.keeps_after (Placed.kept config) (.new header config) events

theorem correlated (h : Fresh header config p) (hm : config.flashMatching = .exact) (events : List TimedEvent) :
    (p.after events).state.Correlated (p.HasMoved events) := by
  refine h.traces_arming (P := fun events s => s.Correlated (p.HasMoved events)) (.of_empty rfl rfl)
    (fun hc hs => hs.calm (fun _ hx => hx) hc) (fun {events e s'} ha hs => ?_) events
  have hk : Keyed ((p.after events).state.advance e.tick) := (h.keyed events).mono rfl
  have hu : Unarmed ((p.after events).state.advance e.tick) := (h.unarmed events).calm (.advance _ e.tick)
  exact hs.arming hm hk hu (fun hc entity hmoved => hmoved.concat hc)
    (fun entity hmoves => since_concat.2 (.inl hmoves)) ha

theorem roundStart_remarks (h : Fresh header config p) (events : List TimedEvent) (tick : Tick) :
    ((p.after events).processEvent ⟨tick, .roundStart⟩).remarks =
      (p.after events).state.tables.unmatched.map Remark.discardedFlash := by
  have ht := (Calm.settled ((p.after events).state.advance tick) (p.after events).config).tables
  unfold processEvent
  rw [h.after_finalized]
  exact congrArg (fun t : RoundTables => t.unmatched.map Remark.discardedFlash) ht

end Fresh

/-- **Flashes and blindings are told apart, the flashes that have moved excepted.**  When blindings belong to the flash of
the same thrower at the same tick, then in every state of a match, in progress or closed: two flashes of one thrower at
one tick are one, unless one of them was told to detonate again at another tick of the round in progress; a blinding
waits for a flash that is there only if that flash has moved so; and who is looked up among flashes that have not moved
is found in whatever order they are looked through.  What still waits when a round starts is what is remarked on. -/
theorem flashes_correlated (h : Fresh header config p) (hm : config.flashMatching = .exact) (hq : Reaches p events q) :
    (∀ a b x y, q.state.tables.flashes.get? a = some x → q.state.tables.flashes.get? b = some y →
      x.thrower = y.thrower → x.tick = y.tick → a = b ∨ p.HasMoved events a ∨ p.HasMoved events b) ∧
    (∀ w ∈ q.state.tables.pendingBlindings, ∀ a x, q.state.tables.flashes.get? a = some x →
      x.thrower = w.thrower → x.tick = w.tick → p.HasMoved events a) ∧
    (∀ thrower tick,
      (∀ a x, q.state.tables.flashes.get? a = some x → x.thrower = thrower → x.tick = tick → ¬ p.HasMoved events a) →
      ∀ flashes : List FlashEffect, flashes.Perm q.state.tables.flashes.values →
        (nearestTo? tick (·.tick) (flashes.filter (accepts · q.state.round.number .exact thrower tick))).map (·.entity) =
          q.state.flashOf? .exact thrower tick) ∧
    ∀ tick, ((p.after events).processEvent ⟨tick, .roundStart⟩).remarks =
      (p.after events).state.tables.pendingBlindings.map (fun w => Remark.discardedFlash w.fault) := by
  obtain ⟨hk, hc⟩ : q.state.Keyed ∧ q.state.Correlated (p.HasMoved events) := by
    refine h.holds_of_reaches (P := fun s => s.Keyed ∧ s.Correlated (p.HasMoved events)) (fun s hs => ?_)
      ⟨h.keyed events, h.correlated hm events⟩ hq
    have hcalm := Calm.closeState s config
    exact ⟨hs.1.mono (by rw [hcalm.tables]), hs.2.calm (fun _ hx => hx) hcalm⟩
  refine ⟨fun a b x y hx hy hthrower htick => ?_, fun w hw a x hx hthrower htick => ?_,
    fun thrower tick hstill flashes hp => ?_, fun tick => ?_⟩
  · by_cases ha : p.HasMoved events a
    · exact .inr (.inl ha)
    · by_cases hb : p.HasMoved events b
      · exact .inr (.inr hb)
      · exact .inl (hc.apart hx hy ha hb hthrower htick)
  · by_cases ha : p.HasMoved events a
    · exact ha
    · exact absurd ⟨hthrower, htick⟩ ((hc.waiting hw).2 hx ha)
  · refine flashOf?_of_perm hk (fun {a b x y} ha hb hx hy => ?_) hp
    exact hc.apart ha hb (hstill a x ha hx.1 hx.2) (hstill b y hb hy.1 hy.2) (hx.1.trans hy.1.symm)
      (hx.2.trans hy.2.symm)
  · rw [h.roundStart_remarks, RoundTables.unmatched, List.map_map]
    rfl

/-- Two flashes of player 1 at ticks 100 and 104, and then the second is told to detonate at tick 100: there are two at
that tick, and one of them has moved. -/
theorem flashes_correlated_after_move :
    ∃ (events : List TimedEvent) (q : Processor) (x y : FlashEffect),
      events =
        [⟨0, .playerConnect { id := 1, allegiance := .counterTerrorist }⟩, ⟨1, .roundStart⟩,
         ⟨100, .flashExplode { entity := 9, weapon := .flashbang, position := .zero
                               thrower := some { id := 1, allegiance := .counterTerrorist } }⟩,
         ⟨104, .flashExplode { entity := 10, weapon := .flashbang, position := .zero
                               thrower := some { id := 1, allegiance := .counterTerrorist } }⟩,
         ⟨104, .flashExplode { entity := 10, weapon := .flashbang, position := .zero
                               thrower := some { id := 1, allegiance := .counterTerrorist } }⟩,
         ⟨100, .flashExplode { entity := 10, weapon := .flashbang, position := .zero
                               thrower := some { id := 1, allegiance := .counterTerrorist } }⟩] ∧
      q = ({ config := {}, state := MatchState.new { mapName := "de_dust2" } {} } : Processor).after events ∧
      q.state.tables.flashes.get? 9 = some x ∧ q.state.tables.flashes.get? 10 = some y ∧
      (x.thrower, x.tick) = (1, 100) ∧ (y.thrower, y.tick) = (1, 100) ∧
      (HasMoved { config := {}, state := MatchState.new { mapName := "de_dust2" } {} } events 9 ∨
        HasMoved { config := {}, state := MatchState.new { mapName := "de_dust2" } {} } events 10) := by
  have h : Fresh { mapName := "de_dust2" } {} _ := .default rfl
  refine ⟨_, _, _, _, rfl, rfl, (Option.some_get ?_).symm, (Option.some_get ?_).symm, ?_, ?_, ?_⟩
  · decide +kernel
  · decide +kernel
  · decide +kernel
  · decide +kernel
  · refine Or.resolve_left ((flashes_correlated h rfl .running).1 9 10 _ _ (Option.some_get ?_).symm
      (Option.some_get ?_).symm ?_ ?_) (by decide)
    · decide +kernel
    · decide +kernel
    · decide +kernel
    · decide +kernel

end Processor

end Scorebook
