import Mathlib.Data.List.Forall2
import Scorebook.Proofs.Arsenal
/-!
# Where grenade records come from

A grenade is captured when its weapon fires, or else when its projectile appears; it waits in one table and flies in
another before its detonation makes a record of it.  `Traced` relates both tables and the records to the events behind
them, so that every record goes back to a throw of its own, as it was captured then.
-/
namespace Scorebook

namespace Event

/-- Whether an event fires or throws a grenade of a kind of a player. -/
def Arms (e : Event) (id : PlayerId) (kind : GrenadeKind) : Prop :=
  (∃ a, e.fire? = some (a, kind) ∧ a.id = id) ∨ ∃ entity a, e.throw? = some (entity, a, kind) ∧ a.id = id

theorem not_arms {e : Event} (h : e.fire? = none ∧ e.throw? = none) (id : PlayerId) (kind : GrenadeKind) :
    ¬ e.Arms id kind := by
  rintro (⟨a, he, -⟩ | ⟨entity, a, he, -⟩)
  · rw [h.1] at he
    cases he
  · rw [h.2] at he
    cases he

theorem throw?_of_fire {e : Event} {x : Actor × GrenadeKind} (h : e.fire? = some x) : e.throw? = none := by
  cases e <;> first | rfl | cases h

theorem fire?_of_throw {e : Event} {x : EntityId × Actor × GrenadeKind} (h : e.throw? = some x) : e.fire? = none := by
  cases e <;> first | rfl | cases h

theorem arms_of_fire {e : Event} {a : Actor} {kind : GrenadeKind} (h : e.fire? = some (a, kind)) (id : PlayerId)
    (k : GrenadeKind) : e.Arms id k ↔ (a.id, kind) = (id, k) := by
  unfold Arms
  rw [h, throw?_of_fire h]
  simp only [Option.some.injEq, Prod.mk.injEq, reduceCtorEq, false_and, exists_const, or_false]
  constructor
  · rintro ⟨_, ⟨rfl, rfl⟩, rfl⟩
    exact ⟨rfl, rfl⟩
  · rintro ⟨rfl, rfl⟩
    exact ⟨a, ⟨rfl, rfl⟩, rfl⟩

theorem arms_of_throw {e : Event} {entity : EntityId} {a : Actor} {kind : GrenadeKind}
    (h : e.throw? = some (entity, a, kind)) (id : PlayerId) (k : GrenadeKind) :
    e.Arms id k ↔ (a.id, kind) = (id, k) := by
  unfold Arms
  rw [h, fire?_of_throw h]
  simp only [reduceCtorEq, false_and, exists_const, Option.some.injEq, Prod.mk.injEq, false_or]
  constructor
  · rintro ⟨_, _, ⟨-, rfl, rfl⟩, rfl⟩
    exact ⟨rfl, rfl⟩
  · rintro ⟨rfl, rfl⟩
    exact ⟨entity, a, ⟨rfl, rfl, rfl⟩, rfl⟩

theorem ne_matchStart {e : Event} (h : e.continues = true) : e ≠ .matchStart := by
  rintro rfl
  cases h

theorem throw?_eq_some {e : Event} {entity : EntityId} {a : Actor} {kind : GrenadeKind}
    (h : e.throw? = some (entity, a, kind)) :
    ∃ n, e = .projectileThrow n ∧ n.entity = entity ∧ n.thrower = some a ∧ n.weapon.grenadeKind? = some kind := by
  cases e with
  | projectileThrow n =>
    unfold throw? at h
    cases ht : n.thrower with
    | none =>
      simp only [ht] at h
      cases h
    | some thrower =>
      cases hk : n.weapon.grenadeKind? with
      | none =>
        simp only [ht, hk] at h
        cases h
      | some k =>
        simp only [ht, hk] at h
        cases h
        exact ⟨n, rfl, rfl, ht, hk⟩
  | _ => cases h

end Event

/-! ## What becomes a record -/

namespace Burst

theorem origin_blind (b : Burst) (isEnemy : Bool) (player : PlayerId) (duration : Float) :
    (b.blind isEnemy player duration).record.map Grenade.origin = b.record.map Grenade.origin := by
  unfold blind
  split
  · rfl
  · rw [Option.map_map]
    exact congrFun (congrArg Option.map (funext (fun g => MatchState.origin_addBlinding g isEnemy duration))) b.record

theorem origin_blindAll (isEnemy : PlayerId → Bool) : ∀ (waited : List PendingBlinding) (b : Burst),
    (b.blindAll isEnemy waited).record.map Grenade.origin = b.record.map Grenade.origin
  | [], _ => rfl
  | _ :: waited, b => (origin_blindAll isEnemy waited _).trans (origin_blind b _ _ _)

end Burst

namespace MatchState

/-- The records with the one of a throw that flew, if it did. -/
def originsAfter (s : MatchState) (entity : EntityId) : List (EntityId × Throw) :=
  s.grenades.map Grenade.origin ++ ((s.tables.throws.get? entity).map (fun t => (entity, t))).toList

theorem origins_recordGrenade {s : MatchState} {n : ProjectileNotice} {thrown : Throw}
    (h : s.tables.throws.get? n.entity = some thrown) (tick : Tick) :
    (s.recordGrenade n thrown tick).grenades.map Grenade.origin = s.originsAfter n.entity := by
  unfold originsAfter recordGrenade
  rw [h, List.map_append]
  rfl

theorem origin_burstOf (s : MatchState) (m : FlashMatching) (n : ProjectileNotice) (thrower : PlayerId) (tick : Tick) :
    (s.burstOf m n thrower tick).record.map Grenade.origin =
      (s.tables.throws.get? n.entity).map (fun t => (n.entity, t)) := by
  refine (Burst.origin_blindAll _ _ _).trans ?_
  unfold firstBurst
  rw [Option.map_map]
  rfl

theorem origins_exploded (s : MatchState) (m : FlashMatching) (n : ProjectileNotice) (thrower : PlayerId)
    (tick : Tick) : (s.exploded m n thrower tick).grenades.map Grenade.origin = s.originsAfter n.entity := by
  unfold originsAfter
  rw [← origin_burstOf s m n thrower tick, Option.toList_map, ← List.map_append]
  rfl

/-- **The origins of the records stay**, and there may be one more, unless the match starts over. -/
theorem Arming.origins_extend {c : Config} {s s' : MatchState} {tick : Tick} {e : Event} (ha : Arming c s tick e s')
    (hne : e ≠ .matchStart) : s.grenades.map Grenade.origin <+: s'.grenades.map Grenade.origin := by
  have same {t : MatchState} (h : t.grenades.map Grenade.origin = s.grenades.map Grenade.origin) :
      s.grenades.map Grenade.origin <+: t.grenades.map Grenade.origin :=
    ⟨[], (List.append_nil _).trans h.symm⟩
  cases ha with
  | spared _ _ hc => exact same hc.origins
  | restarted => exact absurd rfl hne
  | begun => exact same (Calm.settled s c).origins
  | fired _ _ hc => exact same hc.origins
  | thrown => exact same rfl
  | unseen => exact same (by rw [noteThrower_eq])
  | detonated _ _ ht =>
    rw [origins_recordGrenade ht]
    exact List.prefix_append _ _
  | moved =>
    obtain ⟨_, _, _, _, hs, hg⟩ := flashWork_moveFlash s _ tick _
    rw [hs]
    exact same hg
  | exploded =>
    rw [origins_exploded]
    exact List.prefix_append _ _
  | blinded =>
    obtain ⟨_, _, _, _, hs, hg⟩ := flashWork_placeBlinding (s.noteBlinded _) c.flashMatching _ _ tick _
    rw [hs]
    exact same hg

end MatchState

/-! ## What the events tell of a throw -/

/-- A throw tells of a player with a grenade at a tick: who the player is, as the event names and shows the player then,
the player's team and side, the round and its time, and how the player moves by what was seen of the player before. -/
structure Throw.Tells (t : Throw) (s : MatchState) (a : Actor) (k : GrenadeKind) (now : Tick) : Prop where
  thrower : t.thrower = a.id
  throwerName : t.throwerName = a.name
  throwerTeam : t.throwerTeam = s.team? a.id
  throwerSide : t.throwerSide = s.actorSide? a
  kind : t.kind = k
  round : t.round = s.round.number
  tick : t.tick = now
  roundTime : t.roundTime = Ratio.atLeastZero (Clock.seconds (now - s.round.referenceTick) s.tickRate)
  position : t.position = a.position
  aim : t.aim = a.view
  movement : t.movement = (s.sightings.classify a now s.tickRate).label

/-- **What is captured of a throw is what it is to tell**, and nothing else tells that. -/
theorem Throw.tells_iff {t : Throw} {s : MatchState} {a : Actor} {kind : GrenadeKind} {tick : Tick} :
    t.Tells s a kind tick ↔ t = s.captureThrow a kind tick := by
  constructor
  · intro h
    cases t
    simp only [MatchState.captureThrow, Throw.mk.injEq]
    exact ⟨h.thrower, h.throwerName, h.throwerTeam, h.throwerSide, h.kind, h.round, h.tick, h.roundTime, h.position,
      h.aim, h.movement⟩
  · rintro rfl
    exact ⟨rfl, rfl, rfl, rfl, rfl, rfl, rfl, rfl, rfl, rfl, rfl⟩

namespace Processor

/-- A throw is pending: it tells of a player who fired a grenade of a kind in the round in progress, as the player was
then, and the player has neither fired nor thrown one of that kind since. -/
def Pending (p : Processor) (events : List TimedEvent) (id : PlayerId) (kind : GrenadeKind) (t : Throw) : Prop :=
  Since (fun e => e.continues = true ∧ ¬ e.Arms id kind)
    (fun before e => (p.after before).state.round.isOpen = true ∧ ∃ a, e.event.fire? = some (a, kind) ∧ a.id = id ∧
      t.Tells (p.after before).state a kind e.tick) events

/-- A throw as it was captured, for a projectile that appears: it tells of the thrower when the grenade was fired, if
that is pending, and else of the thrower now. -/
def Captured (p : Processor) (events : List TimedEvent) (a : Actor) (kind : GrenadeKind) (tick : Tick) (t : Throw) :
    Prop :=
  p.Pending events a.id kind t ∨
    (∀ t', ¬ p.Pending events a.id kind t') ∧ t.Tells (p.after events).state a kind tick

/-- At place `k` of a stream stands the event that the projectile of a throw goes back to: it was not passed over, its
round is that of the throw, the throw is as it was captured, and the match has not started over since. -/
def ThrownAt (p : Processor) (events : List TimedEvent) (k : Nat) (origin : EntityId × Throw) : Prop :=
  Since (fun e => e ≠ .matchStart)
    (fun before e => before.length = k ∧ ((p.after before).dispatch e).fault = none ∧
      (p.after before).state.round.isOpen = true ∧ (p.after before).state.round.number = origin.2.round ∧
      ∃ a kind, e.event.throw? = some (origin.1, a, kind) ∧ p.Captured before a kind e.tick origin.2) events

variable {p : Processor} {events : List TimedEvent}

theorem ThrownAt.lt {k : Nat} {origin : EntityId × Throw} (h : p.ThrownAt events k origin) : k < events.length := by
  obtain ⟨before, e, later, rfl, ⟨rfl, -⟩, -⟩ := h
  simp

/-- **An event throws one projectile.** -/
theorem ThrownAt.entity_eq {k : Nat} {x y : EntityId × Throw} (hx : p.ThrownAt events k x)
    (hy : p.ThrownAt events k y) : x.1 = y.1 := by
  obtain ⟨before, e, later, rfl, ⟨hk, -, -, -, _, _, hthrow, -⟩, -⟩ := hx
  obtain ⟨before', e', later', heq, ⟨hk', -, -, -, _, _, hthrow', -⟩, -⟩ := hy
  obtain ⟨-, htail⟩ := List.append_inj heq (hk.trans hk'.symm)
  cases htail
  exact (Prod.mk.inj (Option.some.inj (hthrow.symm.trans hthrow'))).1

theorem accepted_of_throw {e : TimedEvent} {entity : EntityId} {a : Actor} {kind : GrenadeKind}
    (ho : p.state.round.isOpen = true) (he : e.event.throw? = some (entity, a, kind)) : (p.dispatch e).fault = none := by
  obtain ⟨tick, event⟩ := e
  obtain ⟨n, rfl, -, ht, hk⟩ := Event.throw?_eq_some he
  simp [dispatch, handle, MatchState.recordProjectileThrow, ho, ht, hk]

section Pending

variable {e : TimedEvent} {id : PlayerId} {kind : GrenadeKind} {t : Throw}

theorem pending_concat : p.Pending (events ++ [e]) id kind t ↔
    ((p.after events).state.round.isOpen = true ∧ ∃ a, e.event.fire? = some (a, kind) ∧ a.id = id ∧
      t.Tells (p.after events).state a kind e.tick) ∨
    p.Pending events id kind t ∧ e.event.continues = true ∧ ¬ e.event.Arms id kind := since_concat

/-- Nothing is pending when a round starts or the match starts over. -/
theorem not_pending_of_not_continues (h : e.event.continues = false) : ¬ p.Pending (events ++ [e]) id kind t := by
  rw [pending_concat]
  rintro (⟨-, a, he, -⟩ | ⟨-, hc, -⟩)
  · rw [Event.continues_of_fire he] at h
    cases h
  · rw [hc] at h
    cases h

end Pending

/-! ## Tables and records -/

/-- **What fires and flies goes back to the events, and so does every record.**  The records are thrown at the places
listed, one each, and what flies at none of them. -/
structure Traced (p : Processor) (events : List TimedEvent) (places : List Nat) (s : MatchState) : Prop where
  pending : ∀ {id : PlayerId} {kind : GrenadeKind} {t : Throw},
    s.tables.pendingThrows.get? (id, kind) = some t ↔ p.Pending events id kind t
  current : ∀ {key : PlayerId × GrenadeKind} {t : Throw}, s.tables.pendingThrows.get? key = some t →
    t.round = s.round.number
  flights : ∀ {entity : EntityId} {t : Throw}, s.tables.throws.get? entity = some t →
    ∃ k, p.ThrownAt events k (entity, t) ∧ k ∉ places
  records : List.Forall₂ (p.ThrownAt events) places (s.grenades.map Grenade.origin)
  distinct : places.Nodup

namespace Traced

variable {places : List Nat} {s s' : MatchState} {e : TimedEvent}

theorem lt_of_mem (h : Traced p events places s) {k : Nat} (hk : k ∈ places) : k < events.length := by
  have hall : ∀ {places : List Nat} {origins : List (EntityId × Throw)},
      List.Forall₂ (p.ThrownAt events) places origins → ∀ k ∈ places, k < events.length := by
    intro places origins hf
    induction hf with
    | nil => exact fun k hk => by cases hk
    | cons hthrown _ ih =>
      intro k hk
      rcases List.mem_cons.1 hk with rfl | hk
      · exact hthrown.lt
      · exact ih k hk
  exact hall h.records k hk

theorem calm (h : Traced p events places s) (hc : MatchState.Calm s s') : Traced p events places s' where
  pending := by
    rw [hc.tables]
    exact h.pending
  current hget := by
    rw [hc.number]
    exact h.current (hc.tables ▸ hget)
  flights hget := h.flights (hc.tables ▸ hget)
  records := by
    rw [hc.origins]
    exact h.records
  distinct := h.distinct

theorem empty (hp : ∀ id kind t, ¬ p.Pending events id kind t) (ht : s.tables = {}) (hg : s.grenades = []) :
    Traced p events [] s where
  pending := by
    intro id kind t
    rw [ht]
    exact ⟨fun h => (by cases h), fun h => absurd h (hp id kind t)⟩
  current hget := by
    rw [ht] at hget
    cases hget
  flights hget := by
    rw [ht] at hget
    cases hget
  records := by
    rw [hg]
    exact .nil
  distinct := List.nodup_nil

/-- What was thrown stays thrown, unless the match starts over. -/
theorem thrown_concat (hne : e.event ≠ .matchStart) {origins : List (EntityId × Throw)}
    (h : List.Forall₂ (p.ThrownAt events) places origins) :
    List.Forall₂ (p.ThrownAt (events ++ [e])) places origins :=
  h.imp (fun _ _ hthrown => hthrown.concat hne)

/-- **A projectile that flies no more has its record now**, and everything else flies on.  If it did not fly, nothing
changes. -/
theorem land (h : Traced p events places s) (hc : e.event.continues = true)
    (hpending : ∀ id kind t, p.Pending (events ++ [e]) id kind t ↔ p.Pending events id kind t)
    (entity : Option EntityId)
    (hp : s'.tables.pendingThrows = s.tables.pendingThrows) (hn : s'.round.number = s.round.number)
    (ht : ∀ k, s'.tables.throws.get? k = if entity = some k then none else s.tables.throws.get? k)
    (hg : s'.grenades.map Grenade.origin = s.grenades.map Grenade.origin ++
      (entity.bind (fun k => (s.tables.throws.get? k).map (fun t => (k, t)))).toList) :
    ∃ places, Traced p (events ++ [e]) places s' := by
  have hne := Event.ne_matchStart hc
  have hpend {id : PlayerId} {kind : GrenadeKind} {t : Throw} :
      s'.tables.pendingThrows.get? (id, kind) = some t ↔ p.Pending (events ++ [e]) id kind t := by
    rw [hp, hpending]
    exact h.pending
  have hcur {key : PlayerId × GrenadeKind} {t : Throw} (hget : s'.tables.pendingThrows.get? key = some t) :
      t.round = s'.round.number := by
    rw [hn]
    exact h.current (hp ▸ hget)
  have hold := thrown_concat hne h.records
  cases hlanded : entity.bind (fun k => (s.tables.throws.get? k).map (fun t => (k, t))) with
  | none =>
    rw [hlanded, Option.toList_none, List.append_nil] at hg
    refine ⟨places, hpend, hcur, fun hget => ?_, hg ▸ hold, h.distinct⟩
    rw [ht] at hget
    split at hget
    · cases hget
    · obtain ⟨k, hthrown, hk⟩ := h.flights hget
      exact ⟨k, hthrown.concat hne, hk⟩
  | some origin =>
    obtain ⟨x, rfl, hx⟩ := Option.bind_eq_some_iff.1 hlanded
    obtain ⟨t, hget, rfl⟩ := Option.map_eq_some_iff.1 hx
    obtain ⟨k, hthrown, hk⟩ := h.flights hget
    rw [hlanded, Option.toList_some] at hg
    refine ⟨places ++ [k], hpend, hcur, fun {y u} hgety => ?_, ?_, ?_⟩
    · rw [ht] at hgety
      split at hgety
      · cases hgety
      · next hxy =>
        obtain ⟨j, hthrowny, hj⟩ := h.flights hgety
        refine ⟨j, hthrowny.concat hne, fun hmem => ?_⟩
        rcases List.mem_append.1 hmem with hmem | hmem
        · exact hj hmem
        · -- the other projectile was thrown by another event
          have hjk : j = k := List.mem_singleton.1 hmem
          have hentity : x = y := hthrown.entity_eq (hjk ▸ hthrowny)
          exact hxy (congrArg some hentity)
    · rw [hg]
      exact List.rel_append hold (.cons (hthrown.concat hne) .nil)
    · exact List.nodup_append.2 ⟨h.distinct, by simp, fun j hj j' hj' => by
        rw [List.mem_singleton.1 hj']
        rintro rfl
        exact hk hj⟩

/-- Nothing flies away and nothing lands. -/
theorem keep (h : Traced p events places s) (hc : e.event.continues = true)
    (hpending : ∀ id kind t, p.Pending (events ++ [e]) id kind t ↔ p.Pending events id kind t)
    (hp : s'.tables.pendingThrows = s.tables.pendingThrows) (ht : s'.tables.throws = s.tables.throws)
    (hn : s'.round.number = s.round.number)
    (hg : s'.grenades.map Grenade.origin = s.grenades.map Grenade.origin) :
    ∃ places, Traced p (events ++ [e]) places s' :=
  h.land hc hpending none hp hn (fun k => by simp [ht]) (by simp [hg])

theorem begin (h : Traced p events places s) (hc : e.event.continues = false) (hne : e.event ≠ .matchStart)
    (ht : s'.tables = {}) (hg : s'.grenades.map Grenade.origin = s.grenades.map Grenade.origin) :
    Traced p (events ++ [e]) places s' where
  pending := by
    intro id kind t
    rw [ht]
    exact ⟨fun hget => (by cases hget), fun hget => absurd hget (not_pending_of_not_continues hc)⟩
  current hget := by
    rw [ht] at hget
    cases hget
  flights hget := by
    rw [ht] at hget
    cases hget
  records := by
    rw [hg]
    exact thrown_concat hne h.records
  distinct := h.distinct

/-- **A grenade that is fired is captured**, in the place of one fired before. -/
theorem fire (h : Traced p events places s) (ho : (p.after events).state.round.isOpen = true) {a : Actor}
    {kind : GrenadeKind} (he : e.event.fire? = some (a, kind))
    (hcapture : s.captureThrow a kind e.tick = (p.after events).state.captureThrow a kind e.tick) :
    Traced p (events ++ [e]) places (s.recordGrenadeFire a kind e.tick) := by
  have hc := Event.continues_of_fire he
  have hne := Event.ne_matchStart hc
  have hget (key : PlayerId × GrenadeKind) : (s.recordGrenadeFire a kind e.tick).tables.pendingThrows.get? key =
      if (a.id, kind) = key then some (s.captureThrow a kind e.tick) else s.tables.pendingThrows.get? key :=
    Table.get?_insert _ _ _ _
  refine ⟨fun {id k t} => ?_, fun {key t} ht => ?_, fun ht => ?_, thrown_concat hne h.records, h.distinct⟩
  · rw [hget, pending_concat, Event.arms_of_fire he, he]
    by_cases hkey : (a.id, kind) = (id, k)
    · cases hkey
      rw [if_pos rfl, hcapture]
      constructor
      · intro hget
        cases hget
        exact .inl ⟨ho, a, rfl, rfl, Throw.tells_iff.2 rfl⟩
      · rintro (⟨-, b, hb, -, htells⟩ | ⟨-, -, hne⟩)
        · cases hb
          rw [Throw.tells_iff.1 htells]
        · exact absurd rfl hne
    · have hother : ¬ ∃ b, some (a, kind) = some (b, k) ∧ b.id = id ∧
          t.Tells (p.after events).state b k e.tick := by
        rintro ⟨b, hb, rfl, -⟩
        cases hb
        exact hkey rfl
      simp only [hkey, if_false, hother, and_false, false_or, hc, not_false_eq_true, and_true]
      exact h.pending
  · rw [hget] at ht
    split at ht
    · cases ht
      rfl
    · exact h.current ht
  · obtain ⟨k, hthrown, hk⟩ := h.flights ht
    exact ⟨k, hthrown.concat hne, hk⟩

/-- **What a projectile that appears takes is the throw captured for it**, and of the round in progress. -/
theorem captured (h : Traced p events places s) {a : Actor} {kind : GrenadeKind} {tick : Tick}
    (hcapture : s.captureThrow a kind tick = (p.after events).state.captureThrow a kind tick) :
    p.Captured events a kind tick ((s.tables.pendingThrows.get? (a.id, kind)).getD (s.captureThrow a kind tick)) ∧
      ((s.tables.pendingThrows.get? (a.id, kind)).getD (s.captureThrow a kind tick)).round = s.round.number := by
  cases hget : s.tables.pendingThrows.get? (a.id, kind) with
  | none =>
    refine ⟨.inr ⟨fun t hp => ?_, Throw.tells_iff.2 hcapture⟩, rfl⟩
    rw [h.pending.2 hp] at hget
    cases hget
  | some t => exact ⟨.inl (h.pending.1 hget), h.current hget⟩

/-- **A projectile that appears flies with the throw captured for it.** -/
theorem throw (h : Traced p events places s) (ho : (p.after events).state.round.isOpen = true) {entity : EntityId}
    {a : Actor} {kind : GrenadeKind} (he : e.event.throw? = some (entity, a, kind))
    (hnumber : s.round.number = (p.after events).state.round.number)
    (hcapture : s.captureThrow a kind e.tick = (p.after events).state.captureThrow a kind e.tick) :
    Traced p (events ++ [e]) places (s.bindThrow entity a kind e.tick) := by
  have hc := Event.continues_of_throw he
  have hne := Event.ne_matchStart hc
  have hpending (key : PlayerId × GrenadeKind) : (s.bindThrow entity a kind e.tick).tables.pendingThrows.get? key =
      if (a.id, kind) = key then none else s.tables.pendingThrows.get? key := Table.get?_erase _ _ _
  have hflights (k : EntityId) : (s.bindThrow entity a kind e.tick).tables.throws.get? k =
      if entity = k then
        some ((s.tables.pendingThrows.get? (a.id, kind)).getD (s.captureThrow a kind e.tick))
      else s.tables.throws.get? k := Table.get?_insert _ _ _ _
  refine ⟨fun {id k t} => ?_, fun {key t} ht => ?_, fun {x t} ht => ?_, thrown_concat hne h.records, h.distinct⟩
  · rw [hpending, pending_concat, Event.arms_of_throw he, Event.fire?_of_throw he]
    by_cases hkey : (a.id, kind) = (id, k)
    · rw [if_pos hkey]
      constructor
      · intro hget
        cases hget
      · rintro (⟨-, b, hb, -⟩ | ⟨-, -, hne⟩)
        · cases hb
        · exact absurd hkey hne
    · simp only [hkey, if_false, reduceCtorEq, false_and, exists_const, and_false, false_or, hc, not_false_eq_true,
        and_true]
      exact h.pending
  · rw [hpending] at ht
    split at ht
    · cases ht
    · exact h.current ht
  · rw [hflights] at ht
    split at ht
    · next hx =>
      cases ht
      obtain ⟨hcaptured, hround⟩ := h.captured hcapture
      exact ⟨events.length, since_concat.2 (.inl ⟨rfl, accepted_of_throw ho he, ho, hnumber.symm.trans hround.symm, a,
        kind, hx ▸ he, hcaptured⟩), fun hmem => Nat.lt_irrefl _ (h.lt_of_mem hmem)⟩
    · obtain ⟨k, hthrown, hk⟩ := h.flights ht
      exact ⟨k, hthrown.concat hne, hk⟩

/-- What touches neither throws nor records: nothing is fired or thrown, and a round is open or nothing is pending. -/
theorem pending_of_spared (hu : (p.after events).state.Unarmed) (hs : (p.after events).state.course.Sound)
    (h : Traced p events places (p.after events).state) (hc : e.event.continues = true)
    (hq : (p.after events).state.round.isOpen = true → e.event.fire? = none ∧ e.event.throw? = none) (id : PlayerId)
    (kind : GrenadeKind) (t : Throw) : p.Pending (events ++ [e]) id kind t ↔ p.Pending events id kind t := by
  rw [pending_concat]
  cases ho : (p.after events).state.round.isOpen with
  | true =>
    obtain ⟨hf, ht⟩ := hq ho
    simp [hf, hc, Event.not_arms ⟨hf, ht⟩]
  | false =>
    -- before the first round nothing is pending
    have hphase : (p.after events).state.course.phase = .notStarted := by
      simpa [Round.isOpen, MatchState.course] using ho
    have hnone : ¬ p.Pending events id kind t := by
      rw [← h.pending, (hu (hs.closed hphase)).1]
      intro hget
      cases hget
    simp [hnone]

theorem arming {c : Config} (hu : (p.after events).state.Unarmed) (hs : (p.after events).state.course.Sound)
    (h : Traced p events places ((p.after events).state.advance e.tick))
    (ha : MatchState.Arming c ((p.after events).state.advance e.tick) e.tick e.event s') :
    ∃ places, Traced p (events ++ [e]) places s' := by
  generalize hstate : (p.after events).state.advance e.tick = s at h ha
  have hcalm : MatchState.Calm s (p.after events).state := by
    rw [← hstate]
    exact ⟨rfl, rfl, rfl, rfl⟩
  have quiet (hc : e.event.continues = true) (hf : e.event.fire? = none) (ht : e.event.throw? = none) (id : PlayerId)
      (kind : GrenadeKind) (t : Throw) : p.Pending (events ++ [e]) id kind t ↔ p.Pending events id kind t :=
    pending_of_spared hu hs (h.calm hcalm) hc (fun _ => ⟨hf, ht⟩) id kind t
  have hcapture (a : Actor) (kind : GrenadeKind) :
      s.captureThrow a kind e.tick = (p.after events).state.captureThrow a kind e.tick := by
    rw [← hstate]
    rfl
  have hopen (ho : s.round.isOpen = true) : (p.after events).state.round.isOpen = true := hcalm.isOpen.trans ho
  have hus : s.Unarmed := hu.calm ⟨hcalm.tables.symm, hcalm.number.symm, hcalm.isOpen.symm, hcalm.traces.symm⟩
  have hwork {t t' : MatchState} (hw : MatchState.FlashWork t t') :
      t'.tables.pendingThrows = t.tables.pendingThrows ∧ t'.tables.throws = t.tables.throws ∧
        t'.round.number = t.round.number ∧ t'.grenades.map Grenade.origin = t.grenades.map Grenade.origin := by
    obtain ⟨_, _, _, _, rfl, hg⟩ := hw
    exact ⟨rfl, rfl, rfl, hg⟩
  obtain ⟨tick, event⟩ := e
  cases ha with
  | spared hc hq hspared =>
    have hsame := pending_of_spared hu hs (h.calm hcalm) hc (fun ho => hq (hcalm.isOpen.symm.trans ho))
    have hkept : ∃ places, Traced p (events ++ [⟨tick, event⟩]) places s := h.keep hc hsame rfl rfl rfl rfl
    exact hkept.imp (fun _ ht => ht.calm hspared)
  | restarted =>
    exact ⟨[], .empty (fun _ _ _ => not_pending_of_not_continues rfl) hus.restart.1 hus.restart.2⟩
  | begun => exact ⟨places, h.begin rfl Event.noConfusion rfl (MatchState.Calm.settled s c).origins⟩
  | @fired _ a kind _ ho he hfired => exact ⟨places, (h.fire (hopen ho) he (hcapture a kind)).calm hfired⟩
  | @thrown _ entity a kind ho he => exact ⟨places, h.throw (hopen ho) he hcalm.number.symm (hcapture a kind)⟩
  | @unseen _ n ho he =>
    obtain ⟨hc, hf, ht⟩ := Event.of_detonation he
    rw [MatchState.noteThrower_eq]
    exact h.keep hc (quiet hc hf ht) rfl rfl rfl rfl
  | @detonated _ n thrown ho he ht =>
    obtain ⟨hc, hf, hthrow⟩ := Event.of_detonation he
    have hg := MatchState.origins_recordGrenade ht tick
    unfold MatchState.recordGrenade at hg ⊢
    rw [MatchState.noteThrower_eq] at hg ⊢
    refine h.land hc (quiet hc hf hthrow) (some n.entity) rfl rfl (fun k => ?_) hg
    simp only [Option.some.injEq]
    exact Table.get?_erase _ _ _
  | @moved n thrower effect ho hn he =>
    obtain ⟨hp, ht, hn, hg⟩ := hwork (MatchState.flashWork_moveFlash s effect tick n.position)
    exact h.keep rfl (quiet rfl rfl rfl) hp ht hn hg
  | @exploded n thrower ho hn he hd =>
    have hg := MatchState.origins_exploded s c.flashMatching n thrower.id tick
    refine h.land rfl (quiet rfl rfl rfl) (some n.entity) rfl rfl (fun k => ?_) hg
    simp only [Option.some.injEq]
    exact Table.get?_erase _ _ _
  | @blinded n player thrower ho hp ht =>
    obtain ⟨hp, ht, hn, hg⟩ := hwork (MatchState.flashWork_placeBlinding (s.noteBlinded player.id) c.flashMatching
      player.id thrower.id tick n.duration.toFloat)
    exact h.keep rfl (quiet rfl rfl rfl) hp ht hn hg

end Traced

variable {header : Header} {config : Config} {q q' : Processor}

namespace Fresh

theorem traced (h : Fresh header config p) (events : List TimedEvent) :
    ∃ places, Traced p events places (p.after events).state := by
  refine h.traces_arming (P := fun events s => ∃ places, Traced p events places s)
    ⟨[], .empty (fun _ _ _ => not_since_nil) rfl rfl⟩ (fun hc ⟨places, ht⟩ => ⟨places, ht.calm hc⟩) ?_ events
  rintro events e s' ha ⟨places, ht⟩
  exact ht.arming (h.unarmed events) (h.sound events) ha

/-- What later events do to the records. -/
theorem origins_extend (h : Fresh header config p) (events : List TimedEvent) {more : List TimedEvent}
    (hmore : ∀ e ∈ more, e.event ≠ .matchStart) :
    (p.after events).state.grenades.map Grenade.origin <+:
      (p.after (events ++ more)).state.grenades.map Grenade.origin := by
  induction more using List.reverseRecOn with
  | nil => exact (List.append_nil events).symm ▸ List.prefix_rfl
  | append_singleton more e ih =>
    have hstep := (MatchState.arming_respond config ((p.after (events ++ more)).state.advance e.tick) e.tick
      e.event).origins_extend (hmore e (List.mem_append_right _ List.mem_cons_self))
    rw [← List.append_assoc, h.after_concat_state]
    exact (ih (fun x hx => hmore x (List.mem_append_left _ hx))).trans hstep

theorem origins_eq (h : Fresh header config p) (hq : Reaches p events q) :
    q.state.grenades.map Grenade.origin = (p.after events).state.grenades.map Grenade.origin :=
  h.holds_of_reaches
    (P := fun s => s.grenades.map Grenade.origin = (p.after events).state.grenades.map Grenade.origin)
    (fun s hs => (MatchState.Calm.closeState s config).origins.trans hs) rfl hq

end Fresh

/-- **Every grenade record goes back to a throw of its own.**  In every state of a match, in progress or closed, each
record has an event of the stream in which its projectile appeared in its round and was not passed over, different
records have different events, and a record tells of the throw as it was captured: when the grenade was fired, if the
latest fire of the thrower was still pending, and else when the projectile appeared.  Whatever comes later, the origins
of the records stay as they are until the match starts over, when all records are dropped. -/
theorem grenades_traced (h : Fresh header config p) (hq : Reaches p events q) :
    (∃ places : List Nat, places.Nodup ∧
      List.Forall₂ (fun k g => p.ThrownAt events k g.origin) places q.state.grenades) ∧
    (∀ more q', (∀ e ∈ more, e.event ≠ .matchStart) → Reaches p (events ++ more) q' →
      q.state.grenades.map Grenade.origin <+: q'.state.grenades.map Grenade.origin) ∧
    ∀ tick, (p.after (events ++ [⟨tick, .matchStart⟩])).state.grenades = [] := by
  refine ⟨?_, fun more q' hmore hq' => ?_, fun tick => ?_⟩
  · obtain ⟨places, ht⟩ := h.traced events
    have hrecords := ht.records
    rw [← h.origins_eq hq] at hrecords
    exact ⟨places, ht.distinct, List.forall₂_map_right_iff.1 hrecords⟩
  · rw [h.origins_eq hq, h.origins_eq hq']
    exact h.origins_extend events hmore
  · have hu := (h.unarmed events).calm (.advance _ tick)
    rw [h.after_concat_state]
    exact hu.restart.2

/-- A flash that is fired twice before its projectile appears, and an explosive of which only the projectile is seen,
looked at when the match is over.  The player has another name, stands elsewhere, looks elsewhere and moves otherwise at
every event: the first record tells of the player at the second fire, the other of the player when the projectile
appeared. -/
theorem grenades_traced_to_latest_fire :
    ∃ (events : List TimedEvent) (q : Processor),
      events =
        [⟨0, .playerConnect { id := 1, name := "fox", allegiance := .counterTerrorist }⟩, ⟨1, .roundStart⟩,
         ⟨33, .weaponFire { weapon := some .flashbang
                            shooter := some { id := 1, name := "fox", allegiance := .counterTerrorist
                                              position := ⟨10, 20, 0⟩, view := ⟨0, 30⟩
                                              movement := { onGround := true, ducking := true } } }⟩,
         ⟨65, .weaponFire { weapon := some .flashbang
                            shooter := some { id := 1, name := "red fox", allegiance := .counterTerrorist
                                              position := ⟨100, 200, 0⟩, view := ⟨-15, 90⟩
                                              movement := { velocity := some ⟨120, 160, 300⟩ } } }⟩,
         ⟨70, .projectileThrow { entity := 9, weapon := .flashbang, position := ⟨110, 200, 60⟩
                                 thrower := some { id := 1, name := "grey fox", allegiance := .counterTerrorist
                                                   position := ⟨104, 200, 0⟩, view := ⟨45, -90⟩
                                                   movement := { onGround := true } } }⟩,
         ⟨97, .projectileThrow { entity := 10, weapon := .heGrenade, position := ⟨120, 200, 60⟩
                                 thrower := some { id := 1, name := "brown fox", allegiance := .counterTerrorist
                                                   position := ⟨300, 400, 8⟩, view := ⟨5, 45⟩
                                                   movement := { onGround := true, walking := true, left := true
                                                                 velocity := some ⟨0, 60, 0⟩ } } }⟩,
         ⟨129, .flashExplode { entity := 9, weapon := .flashbang, position := ⟨500, 200, 90⟩
                               thrower := some { id := 1, name := "white fox", position := ⟨1, 2, 3⟩ } }⟩,
         ⟨161, .projectileDestroy { entity := 10, weapon := .heGrenade, position := ⟨700, 400, 0⟩, thrower := none }⟩,
         ⟨200, .roundStart⟩] ∧
      Reaches { config := {}, state := MatchState.new { mapName := "de_dust2" } {} } events q ∧
      q.state.grenades.map Grenade.origin =
        [(9, { thrower := 1, throwerName := "red fox", throwerTeam := some .a, throwerSide := some .ct
               kind := .flashbang, round := 1, tick := 65, roundTime := 1, position := ⟨100, 200, 0⟩
               aim := ⟨-15, 90⟩, movement := "Jumping Running" }),
         (10, { thrower := 1, throwerName := "brown fox", throwerTeam := some .a, throwerSide := some .ct
                kind := .highExplosive, round := 1, tick := 97, roundTime := 1.5, position := ⟨300, 400, 8⟩
                aim := ⟨5, 45⟩, movement := "Walking" })] ∧
      ∃ places : List Nat, places.Nodup ∧
        List.Forall₂
          (fun k g => ThrownAt { config := {}, state := MatchState.new { mapName := "de_dust2" } {} } events k g.origin)
          places q.state.grenades := by
  have h : Fresh { mapName := "de_dust2" } {} _ := .default rfl
  refine ⟨_, _, rfl, .closed, ?_, (grenades_traced h .closed).1⟩
  decide +kernel

end Processor

end Scorebook
