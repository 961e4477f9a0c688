import Scorebook.Proofs.Course
import Scorebook.Proofs.FlashOrder
import Scorebook.Proofs.History
/-!
# What an event does to grenades

Most events leave the grenades of a round alone (`Calm`).  `Arming` lists what the others do to the tables of the round
and to the records, in the terms in which throws, flashes and blindings are told apart, and `arming_respond` says that
there is nothing else: whatever holds of throws and flashes throughout a match is proved from this list.
-/
namespace Scorebook

/-! ## What of a record tells of its throw and of its flash -/

/-- How many players a flash blinded, and for how long in all. -/
structure Exposure where
  enemies : Nat
  teammates : Nat
  enemyDuration : Float
  teamDuration : Float

def Grenade.exposure (g : Grenade) : Exposure where
  enemies := g.enemiesFlashed
  teammates := g.teammatesFlashed
  enemyDuration := g.enemyFlashDuration
  teamDuration := g.teamFlashDuration

/-- Which way a projectile went: from where it was thrown, when and where it came down, and how far that was. -/
structure Flight where
  entity : EntityId
  start : Vector3
  tick : Tick
  place : Vector3
  distance : Float32

def Grenade.flight (g : Grenade) : Flight where
  entity := g.entity
  start := g.throwPosition
  tick := g.detonationTick
  place := g.detonationPosition
  distance := g.throwDistance

/-- What of a grenade record no kill and no end of a round touches. -/
def Grenade.trace (g : Grenade) : (EntityId × Throw) × Exposure × Flight := (g.origin, g.exposure, g.flight)

namespace Event

/-- Who fires a grenade, and of which kind. -/
def fire? : Event → Option (Actor × GrenadeKind)
  | .weaponFire n =>
    match n.shooter, n.weapon.bind Weapon.grenadeKind? with
    | some shooter, some kind => some (shooter, kind)
    | _, _ => none
  | _ => none

/-- The projectile that appears, who threw it, and of which kind it is. -/
def throw? : Event → Option (EntityId × Actor × GrenadeKind)
  | .projectileThrow n =>
    match n.thrower, n.weapon.grenadeKind? with
    | some thrower, some kind => some (n.entity, thrower, kind)
    | _, _ => none
  | _ => none

/-- Whether an event is neither about grenades nor about the start of a round or a match. -/
def isQuiet : Event → Bool
  | .matchStart | .roundStart | .weaponFire _ | .projectileThrow _ | .projectileDestroy _ | .flashExplode _
  | .playerFlashed _ | .smokeStart _ => false
  | _ => true

theorem isQuiet_of_detonation {e : Event} {n : ProjectileNotice} (h : e.detonation? = some n) : e.isQuiet = false := by
  cases e <;> first | rfl | cases h

theorem quiet {e : Event} (h : e.isQuiet = true) : e.continues = true ∧ e.fire? = none ∧ e.throw? = none := by
  cases e <;> first | exact ⟨rfl, rfl, rfl⟩ | cases h

theorem continues_of_fire {e : Event} {x : Actor × GrenadeKind} (h : e.fire? = some x) : e.continues = true := by
  cases e <;> first | rfl | cases h

theorem continues_of_throw {e : Event} {x : EntityId × Actor × GrenadeKind} (h : e.throw? = some x) :
    e.continues = true := by
  cases e <;> first | rfl | cases h

theorem of_detonation {e : Event} {n : ProjectileNotice} (h : e.detonation? = some n) :
    e.continues = true ∧ e.fire? = none ∧ e.throw? = none := by
  cases e <;> first | exact ⟨rfl, rfl, rfl⟩ | cases h

theorem other_of_detonation {e : Event} {n : ProjectileNotice} (h : e.detonation? = some n) :
    e.bomb? = none ∧ e.shown? = none := by
  cases e <;> first | exact ⟨rfl, rfl⟩ | cases h

end Event

namespace MatchState

/-! ## What leaves grenades alone -/

/-- The tables of the round and the traces of the records are what they were. -/
structure Calm (s s' : MatchState) : Prop where
  tables : s'.tables = s.tables
  number : s'.round.number = s.round.number
  isOpen : s'.round.isOpen = s.round.isOpen
  traces : s'.grenades.map Grenade.trace = s.grenades.map Grenade.trace

namespace Calm

variable {s s' s'' : MatchState}

theorem refl (s : MatchState) : Calm s s := ⟨rfl, rfl, rfl, rfl⟩

theorem trans (h : Calm s s') (h' : Calm s' s'') : Calm s s'' :=
  ⟨h'.tables.trans h.tables, h'.number.trans h.number, h'.isOpen.trans h.isOpen, h'.traces.trans h.traces⟩

theorem origins (h : Calm s s') : s'.grenades.map Grenade.origin = s.grenades.map Grenade.origin := by
  have := congrArg (List.map Prod.fst) h.traces
  rwa [List.map_map, List.map_map] at this

theorem exposures (h : Calm s s') : s'.grenades.map Grenade.exposure = s.grenades.map Grenade.exposure := by
  have := congrArg (List.map (·.2.1)) h.traces
  rwa [List.map_map, List.map_map] at this

theorem flights (h : Calm s s') : s'.grenades.map Grenade.flight = s.grenades.map Grenade.flight := by
  have := congrArg (List.map (·.2.2)) h.traces
  rwa [List.map_map, List.map_map] at this

theorem observe (s : MatchState) (a : Actor) : Calm s (s.observe a) :=
  ⟨observe_tables s a, observe_number s a, observe_isOpen s a, by rw [observe_grenades]⟩

theorem observeOptional (s : MatchState) (a : Option Actor) : Calm s (s.observeOptional a) := by
  cases a with
  | none => exact .refl s
  | some a => exact .observe s a

theorem recordExit (s : MatchState) (id : PlayerId) (cause : ExitCause) (tick : Tick) :
    Calm s (s.recordExit id cause tick) := ⟨rfl, rfl, rfl, rfl⟩

theorem recordDeath (s : MatchState) (victim : Actor) (cause : ExitCause) (tick : Tick) :
    Calm s (s.recordDeath victim cause tick) :=
  (observe s victim).trans (recordExit _ _ _ _)

theorem modifyGrenade (s : MatchState) (place : Option Nat) {f : Grenade → Grenade} (hf : ∀ g, (f g).trace = g.trace) :
    Calm s (s.modifyGrenade place f) := by
  unfold MatchState.modifyGrenade
  split
  · split
    · exact ⟨rfl, rfl, rfl, map_modify_of_fixed _ f hf _ _⟩
    · exact ⟨rfl, rfl, rfl, rfl⟩
  · exact .refl s

theorem markFlashes (s : MatchState) (c : Config) (killer victim : PlayerId) (tick : Tick) :
    Calm s (s.markFlashes c killer victim tick) := by
  refine List.foldlRecOn (motive := fun t => Calm s t) _ _ (.refl s) (fun t ht h _ => ht.trans (modifyGrenade t _ ?_))
  intro g
  split <;> rfl

theorem enterGunfight (s before : MatchState) (c : Config) (n : KillNotice) (killer victim : Actor)
    (weapon : Weapon) (tick : Tick) : Calm s (s.enterGunfight before c n killer victim weapon tick) := by
  simp only [MatchState.enterGunfight]
  split
  · exact ⟨rfl, rfl, rfl, rfl⟩
  · exact (markFlashes s c killer.id victim.id tick).trans ⟨rfl, rfl, rfl, rfl⟩

theorem advance (s : MatchState) (tick : Tick) : Calm s (s.advance tick) := ⟨rfl, rfl, rfl, rfl⟩

theorem sightActors (s : MatchState) (e : TimedEvent) : Calm s (Processor.sightActors s e) := ⟨rfl, rfl, rfl, rfl⟩

/-! ### The end of a round -/

theorem creditGrenades (s : MatchState) (round : Nat) (c : Config) :
    (s.creditGrenades round c).grenades.map Grenade.trace = s.grenades.map Grenade.trace := by
  have hf (e : Grenade × Nat) :
      (if e.1.round = round then withCredit e.1 (((s.credits round c).get? e.2).getD {}) else e.1).trace =
        e.1.trace := by
    split <;> rfl
  calc (s.creditGrenades round c).grenades.map Grenade.trace
      = s.grenades.zipIdx.map (fun e => e.1.trace) := by
        simp only [MatchState.creditGrenades, List.map_map, Function.comp_def, hf]
    _ = (s.grenades.zipIdx.map (·.1)).map Grenade.trace := by rw [List.map_map]; rfl
    _ = s.grenades.map Grenade.trace := by rw [List.zipIdx_map_fst]

/-- **Closing a round leaves throws and blindings as they are.** -/
theorem settled (s : MatchState) (c : Config) : Calm s (s.settled c) := by
  have hg : (s.settled c).grenades.map Grenade.trace = s.grenades.map Grenade.trace := by
    unfold MatchState.settled
    rw [closeRound_eq]
    split
    · split
      · exact creditGrenades _ s.round.number c
      · rfl
    · rfl
  obtain ⟨_, _, _, _, hs, -⟩ := settled_eq s c
  rw [hs] at hg ⊢
  exact ⟨rfl, rfl, rfl, hg⟩

theorem closeState (s : MatchState) (c : Config) : Calm s (Processor.closeState s c) := by
  obtain ⟨_, hc⟩ := closeState_eq s c
  rw [hc]
  exact (settled s c).trans ⟨rfl, rfl, rfl, rfl⟩

end Calm

theorem Answer.calm {c : Config} {s : MatchState} {tick : Tick} {e : Event} {step : Step MatchState}
    (h : Answer c s tick e step) (hq : e.isQuiet = true) : Calm s step.state := by
  cases h with
  | passed | idle => exact .refl s
  | thawed hl =>
    unfold recordFreezeEnd
    rw [if_pos hl]
    exact ⟨rfl, rfl, rfl, rfl⟩
  | decided hl =>
    have ho : s.round.isOpen = true := by
      unfold Round.isOpen
      rw [hl]
      rfl
    rw [decideRound_eq]
    exact ⟨rfl, rfl, ho.symm, rfl⟩
  | died => exact .recordDeath s _ _ _
  | weaponless => exact .recordDeath s _ _ _
  | killed => exact (Calm.recordDeath s _ _ _).trans ((Calm.observe _ _).trans (Calm.enterGunfight _ _ _ _ _ _ _ _))
  | hit =>
    exact (Calm.observe s _).trans ((Calm.observeOptional _ _).trans ⟨rfl, rfl, rfl, rfl⟩)
  | unseen _ he | detonated _ he =>
    rw [Event.isQuiet_of_detonation he] at hq
    cases hq
  | bombed => exact (Calm.observeOptional s _).trans ⟨rfl, rfl, rfl, rfl⟩
  | shown => exact .observe s _
  | left | gone => exact ⟨rfl, rfl, rfl, rfl⟩
  | _ => cases hq

/-! ## What the other events do -/

/-- **What an event does to the grenades of a match.** -/
inductive Arming (c : Config) (s : MatchState) (tick : Tick) : Event → MatchState → Prop where
  /-- Nothing.  A grenade that is fired or thrown in an open round is never passed over. -/
  | spared {e : Event} {s' : MatchState} (hc : e.continues = true)
      (hq : s.round.isOpen = true → e.fire? = none ∧ e.throw? = none) (h : Calm s s') : Arming c s tick e s'
  | restarted : Arming c s tick .matchStart s.restart
  | begun : Arming c s tick .roundStart ((s.settled c).opened tick)
  | fired {e : Event} {a : Actor} {kind : GrenadeKind} {s' : MatchState} (ho : s.round.isOpen = true)
      (he : e.fire? = some (a, kind)) (h : Calm (s.recordGrenadeFire a kind tick) s') : Arming c s tick e s'
  | thrown {e : Event} {entity : EntityId} {a : Actor} {kind : GrenadeKind} (ho : s.round.isOpen = true)
      (he : e.throw? = some (entity, a, kind)) : Arming c s tick e (s.bindThrow entity a kind tick)
  | unseen {e : Event} {n : ProjectileNotice} (ho : s.round.isOpen = true) (he : e.detonation? = some n) :
      Arming c s tick e (s.noteThrower n tick)
  | detonated {e : Event} {n : ProjectileNotice} {thrown : Throw} (ho : s.round.isOpen = true)
      (he : e.detonation? = some n) (ht : s.tables.throws.get? n.entity = some thrown) :
      Arming c s tick e (s.recordGrenade n thrown tick)
  | moved {n : ProjectileNotice} {thrower : Actor} {effect : FlashEffect} (ho : s.round.isOpen = true)
      (hn : n.thrower = some thrower) (he : s.tables.flashes.get? n.entity = some effect) :
      Arming c s tick (.flashExplode n) (s.moveFlash effect tick n.position)
  | exploded {n : ProjectileNotice} {thrower : Actor} (ho : s.round.isOpen = true) (hn : n.thrower = some thrower)
      (he : s.tables.flashes.get? n.entity = none)
      (hd : s.tables.detonations.contains (thrower.id, tick) = false) :
      Arming c s tick (.flashExplode n) (s.exploded c.flashMatching n thrower.id tick)
  | blinded {n : FlashedNotice} {player thrower : Actor} (ho : s.round.isOpen = true) (hp : n.player = some player)
      (ht : n.attacker = some thrower) :
      Arming c s tick (.playerFlashed n)
        ((s.noteBlinded player.id).placeBlinding c.flashMatching player.id thrower.id tick n.duration.toFloat)

section Cases

variable {c : Config} {s : MatchState} {tick : Tick}

theorem arming_recordFire (n : FireNotice) : Arming c s tick (.weaponFire n) (s.recordFire n tick).state := by
  unfold recordFire
  cases ho : s.round.isOpen with
  | false => exact .spared rfl (fun h => by rw [ho] at h; cases h) (.refl s)
  | true =>
    simp only [Bool.not_true, Bool.false_eq_true, if_false]
    cases hs : n.shooter with
    | none => exact .spared rfl (fun _ => ⟨by simp only [Event.fire?, hs], rfl⟩) (.refl s)
    | some shooter =>
      cases hw : n.weapon with
      | none => exact .spared rfl (fun _ => ⟨by simp only [Event.fire?, hs, hw, Option.bind_none], rfl⟩) (.refl s)
      | some weapon =>
        simp only [fire]
        cases hk : weapon.grenadeKind? with
        | some kind =>
          exact .fired ho (by simp only [Event.fire?, hs, hw, Option.bind_some, hk]) (.observe _ shooter)
        | none =>
          have hnone : (Event.weaponFire n).fire? = none := by
            simp only [Event.fire?, hs, hw, Option.bind_some, hk]
          refine .spared rfl (fun _ => ⟨hnone, rfl⟩) (.trans ?_ (.observe _ shooter))
          simp only
          split
          · exact ⟨rfl, rfl, rfl, rfl⟩
          · exact .refl s

theorem arming_recordProjectileThrow (n : ProjectileNotice) :
    Arming c s tick (.projectileThrow n) (s.recordProjectileThrow n tick).state := by
  unfold recordProjectileThrow
  cases ho : s.round.isOpen with
  | false => exact .spared rfl (fun h => by rw [ho] at h; cases h) (.refl s)
  | true =>
    simp only [Bool.not_true, Bool.false_eq_true, if_false]
    cases ht : n.thrower with
    | none => exact .spared rfl (fun _ => ⟨rfl, by simp only [Event.throw?, ht]⟩) (.refl s)
    | some thrower =>
      cases hk : n.weapon.grenadeKind? with
      | none => exact .spared rfl (fun _ => ⟨rfl, by simp only [Event.throw?, ht, hk]⟩) (.refl s)
      | some kind => exact .thrown ho (by simp only [Event.throw?, ht, hk])

theorem arming_recordDetonation {e : Event} {n : ProjectileNotice} (he : e.detonation? = some n)
    {step : Step MatchState} (ha : Answer c s tick e step) : Arming c s tick e step.state := by
  obtain ⟨hc, hf, ht⟩ := Event.of_detonation he
  cases ha with
  | passed | idle => exact .spared hc (fun _ => ⟨hf, ht⟩) (.refl s)
  | unseen ho he => exact .unseen ho he
  | detonated ho he ht => exact .detonated ho he ht
  | bombed _ hb => exact nomatch (Event.other_of_detonation he).1.symm.trans hb
  | shown hs => exact nomatch (Event.other_of_detonation he).2.symm.trans hs
  | _ => cases he

theorem arming_recordFlashExplode (n : ProjectileNotice) :
    Arming c s tick (.flashExplode n) (s.recordFlashExplode c n tick).state := by
  cases ho : s.round.isOpen with
  | false =>
    have hs : (s.recordFlashExplode c n tick).state = s := by
      unfold recordFlashExplode
      rw [ho]
      rfl
    rw [hs]
    exact .spared rfl (fun _ => ⟨rfl, rfl⟩) (.refl s)
  | true =>
    cases hn : n.thrower with
    | none =>
      have hs : (s.recordFlashExplode c n tick).state = s := by
        unfold recordFlashExplode
        rw [ho, hn]
        rfl
      rw [hs]
      exact .spared rfl (fun _ => ⟨rfl, rfl⟩) (.refl s)
    | some thrower =>
      cases he : s.tables.flashes.get? n.entity with
      | some effect =>
        rw [recordFlashExplode_known c tick ho hn he]
        exact .moved ho hn he
      | none =>
        rw [recordFlashExplode_state c tick ho hn he]
        split
        · exact .spared rfl (fun _ => ⟨rfl, rfl⟩) (.refl s)
        · next hd => exact .exploded ho hn he (Bool.eq_false_iff.2 hd)

theorem recordFlashed_state {notice : FlashedNotice} {player attacker : Actor} (c : Config) (tick : Tick)
    (ho : s.round.isOpen = true) (hp : notice.player = some player) (ha : notice.attacker = some attacker) :
    (s.recordFlashed c notice tick).state =
      if notice.duration.toFloat ≤ 0 then s
      else (s.noteBlinded player.id).placeBlinding c.flashMatching player.id attacker.id tick notice.duration.toFloat := by
  unfold recordFlashed
  simp only [ho, hp, ha, Bool.not_true, Bool.false_eq_true, if_false]
  split <;> rfl

/-- A blinding that lasts is placed in the round in progress. -/
theorem next_playerFlashed {player attacker : Actor} (c : Config) (tick : Tick) (notice : FlashedNotice)
    (ho : s.round.isOpen = true) (hp : notice.player = some player) (ha : notice.attacker = some attacker)
    (hd : ¬ notice.duration.toFloat ≤ 0) :
    s.next c ⟨tick, .playerFlashed notice⟩ =
      Processor.sightActors (((s.advance tick).noteBlinded player.id).placeBlinding c.flashMatching player.id attacker.id
        tick notice.duration.toFloat) ⟨tick, .playerFlashed notice⟩ := by
  have hstate := recordFlashed_state (s := s.advance tick) c tick ho hp ha
  rw [if_neg hd] at hstate
  exact congrArg (Processor.sightActors · _) hstate

theorem arming_recordFlashed (n : FlashedNotice) :
    Arming c s tick (.playerFlashed n) (s.recordFlashed c n tick).state := by
  have ha := @answer_recordFlashed c s tick n
  generalize s.recordFlashed c n tick = step at ha
  cases ha with
  | passed | idle => exact .spared rfl (fun _ => ⟨rfl, rfl⟩) (.refl s)
  | blinded ho hp ht => exact .blinded ho hp ht
  | unseen _ he | detonated _ he | bombed _ he | shown he => cases he

end Cases

/-- **Whatever an event does to grenades is one of the list.** -/
theorem arming_respond (c : Config) (s : MatchState) (tick : Tick) (e : Event) :
    Arming c s tick e (respond c s tick e).state := by
  have ha := answer_respond c s tick e
  cases hq : e.isQuiet with
  | true =>
    obtain ⟨hc, hf, ht⟩ := Event.quiet hq
    exact .spared hc (fun _ => ⟨hf, ht⟩) (ha.calm hq)
  | false =>
    cases e with
    | matchStart => exact .restarted
    | roundStart => exact .begun
    | weaponFire n => exact arming_recordFire n
    | projectileThrow n => exact arming_recordProjectileThrow n
    | projectileDestroy n => exact arming_recordDetonation rfl ha
    | smokeStart n => exact arming_recordDetonation rfl ha
    | flashExplode n => exact arming_recordFlashExplode n
    | playerFlashed n => exact arming_recordFlashed n
    | _ => cases hq

/-! ## What blinding a player leaves of a flash -/

section Blinded

variable {s : MatchState} {α : Type} {g : FlashEffect → α}

/-- Blinding a player changes nothing of any flash but whom it blinded. -/
theorem map_get?_attachBlinding (hk : Keyed s) (hg : ∀ e affected, g { e with affected } = g e) (entity : EntityId)
    (player : PlayerId) (duration : Float) (k : EntityId) :
    ((s.attachBlinding entity player duration).tables.flashes.get? k).map g = (s.tables.flashes.get? k).map g := by
  unfold attachBlinding
  split
  · rfl
  · next effect he =>
    split
    · rfl
    · rw [tables_modifyGrenade]
      refine (congrArg (Option.map g) (Table.get?_insert _ _ _ _)).trans ?_
      split
      · next hentity =>
        have hown : entity = k := (hk.own he).symm.trans hentity
        rw [← hown, he]
        exact congrArg some (hg effect _)
      · rfl

theorem map_get?_placeBlinding (hk : Keyed s) (hg : ∀ e affected, g { e with affected } = g e) (m : FlashMatching)
    (player thrower : PlayerId) (tick : Tick) (duration : Float) (k : EntityId) :
    ((s.placeBlinding m player thrower tick duration).tables.flashes.get? k).map g =
      (s.tables.flashes.get? k).map g := by
  unfold placeBlinding
  split
  · exact map_get?_attachBlinding hk hg _ _ _ k
  · rfl

end Blinded

/-! ## Before the first round -/

/-- There are no grenades before the first round. -/
def Unarmed (s : MatchState) : Prop := s.round.number = 0 → s.tables = {} ∧ s.grenades = []

namespace Unarmed

variable {s s' : MatchState}

theorem calm (h : Unarmed s) (hc : Calm s s') : Unarmed s' := by
  intro hn
  obtain ⟨ht, hg⟩ := h (hc.number ▸ hn)
  refine ⟨hc.tables.trans ht, ?_⟩
  have htraces := hc.traces
  rw [hg] at htraces
  exact List.map_eq_nil_iff.1 htraces

theorem restart (h : Unarmed s) : s.restart.tables = {} ∧ s.restart.grenades = [] := by
  unfold MatchState.restart
  split
  · next hr =>
    simp only [Bool.and_eq_true, decide_eq_true_eq] at hr
    exact h hr.1
  · exact ⟨rfl, rfl⟩

theorem arming {c : Config} {tick : Tick} {e : Event} (hs : s.course.Sound) (h : Unarmed s)
    (ha : Arming c s tick e s') : Unarmed s' := by
  have started (ho : s.round.isOpen = true) : s.round.number ≠ 0 :=
    Nat.ne_of_gt (hs.opened (phase_of_isOpen s ho))
  have numbered {t : MatchState} (ho : s.round.isOpen = true) (hn : t.round.number = s.round.number) : Unarmed t :=
    fun hz => absurd (hn ▸ hz) (started ho)
  cases ha with
  | spared _ _ hc => exact h.calm hc
  | restarted => exact fun _ => h.restart
  | begun =>
    intro hz
    cases hz
  | fired ho _ hc => exact numbered ho hc.number
  | unseen ho => exact numbered ho (by rw [noteThrower_eq])
  | detonated ho =>
    refine numbered ho ?_
    unfold recordGrenade
    rw [noteThrower_eq]
  | moved ho =>
    obtain ⟨_, _, _, _, hs, -⟩ := flashWork_moveFlash s _ tick _
    exact numbered ho (by rw [hs])
  | blinded ho => exact numbered ho (congrArg Round.number (placeBlinding_frame _ _ _ _ _ _).1)
  | thrown ho | exploded ho => exact numbered ho rfl

end Unarmed

end MatchState

namespace Processor

open MatchState

variable {header : Header} {config : Config} {p : Processor}

/-- **Induction on what a stream does to grenades.** -/
theorem Fresh.traces_arming (h : Fresh header config p) {P : List TimedEvent → MatchState → Prop}
    (hnew : P [] (MatchState.new header config))
    (hcalm : ∀ {events s s'}, Calm s s' → P events s → P events s')
    (harm : ∀ {events e s'}, Arming config ((p.after events).state.advance e.tick) e.tick e.event s' →
      P events ((p.after events).state.advance e.tick) → P (events ++ [e]) s')
    (events : List TimedEvent) : P events (p.after events).state :=
  h.traces hnew (fun _ e hp => hcalm (.sightActors _ e)
    (harm (arming_respond config _ e.tick e.event) (hcalm (.advance _ e.tick) hp))) events

theorem Fresh.unarmed (h : Fresh header config p) (events : List TimedEvent) : (p.after events).state.Unarmed :=
  h.traces_arming (P := fun _ s => s.Unarmed) (fun _ => ⟨rfl, rfl⟩) (fun hc hs => hs.calm hc)
    (fun {events e _} ha hs => Unarmed.arming (s := (p.after events).state.advance e.tick) (h.sound events) hs ha) events

end Processor

end Scorebook
