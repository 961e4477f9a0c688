import Scorebook.Proofs.Introductions
import Scorebook.Proofs.ProgressReport
/-!
# Spectators

An event moves the clock of a match and sights its players, whoever they are, and nobody asks for the clock, or for a
sighting of anybody but the thrower of a grenade.  So two matches that are apart in their clocks and in where one
player was sighted stay apart in nothing else (`Apart.next`), as long as that player is in none of the events.  A
spectator of whom nothing is known leaves nothing but such traces (`Unknown.apart_next`).
-/
namespace Scorebook

/-- Whether an event does no more than show a player among the spectators: the player connects, disconnects or changes
teams there. -/
def Event.spectates (id : PlayerId) : Event → Bool
  | .playerConnect a | .playerDisconnect a => a.id = id && a.allegiance.side?.isNone
  | .playerTeamChange n => n.player.any (·.id = id) && n.newTeam.side?.isNone
  | _ => false

namespace Event

variable {id : PlayerId}

theorem id_of_spectates {e : Event} (h : e.spectates id = true) {a : Actor} (ha : a ∈ e.actors) : a.id = id := by
  cases e with
  | playerConnect b | playerDisconnect b =>
    simp only [spectates, Bool.and_eq_true, decide_eq_true_eq] at h
    rw [List.mem_singleton.1 ha]
    exact h.1
  | playerTeamChange n =>
    simp only [spectates, Bool.and_eq_true, Option.any_eq_true, decide_eq_true_eq] at h
    obtain ⟨⟨b, hb, hbid⟩, -⟩ := h
    have hab : n.player = some a := Option.mem_toList.1 ha
    rw [hb] at hab
    cases hab
    exact hbid
  | _ => cases h

theorem decides_of_spectates {s : MatchState} {e : TimedEvent} (h : e.event.spectates id = true) :
    s.decides e = [] := by
  obtain ⟨tick, e⟩ := e
  cases e <;> first | rfl | cases h

end Event

namespace MatchState

/-- A match with another clock and other sightings. -/
def resighted (s : MatchState) (tick : Tick) (sightings : Sightings) : MatchState :=
  { s with currentTick := tick, sightings }

/-! ## What is read of the clock and the sightings

Each operation does with another clock and other sightings what it does with these.
-/

section Resighted

variable (s : MatchState) (now : Tick) (v : Sightings)

@[simp] theorem isOpen_resighted : (s.resighted now v).round.isOpen = s.round.isOpen := rfl

@[simp] theorem tables_resighted : (s.resighted now v).tables = s.tables := rfl

@[simp] theorem grenades_resighted : (s.resighted now v).grenades = s.grenades := rfl

@[simp] theorem sameTeam?_resighted (a b : PlayerId) : (s.resighted now v).sameTeam? a b = s.sameTeam? a b := rfl

@[simp] theorem onOneSide_resighted (a b : Actor) : (s.resighted now v).onOneSide a b = s.onOneSide a b := rfl

@[simp] theorem observe_resighted (a : Actor) : (s.resighted now v).observe a = (s.observe a).resighted now v := by
  cases h : a.allegiance.side? with
  | none => simp only [observe_spectator _ h]; rfl
  | some side => simp only [observe_player _ h]; rfl

@[simp] theorem observeOptional_resighted (a : Option Actor) :
    (s.resighted now v).observeOptional a = (s.observeOptional a).resighted now v := by
  cases a with
  | none => rfl
  | some a => exact observe_resighted s now v a

theorem foldl_resighted {α : Type} {f : MatchState → α → MatchState}
    (hf : ∀ s a, f (s.resighted now v) a = (f s a).resighted now v) :
    ∀ (l : List α) (s : MatchState), l.foldl f (s.resighted now v) = (l.foldl f s).resighted now v
  | [], _ => rfl
  | a :: l, s => by
    rw [List.foldl_cons, List.foldl_cons, hf]
    exact foldl_resighted hf l _

@[simp] theorem modifyGrenade_resighted (place : Option Nat) (f : Grenade → Grenade) :
    (s.resighted now v).modifyGrenade place f = (s.modifyGrenade place f).resighted now v := by
  cases place with
  | none => rfl
  | some i => by_cases hi : i < s.grenades.length <;> simp only [modifyGrenade, grenades_resighted, hi] <;> rfl

@[simp] theorem attachBlinding_resighted (entity : EntityId) (player : PlayerId) (duration : Float) :
    (s.resighted now v).attachBlinding entity player duration =
      (s.attachBlinding entity player duration).resighted now v := by
  simp only [attachBlinding, tables_resighted, sameTeam?_resighted]
  cases s.tables.flashes.get? entity with
  | none => rfl
  | some effect =>
    cases ha : effect.affected.any (·.player = player) with
    | true => simp only [ha, if_true]
    | false =>
      simp only [ha, Bool.false_eq_true, if_false]
      exact modifyGrenade_resighted (s.setFlash _) now v _ _

theorem placeBlinding_resighted (m : FlashMatching) (player thrower : PlayerId) (tick : Tick) (duration : Float) :
    (s.resighted now v).placeBlinding m player thrower tick duration =
      (s.placeBlinding m player thrower tick duration).resighted now v := by
  have hfound : (s.resighted now v).flashOf? m thrower tick = s.flashOf? m thrower tick := rfl
  simp only [placeBlinding, hfound]
  cases s.flashOf? m thrower tick with
  | none => rfl
  | some entity => exact attachBlinding_resighted s now v entity player duration

theorem startFlash_resighted (c : Config) (n : ProjectileNotice) (thrower : PlayerId) (tick : Tick)
    (place : Option Nat) :
    (s.resighted now v).startFlash c n thrower tick place = (s.startFlash c n thrower tick place).resighted now v := by
  have hdrain (s : MatchState) (waiting ready : List PendingBlinding) :
      ready.foldl (fun (s : MatchState) p => s.attachBlinding n.entity p.player p.duration)
          { s.resighted now v with tables := { s.tables with pendingBlindings := waiting } } =
        (ready.foldl (fun (s : MatchState) p => s.attachBlinding n.entity p.player p.duration)
          { s with tables := { s.tables with pendingBlindings := waiting } }).resighted now v :=
    foldl_resighted now v (fun s p => attachBlinding_resighted s now v n.entity p.player p.duration) ready
      { s with tables := { s.tables with pendingBlindings := waiting } }
  exact hdrain (s.setFlash _) _ _

theorem markFlashes_resighted (c : Config) (killer victim : PlayerId) (tick : Tick) :
    (s.resighted now v).markFlashes c killer victim tick = (s.markFlashes c killer victim tick).resighted now v :=
  foldl_resighted now v (fun s _ => modifyGrenade_resighted s now v _ _) (s.swingingFlashes c killer victim tick) s

theorem settled_resighted (c : Config) : (s.resighted now v).settled c = (s.settled c).resighted now v := by
  have hunsettled : (s.resighted now v).isUnsettled = s.isUnsettled := rfl
  have hclose : (s.resighted now v).closeRound c = (s.closeRound c).resighted now v := by
    cases hu : s.isUnsettled <;> simp only [closeRound_eq, hunsettled, hu] <;> rfl
  cases ho : s.round.isOpen <;> simp only [settled, isOpen_resighted, ho, hclose] <;> rfl

theorem enterGunfight_resighted (before : MatchState) (c : Config) (n : KillNotice) (killer victim : Actor)
    (weapon : Weapon) (tick : Tick) :
    (s.resighted now v).enterGunfight (before.resighted now v) c n killer victim weapon tick =
      (s.enterGunfight before c n killer victim weapon tick).resighted now v := by
  cases hside : before.onOneSide killer victim with
  | true =>
    simp only [enterGunfight, onOneSide_resighted, hside, if_true]
    rfl
  | false =>
    simp only [enterGunfight, onOneSide_resighted, hside, Bool.false_eq_true, if_false, attributeFlashes,
      markFlashes_resighted]
    rfl

theorem recordKill_resighted (c : Config) (n : KillNotice) (tick : Tick) :
    ((s.resighted now v).recordKill c n tick).state = (s.recordKill c n tick).state.resighted now v := by
  have hdeath (victim : Actor) (cause : ExitCause) :
      (s.resighted now v).recordDeath victim cause tick = (s.recordDeath victim cause tick).resighted now v := by
    rw [recordDeath, observe_resighted]
    rfl
  simp only [recordKill, isOpen_resighted, hdeath]
  cases s.round.isOpen with
  | false => rfl
  | true =>
    simp only [Bool.not_true, Bool.false_eq_true, if_false]
    cases n.victim with
    | none => rfl
    | some victim =>
      cases n.killer with
      | none => rfl
      | some killer =>
        by_cases hself : killer.id = victim.id
        · simp only [hself, if_true]
          rfl
        · simp only [hself, if_false]
          cases n.weapon with
          | none => rfl
          | some weapon => simp only [observe_resighted, enterGunfight_resighted]

theorem recordHurt_resighted (n : HurtNotice) (tick : Tick) :
    ((s.resighted now v).recordHurt n tick).state = (s.recordHurt n tick).state.resighted now v := by
  simp only [recordHurt, isOpen_resighted]
  cases s.round.isOpen with
  | false => rfl
  | true =>
    simp only [Bool.not_true, Bool.false_eq_true, if_false]
    cases n.player with
    | none => rfl
    | some victim =>
      cases n.weapon with
      | none => rfl
      | some weapon =>
        cases hd : decide (n.healthDamage < 0) || decide (n.armorDamage < 0) with
        | true => rfl
        | false =>
          simp only [Bool.false_eq_true, if_false, observe_resighted, observeOptional_resighted]
          rfl

theorem detonate_resighted (n : ProjectileNotice) (tick : Tick) :
    (s.resighted now v).detonate n tick = ((s.detonate n tick).1.resighted now v, (s.detonate n tick).2) := by
  have henter (s : MatchState) :
      (s.resighted now v).enterGrenade n tick =
        ((s.enterGrenade n tick).1.resighted now v, (s.enterGrenade n tick).2) := by
    simp only [enterGrenade, tables_resighted]
    cases s.tables.throws.get? n.entity <;> rfl
  have hthrower : (s.resighted now v).throwerOf? n = s.throwerOf? n := rfl
  simp only [detonate, hthrower, tables_resighted]
  cases s.throwerOf? n with
  | none => exact henter s
  | some thrower =>
    cases hd : s.tables.detonations.contains (thrower, tick) with
    | true => simp only [hd, if_true]
    | false =>
      simp only [hd, Bool.false_eq_true, if_false]
      exact henter (s.noteDetonation thrower tick)

theorem recordDetonation_resighted (n : ProjectileNotice) (tick : Tick) :
    ((s.resighted now v).recordDetonation n tick).state = (s.recordDetonation n tick).state.resighted now v := by
  simp only [recordDetonation, isOpen_resighted, tables_resighted, detonate_resighted]
  cases s.round.isOpen with
  | false => rfl
  | true =>
    simp only [Bool.not_true, Bool.false_eq_true, if_false]
    cases n.weapon.grenadeKind? with
    | none => rfl
    | some kind =>
      cases hk : decide (kind = .flashbang) || s.tables.records.contains n.entity with
      | true => simp only [hk, if_true]
      | false =>
        simp only [hk, Bool.false_eq_true, if_false]
        rcases s.detonate n tick with ⟨s', _ | _ | _⟩ <;> rfl

theorem recordFlashExplode_resighted (c : Config) (n : ProjectileNotice) (tick : Tick) :
    ((s.resighted now v).recordFlashExplode c n tick).state =
      (s.recordFlashExplode c n tick).state.resighted now v := by
  simp only [recordFlashExplode, isOpen_resighted, tables_resighted, detonate_resighted]
  cases s.round.isOpen with
  | false => rfl
  | true =>
    simp only [Bool.not_true, Bool.false_eq_true, if_false]
    cases n.thrower with
    | none => rfl
    | some thrower =>
      cases s.tables.flashes.get? n.entity with
      | some effect => exact modifyGrenade_resighted (s.setFlash _) now v _ _
      | none =>
        rcases s.detonate n tick with ⟨s', _ | _ | _⟩
        · exact startFlash_resighted s' now v c n _ tick _
        · rfl
        · exact startFlash_resighted s' now v c n _ tick _

theorem recordFlashed_resighted (c : Config) (n : FlashedNotice) (tick : Tick) :
    ((s.resighted now v).recordFlashed c n tick).state = (s.recordFlashed c n tick).state.resighted now v := by
  cases ho : s.round.isOpen with
  | false => simp only [recordFlashed, isOpen_resighted, ho]; rfl
  | true =>
    simp only [recordFlashed, isOpen_resighted, ho, Bool.not_true, Bool.false_eq_true, if_false]
    cases n.player with
    | none => rfl
    | some player =>
      cases n.attacker with
      | none => rfl
      | some thrower =>
        by_cases hd : n.duration.toFloat ≤ 0
        · simp only [hd, if_true]
        · simp only [hd, if_false]
          exact placeBlinding_resighted (s.noteBlinded player.id) now v _ _ _ tick _

theorem recordBomb_resighted (kind : RoundMarkKind) (n : BombNotice) (tick : Tick) :
    ((s.resighted now v).recordBomb kind n tick).state = (s.recordBomb kind n tick).state.resighted now v := by
  simp only [recordBomb, isOpen_resighted, observeOptional_resighted]
  cases s.round.isOpen <;> rfl

theorem recordDisconnect_resighted (a : Actor) (tick : Tick) :
    ((s.resighted now v).recordDisconnect a tick).state = (s.recordDisconnect a tick).state.resighted now v := by
  have hknown : (s.resighted now v).players.contains a.id = s.players.contains a.id := rfl
  have hplays : ((s.resighted now v).setConnected a.id false).isInPlay a.id =
      (s.setConnected a.id false).isInPlay a.id := rfl
  simp only [recordDisconnect, hknown, hplays]
  cases s.players.contains a.id with
  | false => rfl
  | true => cases (s.setConnected a.id false).isInPlay a.id <;> rfl

theorem recordFreezeEnd_resighted (tick : Tick) :
    (s.resighted now v).recordFreezeEnd tick = (s.recordFreezeEnd tick).resighted now v := by
  have hphase : (s.resighted now v).round.phase = s.round.phase := rfl
  by_cases hl : s.round.phase = .live <;> simp only [recordFreezeEnd, hphase, hl] <;> rfl

theorem restart_resighted : (s.resighted now v).restart = s.restart.resighted now v := by
  have hround : (s.resighted now v).round = s.round := rfl
  have hfights : (s.resighted now v).gunfights = s.gunfights := rfl
  simp only [restart, hround, hfights]
  cases decide (s.round.number = 0) && s.gunfights.isEmpty <;> rfl

theorem decideRound_resighted (n : RoundEndNotice) (tick : Tick) :
    (s.resighted now v).decideRound n tick = (s.decideRound n tick).resighted now v := by
  rw [decideRound_eq, decideRound_eq]
  rfl

-- a throw tells of the movement of the thrower, which may be read off the last sighting

variable {s v}

/-- **Of the sightings a throw reads that of the thrower.** -/
theorem captureThrow_resighted {a : Actor} (h : v.get? a.id = s.sightings.get? a.id) (kind : GrenadeKind) (tick : Tick) :
    (s.resighted now v).captureThrow a kind tick = s.captureThrow a kind tick := by
  have hspeed : v.speed? a tick s.tickRate = s.sightings.speed? a tick s.tickRate := by
    rw [Sightings.speed?, Sightings.speed?, Sightings.estimatedSpeed?, Sightings.estimatedSpeed?, h]
  have hmoves : v.classify a tick s.tickRate = s.sightings.classify a tick s.tickRate := by
    rw [Sightings.classify, Sightings.classify, hspeed]
  show { s.captureThrow a kind tick with movement := (v.classify a tick s.tickRate).label } = _
  rw [hmoves]
  rfl

theorem recordFire_resighted {n : FireNotice} (h : ∀ a ∈ n.shooter, v.get? a.id = s.sightings.get? a.id) (tick : Tick) :
    ((s.resighted now v).recordFire n tick).state = (s.recordFire n tick).state.resighted now v := by
  cases ho : s.round.isOpen with
  | false =>
    simp only [recordFire, isOpen_resighted, ho]
    rfl
  | true =>
    simp only [recordFire, isOpen_resighted, ho, Bool.not_true, Bool.false_eq_true, if_false]
    cases hs : n.shooter with
    | none => rfl
    | some shooter =>
      cases n.weapon with
      | none => rfl
      | some weapon =>
        have hfire : (s.resighted now v).fire shooter weapon tick = (s.fire shooter weapon tick).resighted now v := by
          unfold fire
          cases weapon.grenadeKind? with
          | some kind =>
            simp only [recordGrenadeFire, captureThrow_resighted now (h shooter hs)]
            rfl
          | none => cases weapon.isFirearm <;> rfl
        simp only [hfire, observe_resighted]

theorem recordProjectileThrow_resighted {n : ProjectileNotice}
    (h : ∀ a ∈ n.thrower, v.get? a.id = s.sightings.get? a.id) (tick : Tick) :
    ((s.resighted now v).recordProjectileThrow n tick).state =
      (s.recordProjectileThrow n tick).state.resighted now v := by
  cases ho : s.round.isOpen with
  | false =>
    simp only [recordProjectileThrow, isOpen_resighted, ho]
    rfl
  | true =>
    simp only [recordProjectileThrow, isOpen_resighted, ho, Bool.not_true, Bool.false_eq_true, if_false]
    cases ht : n.thrower with
    | none => rfl
    | some thrower =>
      cases n.weapon.grenadeKind? with
      | none => rfl
      | some kind =>
        simp only [bindThrow, captureThrow_resighted now (h thrower ht)]
        rfl

end Resighted

/-! ## Two matches that differ in traces of one player -/

/-- Nothing is known of a player. -/
def Unknown (id : PlayerId) (s : MatchState) : Prop :=
  s.players.contains id = false ∧ s.conditions.contains id = false

theorem get?_sighted {v w : Sightings} {k : PlayerId} (h : v.get? k = w.get? k) (tick : Tick) :
    ∀ actors : List Actor,
      (actors.foldl (fun t a => t.observe a tick) v).get? k = (actors.foldl (fun t a => t.observe a tick) w).get? k
  | [] => h
  | a :: actors => by
    refine get?_sighted ?_ tick actors
    show (v.observe a tick).get? k = (w.observe a tick).get? k
    rw [Sightings.observe, Sightings.observe, Table.get?_insert, Table.get?_insert, h]

theorem get?_sighted_of_ne {v : Sightings} {k : PlayerId} (tick : Tick) :
    ∀ {actors : List Actor}, (∀ a ∈ actors, a.id ≠ k) →
      (actors.foldl (fun t a => t.observe a tick) v).get? k = v.get? k
  | [], _ => rfl
  | a :: actors, h => by
    refine (get?_sighted ?_ tick actors).trans
      (get?_sighted_of_ne tick (fun b hb => h b (List.mem_cons_of_mem _ hb)))
    exact Table.get?_insert_of_ne v _ (h a List.mem_cons_self)

/-- Two matches that differ in nothing but the clock and where one player was sighted. -/
def Apart (id : PlayerId) (s s' : MatchState) : Prop :=
  ∃ now sightings, s' = s.resighted now sightings ∧ ∀ k, k ≠ id → sightings.get? k = s.sightings.get? k

namespace Apart

variable {id : PlayerId} {s s' : MatchState}

theorem refl (id : PlayerId) (s : MatchState) : Apart id s s := ⟨_, _, rfl, fun _ _ => rfl⟩

/-- What neither reads nor changes what may differ keeps it apart, and nothing else. -/
theorem of_resighted {f : MatchState → MatchState}
    (hf : ∀ now v, (∀ k, k ≠ id → v.get? k = s.sightings.get? k) → f (s.resighted now v) = (f s).resighted now v)
    (h : Apart id s s') : Apart id (f s) (f s') := by
  obtain ⟨now, v, rfl, hv⟩ := h
  have hsame : f s = (f s).resighted s.currentTick s.sightings := hf s.currentTick s.sightings (fun _ _ => rfl)
  have hkeep : (f s).sightings = s.sightings := by
    rw [hsame]
    rfl
  refine ⟨now, v, hf now v hv, fun k hk => ?_⟩
  rw [hkeep]
  exact hv k hk

theorem advance (h : Apart id s s') (tick : Tick) : Apart id (s.advance tick) (s'.advance tick) := by
  obtain ⟨now, v, rfl, hv⟩ := h
  exact ⟨_, v, rfl, hv⟩

theorem opened (h : Apart id s s') (tick : Tick) : Apart id (s.opened tick) (s'.opened tick) := by
  obtain ⟨now, v, rfl, -⟩ := h
  exact ⟨now, ∅, rfl, fun _ _ => rfl⟩

/-- **What an event does to a match does not depend on what may differ**, if the player is not in the event. -/
theorem respond (h : Apart id s s') (c : Config) (tick : Tick) {e : Event} (he : ∀ a ∈ e.actors, a.id ≠ id) :
    Apart id (respond c s tick e).state (respond c s' tick e).state := by
  by_cases hr : e = .roundStart
  · subst hr
    exact (h.of_resighted (f := (·.settled c)) (fun now v _ => settled_resighted s now v c)).opened tick
  refine h.of_resighted (f := fun s => (MatchState.respond c s tick e).state) (fun now v hv => ?_)
  cases e with
  | roundStart => exact absurd rfl hr
  | matchStart => exact restart_resighted s now v
  | freezeEnd => exact recordFreezeEnd_resighted s now v tick
  | roundEnd n =>
    have hphase : (s.resighted now v).round.phase = s.round.phase := rfl
    by_cases hl : s.round.phase = .live
    · simp only [MatchState.respond, hphase, hl, if_true, decideRound_resighted]
    · simp only [MatchState.respond, hphase, hl, if_false]
      rfl
  | kill n => exact recordKill_resighted s now v c n tick
  | playerHurt n => exact recordHurt_resighted s now v n tick
  | weaponFire n => exact recordFire_resighted now (fun a ha => hv a.id (he a (Option.mem_toList.2 ha))) tick
  | projectileThrow n =>
    exact recordProjectileThrow_resighted now (fun a ha => hv a.id (he a (Option.mem_toList.2 ha))) tick
  | projectileDestroy n | smokeStart n => exact recordDetonation_resighted s now v n tick
  | flashExplode n => exact recordFlashExplode_resighted s now v c n tick
  | playerFlashed n => exact recordFlashed_resighted s now v c n tick
  | bombPlanted n | bombDefused n | bombExploded n => exact recordBomb_resighted s now v _ n tick
  | playerConnect a => exact observe_resighted s now v a
  | playerDisconnect a => exact recordDisconnect_resighted s now v a tick
  | playerTeamChange n =>
    simp only [MatchState.respond, Processor.handle, recordTeamChange]
    cases n.player with
    | none => rfl
    | some a => exact observe_resighted s now v _

theorem trans {s'' : MatchState} (h : Apart id s s') (h' : Apart id s' s'') : Apart id s s'' := by
  obtain ⟨now, v, rfl, hv⟩ := h
  obtain ⟨now', v', rfl, hv'⟩ := h'
  exact ⟨now', v', rfl, fun k hk => (hv' k hk).trans (hv k hk)⟩

theorem sightActors (h : Apart id s s') (e : TimedEvent) :
    Apart id (Processor.sightActors s e) (Processor.sightActors s' e) := by
  obtain ⟨now, v, rfl, hv⟩ := h
  refine ⟨now, _, rfl, fun k hk => ?_⟩
  exact get?_sighted (hv k hk) e.tick e.event.actors

theorem next (h : Apart id s s') (c : Config) {e : TimedEvent} (he : ∀ a ∈ e.event.actors, a.id ≠ id) :
    Apart id (s.next c e) (s'.next c e) :=
  ((h.advance e.tick).respond c e.tick he).sightActors e

theorem unknown (h : Apart id s s') (hu : Unknown id s) : Unknown id s' := by
  obtain ⟨_, _, rfl, -⟩ := h
  exact hu

theorem decides_eq (h : Apart id s s') (e : TimedEvent) : s'.decides e = s.decides e := by
  obtain ⟨_, _, rfl, -⟩ := h
  rfl

theorem number_eq (h : Apart id s s') : s'.round.number = s.round.number := by
  obtain ⟨_, _, rfl, -⟩ := h
  rfl

/-- **Neither the clock nor the sightings are in the report.** -/
theorem report_eq (h : Apart id s s') (c : Config) :
    Report.ofState (Processor.closeState s' c) = Report.ofState (Processor.closeState s c) := by
  obtain ⟨_, _, rfl, -⟩ := h
  rw [closeState_settled, closeState_settled, settled_resighted]
  rfl

end Apart

/-! ## What a spectator does -/

variable {id : PlayerId} {s s' : MatchState}

/-- **An event that shows a spectator changes nothing that is known.** -/
theorem Unknown.respond_eq (hu : Unknown id s) (c : Config) (tick : Tick) {e : Event} (he : e.spectates id = true) :
    (respond c s tick e).state = s := by
  have hknown : s.conditions.get? id = none := by simpa [Table.contains] using hu.2
  have hseen (a : Actor) (ha : a.id = id) (hs : a.allegiance.side? = none) : s.observe a = s := by
    rw [observe_spectator s hs, ha, Table.modify_of_get?_none hknown]
  cases e with
  | playerConnect a =>
    simp only [Event.spectates, Bool.and_eq_true, decide_eq_true_eq, Option.isNone_iff_eq_none] at he
    exact hseen a he.1 he.2
  | playerDisconnect a =>
    simp only [Event.spectates, Bool.and_eq_true, decide_eq_true_eq] at he
    have hgone : s.players.contains a.id = false := he.1 ▸ hu.1
    simp only [respond, Processor.handle, recordDisconnect, hgone]
    rfl
  | playerTeamChange n =>
    simp only [Event.spectates, Bool.and_eq_true, Option.any_eq_true, decide_eq_true_eq,
      Option.isNone_iff_eq_none] at he
    obtain ⟨⟨a, hn, ha⟩, hs⟩ := he
    simp only [respond, Processor.handle, recordTeamChange, hn]
    exact hseen _ ha hs
  | _ => cases he

/-- **After an event that shows a spectator**, the clock and the sighting of the spectator may differ, and nothing
else. -/
theorem Unknown.apart_next (hu : Unknown id s) (c : Config) {e : TimedEvent} (he : e.event.spectates id = true) :
    Apart id s (s.next c e) := by
  refine ⟨max s.currentTick e.tick, (Processor.sightActors s e).sightings, ?_, fun k hk => ?_⟩
  · have hsame := Unknown.respond_eq (s := s.advance e.tick) hu c e.tick he
    rw [MatchState.next, hsame]
    rfl
  · exact get?_sighted_of_ne e.tick (fun a ha => Event.id_of_spectates he ha ▸ hk.symm)

/-- **Nobody becomes known through the events of others.** -/
theorem Unknown.next (hu : Unknown id s) (c : Config) {e : TimedEvent} (he : ∀ a ∈ e.event.actors, a.id ≠ id) :
    Unknown id (s.next c e) := by
  refine (introduction_next c s e).keeps (P := Unknown id) (fun hk ht => ?_) (fun {t} a ha ht => ?_) hu
  · exact ⟨(Table.contains_eq_of_keys hk.players id).trans ht.1,
      (Table.contains_eq_of_keys hk.conditions id).trans ht.2⟩
  · obtain ⟨b, hb, hba⟩ := Event.actor_of_introduced ha
    have hne : a.id ≠ id := hba ▸ he b hb
    cases hs : a.allegiance.side? with
    | none =>
      rw [observe_spectator t hs]
      exact ⟨ht.1, (Table.contains_modify _ _ _ _).trans ht.2⟩
    | some side =>
      refine ⟨Bool.eq_false_iff.2 (fun hp => ?_), Bool.eq_false_iff.2 (fun hc => ?_)⟩
      · have hp := ((contains_players_observe hs id).1 hp).resolve_left hne
        rw [ht.1] at hp
        cases hp
      · have hc := ((contains_conditions_observe hs id).1 hc).resolve_left hne
        rw [ht.2] at hc
        cases hc

/-- **Without the events of a spectator a match decides the same rounds**, and comes to the same apart from the clock
and the spectator's sightings. -/
theorem Unknown.foldl (c : Config) : ∀ (events : List TimedEvent) {s s' : MatchState}, Unknown id s → Apart id s s' →
    (∀ e ∈ events, (∃ a ∈ e.event.actors, a.id = id) → e.event.spectates id = true) →
      Apart id ((events.filter (fun e => !e.event.spectates id)).foldl (MatchState.next c) s)
          (events.foldl (MatchState.next c) s') ∧
        decisions c s' events = decisions c s (events.filter (fun e => !e.event.spectates id))
  | [], _, _, _, h, _ => ⟨h, rfl⟩
  | e :: events, s, s', hu, h, hid => by
    have hlater : ∀ x ∈ events, (∃ a ∈ x.event.actors, a.id = id) → x.event.spectates id = true :=
      fun x hx => hid x (List.mem_cons_of_mem _ hx)
    cases he : e.event.spectates id with
    | true =>
      have hfilter : (e :: events).filter (fun e => !e.event.spectates id) =
          events.filter (fun e => !e.event.spectates id) := by simp [he]
      rw [hfilter, List.foldl_cons, decisions, Event.decides_of_spectates he, List.nil_append]
      exact Unknown.foldl c events hu (h.trans ((h.unknown hu).apart_next c he)) hlater
    | false =>
      have hother : ∀ a ∈ e.event.actors, a.id ≠ id := fun a ha hai => by
        have := hid e List.mem_cons_self ⟨a, ha, hai⟩
        rw [he] at this
        cases this
      have hfilter : (e :: events).filter (fun e => !e.event.spectates id) =
          e :: events.filter (fun e => !e.event.spectates id) := by simp [he]
      obtain ⟨hapart, hdecisions⟩ := Unknown.foldl c events (hu.next c hother) (h.next c hother) hlater
      rw [hfilter, List.foldl_cons, List.foldl_cons, decisions, decisions, h.decides_eq, hdecisions]
      exact ⟨hapart, rfl⟩

end MatchState

namespace Processor

variable {header : Header} {config : Config} {p : Processor}

/-- **A spectator has no influence.**  A player of whom a stream shows nothing but that the player comes, goes and
changes teams among the spectators may as well not be there: without these events the report and all updates are the
same. -/
theorem spectator_has_no_influence (h : Fresh header config p) {id : PlayerId} {events : List TimedEvent}
    (hid : ∀ e ∈ events, (∃ a ∈ e.event.actors, a.id = id) → e.event.spectates id = true) :
    ∃ r, (p.run events).result = .ok r ∧
      (p.run (events.filter (fun e => !e.event.spectates id))).result = .ok r ∧
      (p.run (events.filter (fun e => !e.event.spectates id))).updates = (p.run events).updates := by
  have hunknown : MatchState.Unknown id (MatchState.new header config) := ⟨rfl, rfl⟩
  obtain ⟨hapart, hdecisions⟩ := hunknown.foldl config events (.refl id _) hid
  rw [← h.after_state, ← h.after_state] at hapart
  refine ⟨_, (h.run_ok events).1, ?_, ?_⟩
  · rw [(h.run_ok _).1, hapart.report_eq]
  · rw [h.run_updates, h.run_updates, hdecisions, hapart.report_eq, hapart.number_eq]

/-- A coach comes, leaves twice and changes teams while player 7 throws a smoke. -/
theorem spectator_has_no_influence_while_smoke_flies :
    ∃ (p : Processor) (events : List TimedEvent) (r : Report),
      p = ({ config := {}, state := MatchState.new { mapName := "de_dust2" } {} } : Processor).withProgress ∧
      events =
        [⟨0, .playerConnect { id := 9, allegiance := .spectator }⟩,
         ⟨0, .playerConnect { id := 7, allegiance := .terrorist }⟩, ⟨1, .roundStart⟩,
         ⟨8, .playerDisconnect { id := 9 }⟩,
         ⟨9, .weaponFire { shooter := some { id := 7, allegiance := .terrorist }, weapon := some .smokeGrenade }⟩,
         ⟨90, .playerTeamChange
           { player := some { id := 9, allegiance := .terrorist }, newTeam := .spectator, oldTeam := .terrorist }⟩,
         ⟨10, .projectileThrow
           { entity := 3, weapon := .smokeGrenade, thrower := some { id := 7, allegiance := .terrorist },
             position := .zero }⟩,
         ⟨20, .smokeStart { entity := 3, weapon := .smokeGrenade, thrower := none, position := .zero }⟩,
         ⟨64, .roundEnd { winner := some .t, reason := .terroristsWin }⟩,
         ⟨99, .playerDisconnect { id := 9, allegiance := .spectator }⟩] ∧
      (∀ e ∈ events, (∃ a ∈ e.event.actors, a.id = 9) → e.event.spectates 9 = true) ∧
      (p.run events).result = .ok r ∧
      (p.run (events.filter (fun e => !e.event.spectates 9))).result = .ok r ∧
      (p.run (events.filter (fun e => !e.event.spectates 9))).updates = (p.run events).updates ∧
      (events.filter (fun e => !e.event.spectates 9)).length = 6 ∧ r.grenades.length = 1 := by
  have h : Fresh { mapName := "de_dust2" } {} _ := .heard (new_default rfl)
  have hid : ∀ e ∈ ([⟨0, .playerConnect { id := 9, allegiance := .spectator }⟩,
         ⟨0, .playerConnect { id := 7, allegiance := .terrorist }⟩, ⟨1, .roundStart⟩,
         ⟨8, .playerDisconnect { id := 9 }⟩,
         ⟨9, .weaponFire { shooter := some { id := 7, allegiance := .terrorist }, weapon := some .smokeGrenade }⟩,
         ⟨90, .playerTeamChange
           { player := some { id := 9, allegiance := .terrorist }, newTeam := .spectator, oldTeam := .terrorist }⟩,
         ⟨10, .projectileThrow
           { entity := 3, weapon := .smokeGrenade, thrower := some { id := 7, allegiance := .terrorist },
             position := .zero }⟩,
         ⟨20, .smokeStart { entity := 3, weapon := .smokeGrenade, thrower := none, position := .zero }⟩,
         ⟨64, .roundEnd { winner := some .t, reason := .terroristsWin }⟩,
         ⟨99, .playerDisconnect { id := 9, allegiance := .spectator }⟩] : List TimedEvent),
      (∃ a ∈ e.event.actors, a.id = 9) → e.event.spectates 9 = true := by decide
  obtain ⟨r, hr, hr', hu⟩ := spectator_has_no_influence h hid
  refine ⟨_, _, r, rfl, rfl, hid, hr, hr', hu, by decide, ?_⟩
  rw [(h.run_ok _).1] at hr
  cases hr
  decide +kernel

end Processor

end Scorebook
