import Scorebook.Proofs.History
import Scorebook.Proofs.Course
/-!
# What an event does to gunfights

Most events enter neither a hit nor a gunfight (`Lull`).  `Combat` lists the others, and `combat_respond` says that
there is nothing else: whatever holds of gunfights and damages throughout a match is proved from this list.
-/
namespace Scorebook

namespace MatchState

/-! ## What leaves gunfights alone -/

/-- No hit, no gunfight and no record of a round is entered, and no round begins. -/
structure Lull (s s' : MatchState) : Prop where
  gunfights : s'.gunfights = s.gunfights
  damages : s'.damages = s.damages
  playerRounds : s'.playerRounds = s.playerRounds
  number : s'.round.number = s.round.number
  kills : s'.round.kills = s.round.kills

namespace Lull

variable {s s' s'' : MatchState}

theorem refl (s : MatchState) : Lull s s := ⟨rfl, rfl, rfl, rfl, rfl⟩

theorem trans (h : Lull s s') (h' : Lull s' s'') : Lull s s'' where
  gunfights := h'.gunfights.trans h.gunfights
  damages := h'.damages.trans h.damages
  playerRounds := h'.playerRounds.trans h.playerRounds
  number := h'.number.trans h.number
  kills := h'.kills.trans h.kills

theorem observe (s : MatchState) (a : Actor) : Lull s (s.observe a) := by
  rw [observe_eq]
  exact ⟨rfl, rfl, rfl, rfl, rfl⟩

theorem observeOptional (s : MatchState) (a : Option Actor) : Lull s (s.observeOptional a) := by
  cases a with
  | none => exact .refl s
  | some a => exact .observe s a

theorem recordDeath (s : MatchState) (victim : Actor) (cause : ExitCause) (tick : Tick) :
    Lull s (s.recordDeath victim cause tick) :=
  (observe s victim).trans ⟨rfl, rfl, rfl, rfl, rfl⟩

theorem fire (s : MatchState) (a : Actor) (w : Weapon) (tick : Tick) : Lull s (s.fire a w tick) := by
  unfold MatchState.fire
  split
  · exact ⟨rfl, rfl, rfl, rfl, rfl⟩
  · split
    · exact ⟨rfl, rfl, rfl, rfl, rfl⟩
    · exact .refl s

theorem noteThrower (s : MatchState) (n : ProjectileNotice) (tick : Tick) : Lull s (s.noteThrower n tick) := by
  rw [noteThrower_eq]
  exact ⟨rfl, rfl, rfl, rfl, rfl⟩

theorem recordGrenade (s : MatchState) (n : ProjectileNotice) (thrown : Throw) (tick : Tick) :
    Lull s (s.recordGrenade n thrown tick) :=
  (noteThrower s n tick).trans ⟨rfl, rfl, rfl, rfl, rfl⟩

theorem flashWork (h : FlashWork s s') : Lull s s' := by
  obtain ⟨_, _, _, _, rfl, -⟩ := h
  exact ⟨rfl, rfl, rfl, rfl, rfl⟩

theorem advance (s : MatchState) (tick : Tick) : Lull s (s.advance tick) := ⟨rfl, rfl, rfl, rfl, rfl⟩

theorem sightActors (s : MatchState) (e : TimedEvent) : Lull s (Processor.sightActors s e) :=
  ⟨rfl, rfl, rfl, rfl, rfl⟩

theorem closeState (s : MatchState) (c : Config) : Lull (s.settled c) (Processor.closeState s c) := by
  rw [closeState_settled]
  exact ⟨rfl, rfl, rfl, rfl, rfl⟩

end Lull

/-! ## What the other events do -/

/-- **What an event does to the gunfights of a match.** -/
inductive Combat (c : Config) (s : MatchState) (tick : Tick) : Event → MatchState → Prop where
  /-- Nothing. -/
  | spared {e : Event} {s' : MatchState} (h : Lull s s') : Combat c s tick e s'
  | restarted : Combat c s tick .matchStart s.restart
  | begun : Combat c s tick .roundStart ((s.settled c).opened tick)
  /-- A hit is entered, once its players are seen. -/
  | hit {n : HurtNotice} {victim : Actor} {weapon : Weapon} {taken : Int} {t : MatchState} (ho : s.round.isOpen = true)
      (hl : Lull s t) : Combat c s tick (.playerHurt n) (t.enterDamage n victim weapon taken tick)
  /-- A gunfight is entered, once its victim has left the round and its killer is seen. -/
  | fought {n : KillNotice} {killer victim : Actor} {weapon : Weapon} {t : MatchState} (ho : s.round.isOpen = true)
      (hne : killer.id ≠ victim.id) (hl : Lull s t) (ht : t.tables = s.tables) :
      Combat c s tick (.kill n) (t.enterGunfight s c n killer victim weapon tick)

theorem Answer.combat {c : Config} {s : MatchState} {tick : Tick} {e : Event} {step : Step MatchState}
    (h : Answer c s tick e step) : Combat c s tick e step.state := by
  cases h with
  | passed | idle => exact .spared (.refl s)
  | restarted => exact .restarted
  | begun => exact .begun
  | thawed hl =>
    unfold recordFreezeEnd
    rw [if_pos hl]
    exact .spared ⟨rfl, rfl, rfl, rfl, rfl⟩
  | decided =>
    rw [decideRound_eq]
    exact .spared ⟨rfl, rfl, rfl, rfl, rfl⟩
  | died => exact .spared (.recordDeath s _ _ tick)
  | weaponless => exact .spared (.recordDeath s _ _ tick)
  | killed ho _ _ _ hne =>
    refine .fought ho hne ((Lull.recordDeath s _ _ tick).trans (.observe _ _)) ?_
    rw [observe_tables]
    exact observe_tables s _
  | hit ho => exact .hit ho ((Lull.observe s _).trans (.observeOptional _ _))
  | fired => exact .spared ((Lull.fire s _ _ tick).trans (.observe _ _))
  | thrown => exact .spared ⟨rfl, rfl, rfl, rfl, rfl⟩
  | unseen => exact .spared (.noteThrower s _ tick)
  | detonated => exact .spared (.recordGrenade s _ _ tick)
  | flashMoved => exact .spared (.flashWork (flashWork_moveFlash s _ tick _))
  | flashUnseen => exact .spared ((Lull.noteThrower s _ tick).trans (.flashWork (flashWork_startFlash _ _ _ _ _ _)))
  | flashStarted =>
    exact .spared ((Lull.recordGrenade s _ _ tick).trans (.flashWork (flashWork_startFlash _ _ _ _ _ _)))
  | @blinded n player =>
    have hnote : Lull s (s.noteBlinded player.id) := ⟨rfl, rfl, rfl, rfl, rfl⟩
    exact .spared (hnote.trans (.flashWork (flashWork_placeBlinding _ _ _ _ _ _)))
  | bombed => exact .spared ((Lull.observeOptional s _).trans ⟨rfl, rfl, rfl, rfl, rfl⟩)
  | shown => exact .spared (.observe s _)
  | left | gone => exact .spared ⟨rfl, rfl, rfl, rfl, rfl⟩

/-- **Whatever an event does to gunfights is one of the list.** -/
theorem combat_respond (c : Config) (s : MatchState) (tick : Tick) (e : Event) :
    Combat c s tick e (respond c s tick e).state :=
  (answer_respond c s tick e).combat

/-! ## A gunfight that is entered -/

section Entered

variable (s before : MatchState) (c : Config) (n : KillNotice) (killer victim : Actor) (weapon : Weapon) (tick : Tick)

/-- The gunfight of a kill, with the part that flashes had in it. -/
def fought : Gunfight :=
  s.gunfightOf before c n killer victim weapon tick
    (if before.onOneSide killer victim then none else s.flashAssister? c killer.id victim.id tick)

/-- **A kill enters one gunfight**, as its players stood. -/
theorem enterGunfight_eq :
    ∃ players conditions tables grenades strayed,
      s.enterGunfight before c n killer victim weapon tick =
        { s with
          players, conditions, tables, grenades, strayed
          gunfights := s.gunfights ++ [s.fought before c n killer victim weapon tick]
          round := { s.round with kills := s.round.kills + 1 } } := by
  unfold enterGunfight fought
  cases before.onOneSide killer victim with
  | true => exact ⟨_, _, _, _, _, rfl⟩
  | false =>
    obtain ⟨_, _, _, _, hw, -⟩ := flashWork_markFlashes s c killer.id victim.id tick
    simp only [attributeFlashes, hw, Bool.false_eq_true, if_false]
    exact ⟨_, _, _, _, _, rfl⟩

end Entered

/-! ## A gunfight whose round is closed -/

/-- A gunfight as it stands when the round in progress is closed. -/
def settledGunfight (s : MatchState) (c : Config) (g : Gunfight) : Gunfight :=
  if g.round = s.round.number then
    Impact.apply s.clutches c.impact (if g.isTeamKill then g else s.withAssister c g)
  else g

theorem gunfights_settleRecords (s : MatchState) (c : Config) :
    (s.settleRecords c s.round.number).gunfights = s.gunfights.map (s.settledGunfight c) := by
  unfold settleRecords creditGrenades
  simp only [List.map_map]
  refine List.map_congr_left (fun g _ => ?_)
  unfold settledGunfight
  by_cases hr : g.round = s.round.number
  · cases ht : g.isTeamKill with
    | true => simp [hr, ht, clutches, sortedExits]
    | false =>
      have hround : (s.withAssister c g).round = s.round.number := hr
      simp [hr, ht, hround, clutches, sortedExits]
  · simp [hr]

/-- **Closing what is in progress leaves the gunfights as they are, or settles those of the round.** -/
theorem gunfights_settled (s : MatchState) (c : Config) :
    (s.settled c).gunfights = s.gunfights ∨ (s.settled c).gunfights = s.gunfights.map (s.settledGunfight c) := by
  unfold settled
  rw [closeRound_eq]
  split
  · split
    · exact .inr (gunfights_settleRecords s c)
    · exact .inl rfl
  · exact .inl rfl

theorem assister_apply (clutches : List Clutch) (c : ImpactConfig) (g : Gunfight) :
    (Impact.apply clutches c g).assister = g.assister := by
  unfold Impact.apply
  split <;> rfl

theorem asFought_settledGunfight (s : MatchState) (c : Config) (g : Gunfight) :
    (s.settledGunfight c g).asFought = g.asFought := by
  unfold settledGunfight
  split
  · rw [asFought_apply]
    split <;> rfl
  · rfl

end MatchState

namespace Processor

open MatchState

variable {header : Header} {config : Config} {p q : Processor}

/-- **Induction on what a stream does to gunfights.** -/
theorem Fresh.traces_combat (h : Fresh header config p) {P : MatchState → Prop}
    (hnew : P (MatchState.new header config))
    (hlull : ∀ {s s' : MatchState}, Lull s s' → P s → P s')
    (hcombat : ∀ {events : List TimedEvent} {e : TimedEvent} {s' : MatchState},
      Combat config ((p.after events).state.advance e.tick) e.tick e.event s' →
        P ((p.after events).state.advance e.tick) → P s') (events : List TimedEvent) : P (p.after events).state := by
  refine h.traces (P := fun _ s => P s) hnew (fun events e hp => ?_) events
  have hstep := hcombat (combat_respond config _ e.tick e.event) (hlull (.advance _ e.tick) hp)
  exact hlull (.sightActors _ e) hstep

/-- What stays when a match is closed, too, holds of every state of it. -/
theorem Fresh.holds_combat (h : Fresh header config p) {P : MatchState → Prop} (hnew : P (MatchState.new header config))
    (hlull : ∀ {s s' : MatchState}, Lull s s' → P s → P s') (hclose : ∀ {s : MatchState}, P s → P (s.settled config))
    (hcombat : ∀ {events : List TimedEvent} {e : TimedEvent} {s' : MatchState},
      Combat config ((p.after events).state.advance e.tick) e.tick e.event s' →
        P ((p.after events).state.advance e.tick) → P s') (hq : Follows p q) : P q.state := by
  obtain ⟨events, hr⟩ := h.reaches_of_follows hq
  refine h.holds_of_reaches (fun s hs => ?_) (h.traces_combat hnew hlull hcombat events) hr
  exact hlull (.closeState s config) (hclose hs)

end Processor

end Scorebook
