import Scorebook.Processor
/-!
# What an event can come to

`MatchState.respond` is how a match answers an event, whoever listens.  `Answer` lists the answers, one case for
each thing that an event can do to a match, and `answer_respond` says that there are no others: whatever holds of
every answer is proved case by case from this list, and no handler is opened again.
-/
namespace Scorebook

namespace Event

/-- The notice of an event about the bomb, with the mark that it leaves. -/
def bomb? : Event → Option (RoundMarkKind × BombNotice)
  | .bombPlanted n => some (.bombPlanted, n)
  | .bombDefused n => some (.bombDefused, n)
  | .bombExploded n => some (.bombExploded, n)
  | _ => none

/-- The notice of a smoke that starts or a projectile that is gone. -/
def detonation? : Event → Option ProjectileNotice
  | .projectileDestroy n | .smokeStart n => some n
  | _ => none

def victim? : Event → Option PlayerId
  | .kill n => n.victim.map (·.id)
  | _ => none

/-- The actor that an event only shows: one who connects, or changes teams. -/
def shown? : Event → Option Actor
  | .playerConnect a => some a
  | .playerTeamChange n => n.player.map (fun a => { a with allegiance := n.newTeam })
  | _ => none

theorem victim_of_detonation {e : Event} {n : ProjectileNotice} (h : e.detonation? = some n) :
    e.victim? = none := by
  cases e <;> first | rfl | cases h

theorem victim_of_bomb {e : Event} {m : RoundMarkKind × BombNotice} (h : e.bomb? = some m) : e.victim? = none := by
  cases e <;> first | rfl | cases h

theorem victim_of_shown {e : Event} {a : Actor} (h : e.shown? = some a) : e.victim? = none := by
  cases e <;> first | rfl | cases h

end Event

namespace MatchState

def respond (c : Config) (s : MatchState) (tick : Tick) : Event → Step MatchState
  | .roundEnd n =>
    if s.round.phase = .live then { state := s.decideRound n tick }
    else .stop s (.noRoundInProgress "round_end")
  | e => Processor.handle c s tick e

/-- The match after a detonation was noted for its thrower, if the thrower is known. -/
def noteThrower (s : MatchState) (n : ProjectileNotice) (tick : Tick) : MatchState :=
  match s.throwerOf? n with
  | none => s
  | some thrower => s.noteDetonation thrower tick

def recordGrenade (s : MatchState) (n : ProjectileNotice) (thrown : Throw) (tick : Tick) : MatchState :=
  { s.noteThrower n tick with
    grenades := s.grenades ++ [grenadeOf thrown n tick]
    tables := { (s.noteThrower n tick).tables with
      throws := s.tables.throws.erase n.entity
      records := s.tables.records.insert n.entity s.grenades.length } }

/-- **The answers of a match to an event.** -/
inductive Answer (c : Config) (s : MatchState) (tick : Tick) : Event → Step MatchState → Prop where
  /-- The event is passed over, and nothing has happened. -/
  | passed {e : Event} {f : Fault} (hf : f.isFatal = false) (hv : e.victim? = none ∨ s.round.isOpen = false) :
      Answer c s tick e (.stop s f)
  | idle {e : Event} (hv : e.victim? = none) : Answer c s tick e { state := s }
  | restarted : Answer c s tick .matchStart { state := s.restart }
  | begun : Answer c s tick .roundStart (Processor.startRound s c tick)
  | thawed (hl : s.round.phase = .live) : Answer c s tick .freezeEnd { state := s.recordFreezeEnd tick }
  | decided {n : RoundEndNotice} (hl : s.round.phase = .live) :
      Answer c s tick (.roundEnd n) { state := s.decideRound n tick }
  /-- A death that nobody else caused. -/
  | died {n : KillNotice} {victim : Actor} {cause : ExitCause} {f : Fault} (ho : s.round.isOpen = true)
      (hv : n.victim = some victim) (hk : ∀ killer ∈ n.killer, killer.id = victim.id)
      (hc : cause = .world ∨ cause = .selfKill) (hf : f.isFatal = false) :
      Answer c s tick (.kill n) (.stop (s.recordDeath victim cause tick) f)
  /-- A kill of which nobody knows with what.  The victim is dead all the same. -/
  | weaponless {n : KillNotice} {killer victim : Actor} (ho : s.round.isOpen = true)
      (hk : n.killer = some killer) (hv : n.victim = some victim) (hw : n.weapon = none)
      (hne : killer.id ≠ victim.id) :
      Answer c s tick (.kill n)
        (.stop (s.recordDeath victim (.killed killer.id) tick) (.missingActor "kill" "weapon"))
  | killed {n : KillNotice} {killer victim : Actor} {weapon : Weapon} (ho : s.round.isOpen = true)
      (hk : n.killer = some killer) (hv : n.victim = some victim) (hw : n.weapon = some weapon)
      (hne : killer.id ≠ victim.id) :
      Answer c s tick (.kill n)
        { state := ((s.recordDeath victim (.killed killer.id) tick).observe killer).enterGunfight s c n killer
            victim weapon tick }
  | hit {n : HurtNotice} {victim : Actor} {weapon : Weapon} (ho : s.round.isOpen = true)
      (hv : n.player = some victim) (hw : n.weapon = some weapon)
      (hd : 0 ≤ n.healthDamage) :
      Answer c s tick (.playerHurt n)
        { state := ((s.observe victim).observeOptional n.attacker).enterDamage n victim weapon
            (s.healthTaken victim.id n.healthDamage) tick }
  | fired {n : FireNotice} {shooter : Actor} {weapon : Weapon} (ho : s.round.isOpen = true)
      (hs : n.shooter = some shooter) (hw : n.weapon = some weapon) :
      Answer c s tick (.weaponFire n) { state := (s.fire shooter weapon tick).observe shooter }
  | thrown {n : ProjectileNotice} {thrower : Actor} {kind : GrenadeKind} (ho : s.round.isOpen = true)
      (ht : n.thrower = some thrower) (hk : n.weapon.grenadeKind? = some kind) :
      Answer c s tick (.projectileThrow n) { state := s.bindThrow n.entity thrower kind tick }
  /-- A detonation whose throw was not seen.  Its thrower is noted all the same. -/
  | unseen {e : Event} {n : ProjectileNotice} (ho : s.round.isOpen = true) (he : e.detonation? = some n)
      (ht : s.tables.throws.get? n.entity = none) :
      Answer c s tick e (.stop (s.noteThrower n tick) (.missingThrow n.entity))
  | detonated {e : Event} {n : ProjectileNotice} {thrown : Throw} (ho : s.round.isOpen = true)
      (he : e.detonation? = some n) (ht : s.tables.throws.get? n.entity = some thrown) :
      Answer c s tick e { state := s.recordGrenade n thrown tick }
  | flashMoved {n : ProjectileNotice} {effect : FlashEffect} (ho : s.round.isOpen = true)
      (he : s.tables.flashes.get? n.entity = some effect) :
      Answer c s tick (.flashExplode n) { state := s.moveFlash effect tick n.position }
  | flashUnseen {n : ProjectileNotice} {thrower : Actor} {remarks : List Remark} (ho : s.round.isOpen = true)
      (hn : n.thrower = some thrower) (he : s.tables.flashes.get? n.entity = none)
      (ht : s.tables.throws.get? n.entity = none) :
      Answer c s tick (.flashExplode n)
        { state := (s.noteThrower n tick).startFlash c n thrower.id tick none, remarks }
  | flashStarted {n : ProjectileNotice} {thrower : Actor} {thrown : Throw} (ho : s.round.isOpen = true)
      (hn : n.thrower = some thrower) (he : s.tables.flashes.get? n.entity = none)
      (ht : s.tables.throws.get? n.entity = some thrown) :
      Answer c s tick (.flashExplode n)
        { state := (s.recordGrenade n thrown tick).startFlash c n thrower.id tick (some s.grenades.length) }
  | blinded {n : FlashedNotice} {player thrower : Actor} (ho : s.round.isOpen = true)
      (hp : n.player = some player) (ht : n.attacker = some thrower) :
      Answer c s tick (.playerFlashed n)
        { state := (s.noteBlinded player.id).placeBlinding c.flashMatching player.id thrower.id tick
            n.duration.toFloat }
  | bombed {e : Event} {kind : RoundMarkKind} {n : BombNotice} (ho : s.round.isOpen = true)
      (he : e.bomb? = some (kind, n)) :
      Answer c s tick e
        { state := (s.observeOptional n.player).addMark
            { (s.observeOptional n.player).mark kind tick with
              player := n.player.map (·.id), site := n.site } }
  | shown {e : Event} {a : Actor} (he : e.shown? = some a) : Answer c s tick e { state := s.observe a }
  | left {a : Actor} (hk : s.players.contains a.id = true) :
      Answer c s tick (.playerDisconnect a)
        { state := (s.setConnected a.id false).recordExit a.id .disconnect tick }
  | gone {a : Actor} (hk : s.players.contains a.id = true) :
      Answer c s tick (.playerDisconnect a)
        { state :=
            { s.setConnected a.id false with
              conditions := s.conditions.modify a.id (fun c => { c with isAlive := false }) } }

/-! ## There are no other answers -/

section Cases

variable {c : Config} {s : MatchState} {tick : Tick}

theorem answer_recordKill (n : KillNotice) : Answer c s tick (.kill n) (s.recordKill c n tick) := by
  unfold recordKill
  cases ho : s.round.isOpen with
  | false => exact .passed rfl (.inr ho)
  | true =>
    simp only [Bool.not_true, Bool.false_eq_true, if_false]
    split
    · next hv => exact .passed rfl (.inl (by rw [Event.victim?, hv]; rfl))
    · next victim hv =>
      split
      · next hk => exact .died ho hv (fun k h => by rw [hk] at h; cases h) (.inl rfl) rfl
      · next killer hk =>
        split
        · next he => exact .died ho hv (fun k h => by rw [hk] at h; cases h; exact he) (.inr rfl) rfl
        · next hne =>
          split
          · next hw => exact .weaponless ho hk hv hw hne
          · next weapon hw => exact .killed ho hk hv hw hne

theorem answer_recordHurt (n : HurtNotice) : Answer c s tick (.playerHurt n) (s.recordHurt n tick) := by
  unfold recordHurt
  cases ho : s.round.isOpen with
  | false => exact .passed rfl (.inl rfl)
  | true =>
    simp only [Bool.not_true, Bool.false_eq_true, if_false]
    split
    · exact .passed rfl (.inl rfl)
    · exact .passed rfl (.inl rfl)
    · next victim weapon hv hw =>
      split
      · exact .passed rfl (.inl rfl)
      · next hd =>
        simp only [Bool.or_eq_true, decide_eq_true_eq, not_or, Int.not_lt] at hd
        exact .hit ho hv hw hd.1

theorem answer_recordFire (n : FireNotice) : Answer c s tick (.weaponFire n) (s.recordFire n tick) := by
  unfold recordFire
  cases ho : s.round.isOpen with
  | false => exact .passed rfl (.inl rfl)
  | true =>
    simp only [Bool.not_true, Bool.false_eq_true, if_false]
    split
    · exact .passed rfl (.inl rfl)
    · exact .passed rfl (.inl rfl)
    · next shooter weapon hs hw => exact .fired ho hs hw

theorem answer_recordProjectileThrow (n : ProjectileNotice) :
    Answer c s tick (.projectileThrow n) (s.recordProjectileThrow n tick) := by
  unfold recordProjectileThrow
  cases ho : s.round.isOpen with
  | false => exact .passed rfl (.inl rfl)
  | true =>
    simp only [Bool.not_true, Bool.false_eq_true, if_false]
    split
    · exact .passed rfl (.inl rfl)
    · exact .passed rfl (.inl rfl)
    · next thrower kind ht hk => exact .thrown ho ht hk

theorem detonate_cases (s : MatchState) (n : ProjectileNotice) (tick : Tick) :
    s.detonate n tick = (s, .repeated) ∨
      (s.tables.throws.get? n.entity = none ∧ s.detonate n tick = (s.noteThrower n tick, .unseen)) ∨
      ∃ thrown, s.tables.throws.get? n.entity = some thrown ∧
        s.detonate n tick = (s.recordGrenade n thrown tick, .recorded s.grenades.length) := by
  unfold detonate recordGrenade noteThrower
  cases ht : s.throwerOf? n with
  | none =>
    refine .inr ?_
    cases hg : s.tables.throws.get? n.entity with
    | none => exact .inl ⟨rfl, by simp only [enterGrenade, hg]⟩
    | some thrown => exact .inr ⟨thrown, rfl, by simp only [enterGrenade, hg]⟩
  | some thrower =>
    simp only
    split
    · exact .inl rfl
    · refine .inr ?_
      cases hg : s.tables.throws.get? n.entity with
      | none => exact .inl ⟨rfl, by simp only [enterGrenade, noteDetonation, hg]⟩
      | some thrown => exact .inr ⟨thrown, rfl, by simp only [enterGrenade, noteDetonation, hg]⟩

theorem answer_recordDetonation {e : Event} {n : ProjectileNotice} (he : e.detonation? = some n) :
    Answer c s tick e (s.recordDetonation n tick) := by
  unfold recordDetonation
  cases ho : s.round.isOpen with
  | false => exact .passed rfl (.inl (Event.victim_of_detonation he))
  | true =>
    simp only [Bool.not_true, Bool.false_eq_true, if_false]
    split
    · exact .passed rfl (.inl (Event.victim_of_detonation he))
    · split
      · exact .idle (Event.victim_of_detonation he)
      · rcases detonate_cases s n tick with hd | ⟨ht, hd⟩ | ⟨thrown, ht, hd⟩ <;> rw [hd]
        · exact .idle (Event.victim_of_detonation he)
        · exact .unseen ho he ht
        · exact .detonated ho he ht

theorem answer_recordFlashExplode (n : ProjectileNotice) :
    Answer c s tick (.flashExplode n) (s.recordFlashExplode c n tick) := by
  unfold recordFlashExplode
  cases ho : s.round.isOpen with
  | false => exact .passed rfl (.inl rfl)
  | true =>
    simp only [Bool.not_true, Bool.false_eq_true, if_false]
    split
    · exact .passed rfl (.inl rfl)
    · next thrower hn =>
      split
      · next effect he => exact .flashMoved ho he
      · next he =>
        rcases detonate_cases s n tick with hd | ⟨ht, hd⟩ | ⟨thrown, ht, hd⟩ <;> rw [hd]
        · exact .idle rfl
        · exact .flashUnseen ho hn he ht
        · exact .flashStarted ho hn he ht

theorem answer_recordFlashed (n : FlashedNotice) :
    Answer c s tick (.playerFlashed n) (s.recordFlashed c n tick) := by
  unfold recordFlashed
  cases ho : s.round.isOpen with
  | false => exact .passed rfl (.inl rfl)
  | true =>
    simp only [Bool.not_true, Bool.false_eq_true, if_false]
    split
    · exact .passed rfl (.inl rfl)
    · exact .passed rfl (.inl rfl)
    · next player thrower hp ht =>
      split
      · exact .idle rfl
      · exact .blinded ho hp ht

theorem answer_recordBomb {e : Event} {kind : RoundMarkKind} {n : BombNotice} (he : e.bomb? = some (kind, n)) :
    Answer c s tick e (s.recordBomb kind n tick) := by
  unfold recordBomb
  cases ho : s.round.isOpen with
  | false => exact .passed rfl (.inl (Event.victim_of_bomb he))
  | true => exact .bombed ho he

theorem answer_recordDisconnect (a : Actor) :
    Answer c s tick (.playerDisconnect a) (s.recordDisconnect a tick) := by
  unfold recordDisconnect
  cases hk : s.players.contains a.id with
  | false => exact .passed rfl (.inl rfl)
  | true =>
    simp only [Bool.not_true, Bool.false_eq_true, if_false]
    split
    · exact .left hk
    · exact .gone hk

theorem answer_recordTeamChange (n : TeamChangeNotice) :
    Answer c s tick (.playerTeamChange n) (s.recordTeamChange n) := by
  unfold recordTeamChange
  split
  · exact .passed rfl (.inl rfl)
  · next a ha => exact .shown (by rw [Event.shown?, ha]; rfl)

end Cases

/-- **Every answer of a match is one of the list.** -/
theorem answer_respond (c : Config) (s : MatchState) (tick : Tick) (e : Event) :
    Answer c s tick e (respond c s tick e) := by
  cases e with
  | matchStart => exact .restarted
  | roundStart => exact .begun
  | freezeEnd =>
    show Answer c s tick .freezeEnd { state := s.recordFreezeEnd tick }
    by_cases hl : s.round.phase = .live
    · exact .thawed hl
    · rw [recordFreezeEnd, if_neg hl]
      exact .idle rfl
  | roundEnd n =>
    simp only [respond]
    split
    · next hl => exact .decided hl
    · exact .passed rfl (.inl rfl)
  | kill n => exact answer_recordKill n
  | playerHurt n => exact answer_recordHurt n
  | weaponFire n => exact answer_recordFire n
  | projectileThrow n => exact answer_recordProjectileThrow n
  | projectileDestroy n => exact answer_recordDetonation rfl
  | flashExplode n => exact answer_recordFlashExplode n
  | playerFlashed n => exact answer_recordFlashed n
  | smokeStart n => exact answer_recordDetonation rfl
  | bombPlanted n => exact answer_recordBomb rfl
  | bombDefused n => exact answer_recordBomb rfl
  | bombExploded n => exact answer_recordBomb rfl
  | playerConnect a => exact .shown rfl
  | playerDisconnect a => exact answer_recordDisconnect a
  | playerTeamChange n => exact answer_recordTeamChange n

theorem Answer.fault_not_fatal {c : Config} {s : MatchState} {tick : Tick} {e : Event}
    {step : Step MatchState} (h : Answer c s tick e step) : ∀ f ∈ step.fault, f.isFatal = false := by
  intro f hm
  cases h with
  | passed hf _ => cases hm; exact hf
  | died _ _ _ _ hf => cases hm; exact hf
  | weaponless => cases hm; rfl
  | unseen => cases hm; rfl
  | _ => cases hm

end MatchState

end Scorebook
