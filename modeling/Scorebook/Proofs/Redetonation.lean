import Scorebook.Proofs.Correlation
/-!
# A detonation told twice

A stream may tell of one detonation twice, and the second time finds what the first one left: the record of the grenade,
its thrower noted at the tick, or the flash where it detonated.  Nothing is then left to change
(`repeated_detonation_harmless`).
-/
namespace Scorebook

/-! ## A flash where it detonated -/

theorem Grenade.detonateAt_detonateAt (g : Grenade) (tick : Tick) (position : Vector3) :
    (g.detonateAt tick position).detonateAt tick position = g.detonateAt tick position := rfl

theorem Grenade.detonateAt_addBlinding (g : Grenade) (isEnemy : Bool) (duration : Float) (tick : Tick)
    (position : Vector3) :
    (g.addBlinding isEnemy duration).detonateAt tick position =
      (g.detonateAt tick position).addBlinding isEnemy duration := by
  unfold addBlinding
  split <;> rfl

namespace Burst

variable {b : Burst} {tick : Tick} {position : Vector3}

/-- A flash with its record, both at the tick and place at which it detonates. -/
structure DetonatedAt (b : Burst) (tick : Tick) (position : Vector3) : Prop where
  sameTick : b.effect.tick = tick
  samePosition : b.effect.position = position
  record : ∀ g ∈ b.record, g.detonateAt tick position = g

theorem DetonatedAt.blind (h : b.DetonatedAt tick position) (isEnemy : Bool) (player : PlayerId) (duration : Float) :
    (b.blind isEnemy player duration).DetonatedAt tick position := by
  unfold Burst.blind
  split
  · exact h
  · refine ⟨h.sameTick, h.samePosition, fun g hg => ?_⟩
    obtain ⟨g, hg', rfl⟩ := Option.map_eq_some_iff.1 hg
    rw [Grenade.detonateAt_addBlinding, h.record g hg']

theorem DetonatedAt.blindAll (isEnemy : PlayerId → Bool) :
    ∀ (waited : List PendingBlinding) {b : Burst}, b.DetonatedAt tick position →
      (b.blindAll isEnemy waited).DetonatedAt tick position
  | [], _, h => h
  | p :: waited, _, h => DetonatedAt.blindAll isEnemy waited (h.blind (isEnemy p.player) p.player p.duration)

end Burst

namespace MatchState

variable {s : MatchState} {c : Config} {n : ProjectileNotice} {tick : Tick}

theorem detonatedAt_burstOf (s : MatchState) (m : FlashMatching) (n : ProjectileNotice) (thrower : PlayerId)
    (tick : Tick) : (s.burstOf m n thrower tick).DetonatedAt tick n.position := by
  refine Burst.DetonatedAt.blindAll _ _ ⟨rfl, rfl, fun g hg => ?_⟩
  obtain ⟨_, -, rfl⟩ := Option.map_eq_some_iff.1 hg
  rfl

/-! ## Moving a flash to where it is -/

theorem modifyGrenade_modifyGrenade (s : MatchState) (place : Option Nat) {f : Grenade → Grenade}
    (hf : ∀ g, f (f g) = f g) : (s.modifyGrenade place f).modifyGrenade place f = s.modifyGrenade place f := by
  cases place with
  | none => rfl
  | some i =>
    have hff : f ∘ f = f := funext hf
    by_cases hi : i < s.grenades.length
    · simp only [modifyGrenade, hi, if_true, List.length_modify, List.modify_modify_eq, hff]
    · simp only [modifyGrenade, hi, if_false]

theorem setFlash_modifyGrenade (s : MatchState) (place : Option Nat) (f : Grenade → Grenade) (e : FlashEffect) :
    (s.modifyGrenade place f).setFlash e = (s.setFlash e).modifyGrenade place f := by
  cases place with
  | none => rfl
  | some i => by_cases hi : i < s.grenades.length <;> simp [modifyGrenade, setFlash, hi]

theorem setFlash_setFlash (s : MatchState) (e : FlashEffect) : (s.setFlash e).setFlash e = s.setFlash e := by
  simp only [setFlash, Table.insert_insert]

/-- **A flash that has moved is where it is moved to.** -/
theorem moveFlash_moveFlash (s : MatchState) (e : FlashEffect) (tick : Tick) (position : Vector3) :
    (s.moveFlash e tick position).moveFlash { e with tick, position } tick position = s.moveFlash e tick position := by
  unfold moveFlash
  simp only
  rw [setFlash_modifyGrenade, setFlash_setFlash,
    modifyGrenade_modifyGrenade _ _ (fun g => g.detonateAt_detonateAt tick position)]

/-- **A flash that was just entered is where it detonated.** -/
theorem moveFlash_enterBurst {b : Burst} {position : Vector3} (hnext : s.IsNext b) (h : b.DetonatedAt tick position) :
    (s.enterBurst b).moveFlash b.effect tick position = s.enterBurst b := by
  have hset : (s.enterBurst b).setFlash b.effect = s.enterBurst b := by
    simp only [setFlash, enterBurst, Table.insert_insert]
  have heffect : { b.effect with tick, position } = b.effect := by rw [← h.sameTick, ← h.samePosition]
  unfold moveFlash
  rw [heffect, hset, hnext]
  cases hrecord : b.record with
  | none => rfl
  | some g =>
    have hg : g.detonateAt tick position = g := h.record g hrecord
    simp [modifyGrenade, enterBurst, hrecord, modify_concat, hg]

/-! ## Twice -/

/-- What a detonation that is told does to the match. -/
theorem recordDetonation_cases (s : MatchState) (n : ProjectileNotice) (tick : Tick) :
    (s.recordDetonation n tick).state = s ∨
      (s.tables.throws.get? n.entity = none ∧ (s.recordDetonation n tick).state = s.noteThrower n tick) ∨
      ∃ thrown, (s.recordDetonation n tick).state = s.recordGrenade n thrown tick := by
  unfold recordDetonation
  split
  · exact .inl rfl
  · split
    · exact .inl rfl
    · split
      · exact .inl rfl
      · rcases detonate_cases s n tick with hd | ⟨ht, hd⟩ | ⟨thrown, -, hd⟩ <;> rw [hd]
        · exact .inl rfl
        · exact .inr (.inl ⟨ht, rfl⟩)
        · exact .inr (.inr ⟨thrown, rfl⟩)

theorem recordDetonation_of_detonate (h : (s.detonate n tick).1 = s) : (s.recordDetonation n tick).state = s := by
  unfold recordDetonation
  split
  · rfl
  · split
    · rfl
    · split
      · rfl
      · split
        · next hd => exact (congrArg Prod.fst hd).symm.trans h
        · next hd => exact (congrArg Prod.fst hd).symm.trans h

theorem recordDetonation_of_contains (h : s.tables.records.contains n.entity = true) :
    (s.recordDetonation n tick).state = s := by
  unfold recordDetonation
  split
  · rfl
  · split
    · rfl
    · rw [h, Bool.or_true]
      rfl

/-- A detonation without a throw changes nothing once its thrower is noted. -/
theorem detonate_noteThrower (ht : s.tables.throws.get? n.entity = none) :
    ((s.noteThrower n tick).detonate n tick).1 = s.noteThrower n tick := by
  unfold noteThrower detonate
  cases hthrower : s.throwerOf? n with
  | none =>
    simp only [hthrower, enterGrenade, ht]
  | some thrower =>
    have hsame : (s.noteDetonation thrower tick).throwerOf? n = some thrower := hthrower
    have hnoted : (s.noteDetonation thrower tick).tables.detonations.contains (thrower, tick) = true := by
      simp [noteDetonation, Table.contains]
    simp only [hsame, hnoted, if_true]

/-- **A smoke or a projectile that is told twice to be gone.** -/
theorem recordDetonation_recordDetonation (s : MatchState) (n : ProjectileNotice) (tick : Tick) :
    ((s.recordDetonation n tick).state.recordDetonation n tick).state = (s.recordDetonation n tick).state := by
  rcases recordDetonation_cases s n tick with hs | ⟨ht, hs⟩ | ⟨thrown, hs⟩
  · rw [hs, hs]
  · rw [hs]
    exact recordDetonation_of_detonate (detonate_noteThrower ht)
  · rw [hs]
    refine recordDetonation_of_contains ?_
    simp [recordGrenade, Table.contains]

/-- **A flash that is told twice to explode.** -/
theorem recordFlashExplode_recordFlashExplode (hk : Keyed s) (c : Config) (n : ProjectileNotice) (tick : Tick) :
    ((s.recordFlashExplode c n tick).state.recordFlashExplode c n tick).state = (s.recordFlashExplode c n tick).state := by
  -- a notice that is passed over the first time is passed over the second
  have idle (hs : (s.recordFlashExplode c n tick).state = s) :
      ((s.recordFlashExplode c n tick).state.recordFlashExplode c n tick).state =
        (s.recordFlashExplode c n tick).state := by
    rw [hs, hs]
  cases ho : s.round.isOpen with
  | false =>
    refine idle ?_
    unfold recordFlashExplode
    rw [ho]
    rfl
  | true =>
    cases hn : n.thrower with
    | none =>
      refine idle ?_
      unfold recordFlashExplode
      rw [ho, hn]
      rfl
    | some thrower =>
      cases he : s.tables.flashes.get? n.entity with
      | some effect =>
        have hopen : (s.moveFlash effect tick n.position).round.isOpen = true := by
          obtain ⟨_, _, _, _, hs, -⟩ := flashWork_moveFlash s effect tick n.position
          rw [hs]
          exact ho
        have hmoved : (s.moveFlash effect tick n.position).tables.flashes.get? n.entity =
            some { effect with tick, position := n.position } := by
          unfold moveFlash
          rw [tables_modifyGrenade, ← hk.own he]
          exact Table.get?_insert_self _ _ _
        rw [recordFlashExplode_known c tick ho hn he, recordFlashExplode_known c tick hopen hn hmoved]
        exact moveFlash_moveFlash s effect tick n.position
      | none =>
        by_cases hd : s.tables.detonations.contains (thrower.id, tick) = true
        · refine idle ?_
          rw [recordFlashExplode_state c tick ho hn he, if_pos hd]
        · have hentered : (s.exploded c.flashMatching n thrower.id tick).tables.flashes.get? n.entity =
              some (s.burstOf c.flashMatching n thrower.id tick).effect := by
            rw [← entity_burstOf s c.flashMatching n thrower.id tick]
            exact Table.get?_insert_self _ _ _
          have hopen : (s.exploded c.flashMatching n thrower.id tick).round.isOpen = true := ho
          rw [recordFlashExplode_state c tick ho hn he, if_neg hd, recordFlashExplode_known c tick hopen hn hentered]
          exact moveFlash_enterBurst (isNext_blindAll _ _ (isNext_firstBurst s n thrower.id tick))
            (detonatedAt_burstOf s c.flashMatching n thrower.id tick)

end MatchState

namespace Processor

variable {header : Header} {config : Config} {p q : Processor}

/-- **A detonation that is told twice is as good as told once.**  In every state of a match, in progress or closed, and
whatever the notice and the tick: a smoke that starts or a projectile that is gone, and a flash that explodes, leave the
second time what they left the first. -/
theorem repeated_detonation_harmless (h : Fresh header config p) (hq : Follows p q) (c : Config) (n : ProjectileNotice)
    (tick : Tick) :
    ((q.state.recordDetonation n tick).state.recordDetonation n tick).state = (q.state.recordDetonation n tick).state ∧
      ((q.state.recordFlashExplode c n tick).state.recordFlashExplode c n tick).state =
        (q.state.recordFlashExplode c n tick).state := by
  exact ⟨q.state.recordDetonation_recordDetonation n tick,
    MatchState.recordFlashExplode_recordFlashExplode (h.keyed_of_follows hq) c n tick⟩

/-- A grenade that is thrown and then told to be gone, and a flash that is thrown and then told to explode: either is
recorded once. -/
theorem repeated_detonation_harmless_of_thrown :
    ∃ (s : MatchState) (gone flash : ProjectileNotice),
      s = (({ config := {}, state := MatchState.new { mapName := "de_dust2" } {} } : Processor).after
        [⟨0, .playerConnect { id := 1, allegiance := .counterTerrorist }⟩, ⟨1, .roundStart⟩,
         ⟨40, .projectileThrow { entity := 8, weapon := .heGrenade, position := .zero
                                 thrower := some { id := 1, allegiance := .counterTerrorist } }⟩,
         ⟨50, .projectileThrow { entity := 9, weapon := .flashbang, position := .zero
                                 thrower := some { id := 1, allegiance := .counterTerrorist } }⟩]).state ∧
      gone = { entity := 8, weapon := .heGrenade, position := .zero, thrower := none } ∧
      flash = { entity := 9, weapon := .flashbang, position := .zero
                thrower := some { id := 1, allegiance := .counterTerrorist } } ∧
      (s.recordDetonation gone 90).state.grenades.map (·.entity) = [8] ∧
      ((s.recordDetonation gone 90).state.recordDetonation gone 90).state = (s.recordDetonation gone 90).state ∧
      (s.recordFlashExplode {} flash 90).state.grenades.map (·.entity) = [9] ∧
      ((s.recordFlashExplode {} flash 90).state.recordFlashExplode {} flash 90).state =
        (s.recordFlashExplode {} flash 90).state := by
  have h : Fresh { mapName := "de_dust2" } {} _ := .default rfl
  refine ⟨_, _, _, rfl, rfl, rfl, by decide +kernel, ?_, by decide +kernel, ?_⟩
  · exact (repeated_detonation_harmless h (follows_after _ _) {} _ 90).1
  · exact (repeated_detonation_harmless h (follows_after _ _) {} _ 90).2

end Processor

end Scorebook
