import Scorebook.Proofs.Arsenal
/-!
# A flash and its record tell the same

Whom a flash blinded is kept twice: player by player with the flash, and in sum with the grenade record.  The two are
changed together, whether a blinding finds its flash, waits for it, or the flash moves; and no two flashes have one
record (`InStep`).
-/
namespace Scorebook

/-- What a list of players blinded by a flash comes to, the durations added in its order. -/
def Exposure.of (affected : List Blinding) : Exposure where
  enemies := affected.countP (·.isEnemy)
  teammates := affected.countP (!·.isEnemy)
  enemyDuration := Ratio.total ((affected.filter (·.isEnemy)).map (·.duration))
  teamDuration := Ratio.total ((affected.filter (!·.isEnemy)).map (·.duration))

theorem Ratio.total_concat (xs : List Float) (x : Float) : Ratio.total (xs ++ [x]) = Ratio.total xs + x := by
  unfold Ratio.total
  rw [List.foldl_append]
  rfl

/-- **One more player with the flash is one more player with its record.** -/
theorem Grenade.exposure_addBlinding {g : Grenade} {affected : List Blinding} (h : g.exposure = .of affected)
    (b : Blinding) : (g.addBlinding b.isEnemy b.duration).exposure = .of (affected ++ [b]) := by
  have henemies : g.enemiesFlashed = _ := congrArg Exposure.enemies h
  have hteammates : g.teammatesFlashed = _ := congrArg Exposure.teammates h
  have henemy : g.enemyFlashDuration = _ := congrArg Exposure.enemyDuration h
  have hteam : g.teamFlashDuration = _ := congrArg Exposure.teamDuration h
  unfold Grenade.exposure Grenade.addBlinding Exposure.of at *
  cases hb : b.isEnemy with
  | true => simp [hb, henemies, hteammates, henemy, hteam, Ratio.total_concat]
  | false => simp [hb, henemies, hteammates, henemy, hteam, Ratio.total_concat]

theorem nodup_players_concat {affected : List Blinding} (h : (affected.map (·.player)).Nodup) {b : Blinding}
    (hnew : ¬ affected.any (·.player = b.player) = true) : ((affected ++ [b]).map (·.player)).Nodup := by
  rw [List.map_append]
  refine List.nodup_append.2 ⟨h, by simp, fun player hplayer player' hplayer' => ?_⟩
  rintro rfl
  obtain ⟨b', hb', rfl⟩ := List.mem_map.1 hplayer
  rw [List.mem_map] at hplayer'
  obtain ⟨b'', hb'', heq⟩ := hplayer'
  rw [List.mem_singleton.1 hb''] at heq
  exact hnew (List.any_eq_true.2 ⟨b', hb', by simpa using heq.symm⟩)

/-! ## A flash that detonates -/

namespace Burst

/-- A flash and its record, if it has one, tell of the same players. -/
structure Told (b : Burst) : Prop where
  once : (b.effect.affected.map (·.player)).Nodup
  told : ∀ g ∈ b.record, g.exposure = .of b.effect.affected

variable {b : Burst}

theorem Told.blind (h : b.Told) (isEnemy : Bool) (player : PlayerId) (duration : Float) :
    (b.blind isEnemy player duration).Told := by
  unfold Burst.blind
  split
  · exact h
  · next hnew =>
    refine ⟨nodup_players_concat h.once hnew, fun g hg => ?_⟩
    obtain ⟨g', hg', rfl⟩ := Option.map_eq_some_iff.1 hg
    exact Grenade.exposure_addBlinding (h.told g' hg') ⟨player, isEnemy, duration⟩

theorem Told.blindAll (isEnemy : PlayerId → Bool) :
    ∀ (waited : List PendingBlinding) {b : Burst}, b.Told → (b.blindAll isEnemy waited).Told
  | [], _, h => h
  | p :: waited, _, h => Told.blindAll isEnemy waited (h.blind (isEnemy p.player) p.player p.duration)

end Burst

namespace MatchState

variable {s s' : MatchState}

theorem told_burstOf (s : MatchState) (m : FlashMatching) (n : ProjectileNotice) (thrower : PlayerId) (tick : Tick) :
    (s.burstOf m n thrower tick).Told := by
  refine Burst.Told.blindAll _ _ ⟨List.nodup_nil, fun g hg => ?_⟩
  obtain ⟨_, -, rfl⟩ := Option.map_eq_some_iff.1 hg
  rfl

/-! ## Flashes and records -/

/-- **Flashes and records are in step.** -/
structure InStep (s : MatchState) : Prop where
  /-- A flash blinds a player once. -/
  once : ∀ {entity : EntityId} {effect : FlashEffect}, s.tables.flashes.get? entity = some effect →
    (effect.affected.map (·.player)).Nodup
  told : ∀ {entity : EntityId} {effect : FlashEffect} {i : Nat}, s.tables.flashes.get? entity = some effect →
    effect.grenade = some i → (s.grenades.map Grenade.exposure)[i]? = some (.of effect.affected)
  /-- Two flashes have two records. -/
  apart : ∀ {a b : EntityId} {x y : FlashEffect} {i : Nat}, s.tables.flashes.get? a = some x →
    s.tables.flashes.get? b = some y → x.grenade = some i → y.grenade = some i → a = b

namespace InStep

theorem of_empty (hf : s.tables.flashes = ∅) : InStep s := by
  refine ⟨fun he => ?_, fun he => ?_, fun he => ?_⟩ <;>
  · rw [hf] at he
    cases he

/-- Records that are entered behind the others are no record of a flash yet. -/
theorem frame (h : InStep s) (hf : s'.tables.flashes = s.tables.flashes) {new : List Exposure}
    (hg : s'.grenades.map Grenade.exposure = s.grenades.map Grenade.exposure ++ new) : InStep s' where
  once he := h.once (hf ▸ he)
  told he hi := by
    have htold := h.told (hf ▸ he) hi
    rw [hg, List.getElem?_append_left (List.getElem?_eq_some_iff.1 htold).1]
    exact htold
  apart hx hy := h.apart (hf ▸ hx) (hf ▸ hy)

theorem calm (h : InStep s) (hc : Calm s s') : InStep s' :=
  h.frame (by rw [hc.tables]) (by rw [hc.exposures, List.append_nil])

theorem getElem?_modifyGrenade (s : MatchState) (place : Option Nat) (f : Grenade → Grenade) (j : Nat) :
    (s.modifyGrenade place f).grenades[j]? = if place = some j then s.grenades[j]?.map f else s.grenades[j]? := by
  unfold modifyGrenade
  cases place with
  | none => rfl
  | some i =>
    by_cases hi : i < s.grenades.length
    · simp only [hi, if_true, List.getElem?_modify, Option.some.injEq]
      by_cases hj : i = j
      · simp [hj]
      · simp [hj]
    · simp only [hi, if_false, Option.some.injEq]
      by_cases hj : i = j
      · subst hj
        simp [Nat.le_of_not_lt hi]
      · simp [hj]

/-- **A flash and its record can be changed together.**  The other flashes have other records. -/
theorem replace (hk : Keyed s) (h : InStep s) {entity : EntityId} {effect : FlashEffect}
    (he : s.tables.flashes.get? entity = some effect) (effect' : FlashEffect) (f : Grenade → Grenade)
    (hentity : effect'.entity = effect.entity) (hplace : effect'.grenade = effect.grenade)
    (honce : (effect'.affected.map (·.player)).Nodup)
    (hf : ∀ g, g.exposure = .of effect.affected → (f g).exposure = .of effect'.affected) :
    InStep ((s.setFlash effect').modifyGrenade effect.grenade f) := by
  have hown : effect'.entity = entity := hentity.trans (hk.own he)
  have hget (k : EntityId) : ((s.setFlash effect').modifyGrenade effect.grenade f).tables.flashes.get? k =
      if entity = k then some effect' else s.tables.flashes.get? k := by
    rw [tables_modifyGrenade, ← hown]
    exact Table.get?_insert _ _ _ _
  -- a flash after the change is one before it, at the same place
  have hbefore {k : EntityId} {x : FlashEffect}
      (hx : ((s.setFlash effect').modifyGrenade effect.grenade f).tables.flashes.get? k = some x) :
      ∃ y, s.tables.flashes.get? k = some y ∧ x.grenade = y.grenade ∧ (entity = k ∧ x = effect' ∨ entity ≠ k ∧ x = y) := by
    rw [hget] at hx
    split at hx
    · next hk =>
      cases hx
      exact ⟨effect, hk ▸ he, hplace, .inl ⟨hk, rfl⟩⟩
    · next hne => exact ⟨x, hx, rfl, .inr ⟨hne, rfl⟩⟩
  refine ⟨fun hx => ?_, fun hx hi => ?_, fun hx hy hi hj => ?_⟩
  · obtain ⟨y, hy, -, ⟨-, rfl⟩ | ⟨-, rfl⟩⟩ := hbefore hx
    · exact honce
    · exact h.once hy
  · obtain ⟨y, hy, hsame, hcase⟩ := hbefore hx
    rw [hsame] at hi
    obtain ⟨g, hg, htold⟩ := Option.map_eq_some_iff.1 ((List.getElem?_map ..).symm.trans (h.told hy hi))
    rw [List.getElem?_map, getElem?_modifyGrenade]
    rcases hcase with ⟨rfl, rfl⟩ | ⟨hne, rfl⟩
    · rw [he] at hy
      cases hy
      rw [if_pos hi]
      exact congrArg (Option.map Grenade.exposure) (congrArg (Option.map f) hg) |>.trans (congrArg some (hf g htold))
    · rw [if_neg (fun hsame => hne (h.apart he hy hsame hi))]
      exact congrArg (Option.map Grenade.exposure) hg |>.trans (congrArg some htold)
  · obtain ⟨x', hx', hxi, -⟩ := hbefore hx
    obtain ⟨y', hy', hyi, -⟩ := hbefore hy
    exact h.apart hx' hy' (hxi ▸ hi) (hyi ▸ hj)

theorem attachBlinding (hk : Keyed s) (h : InStep s) (entity : EntityId) (player : PlayerId) (duration : Float) :
    InStep (s.attachBlinding entity player duration) := by
  unfold MatchState.attachBlinding
  split
  · exact h
  · next effect he =>
    split
    · exact h
    · next hnew =>
      refine h.replace hk he _ (·.addBlinding _ duration) rfl rfl (nodup_players_concat (h.once he) hnew) (fun g hg => ?_)
      exact Grenade.exposure_addBlinding hg ⟨player, _, duration⟩

theorem placeBlinding (hk : Keyed s) (h : InStep s) (m : FlashMatching) (player thrower : PlayerId) (tick : Tick)
    (duration : Float) : InStep (s.placeBlinding m player thrower tick duration) := by
  unfold MatchState.placeBlinding
  split
  · exact h.attachBlinding hk _ _ _
  · exact h.frame rfl (List.append_nil _).symm

theorem moveFlash (hk : Keyed s) (h : InStep s) {entity : EntityId} {effect : FlashEffect}
    (he : s.tables.flashes.get? entity = some effect) (tick : Tick) (position : Vector3) :
    InStep (s.moveFlash effect tick position) := by
  have honce := h.once he
  exact h.replace hk he { effect with tick, position } (·.detonateAt tick position) rfl rfl honce (fun _ hg => hg)

/-- **A flash that detonates comes with the next record.** -/
theorem enterBurst (h : InStep s) {b : Burst} (htold : b.Told) (hnext : s.IsNext b) : InStep (s.enterBurst b) := by
  have hget (k : EntityId) : (s.enterBurst b).tables.flashes.get? k =
      if b.effect.entity = k then some b.effect else s.tables.flashes.get? k := Table.get?_insert _ _ _ _
  have hlength : (s.grenades.map Grenade.exposure).length = s.grenades.length := List.length_map _
  have hold {k : EntityId} {x : FlashEffect} {i : Nat} (hx : s.tables.flashes.get? k = some x)
      (hi : x.grenade = some i) : i < s.grenades.length :=
    hlength ▸ (List.getElem?_eq_some_iff.1 (h.told hx hi)).1
  have hnew {i : Nat} (hi : b.effect.grenade = some i) : ∃ g, b.record = some g ∧ s.grenades.length = i := by
    rw [hnext] at hi
    exact Option.map_eq_some_iff.1 hi
  have hgrenades : (s.enterBurst b).grenades.map Grenade.exposure =
      s.grenades.map Grenade.exposure ++ b.record.toList.map Grenade.exposure := List.map_append
  refine ⟨fun hx => ?_, fun hx hi => ?_, fun hx hy hi hj => ?_⟩
  · rw [hget] at hx
    split at hx
    · cases hx
      exact htold.once
    · exact h.once hx
  · rw [hget] at hx
    rw [hgrenades]
    split at hx
    · cases hx
      obtain ⟨g, hg, rfl⟩ := hnew hi
      rw [← hlength, List.getElem?_append_right (Nat.le_refl _), Nat.sub_self, hg]
      exact congrArg some (htold.told g hg)
    · rw [List.getElem?_append_left (hlength ▸ hold hx hi)]
      exact h.told hx hi
  · rw [hget] at hx hy
    split at hx <;> split at hy
    · next ha hb => exact ha.symm.trans hb
    · cases hx
      obtain ⟨_, -, rfl⟩ := hnew hi
      exact absurd (hold hy hj) (Nat.lt_irrefl _)
    · cases hy
      obtain ⟨_, -, rfl⟩ := hnew hj
      exact absurd (hold hx hi) (Nat.lt_irrefl _)
    · exact h.apart hx hy hi hj

theorem exploded (h : InStep s) (m : FlashMatching) (n : ProjectileNotice) (thrower : PlayerId) (tick : Tick) :
    InStep (s.exploded m n thrower tick) := by
  have hspent : InStep ((s.spend n thrower tick).release m thrower tick) := h.frame rfl (List.append_nil _).symm
  exact hspent.enterBurst (told_burstOf s m n thrower tick) (isNext_blindAll _ _ (isNext_firstBurst s n thrower tick))

/-- **Whatever an event does to grenades, flashes and records stay in step.** -/
theorem arming {c : Config} {tick : Tick} {e : Event} (hk : Keyed s) (h : InStep s) (ha : Arming c s tick e s') :
    InStep s' := by
  cases ha with
  | spared _ _ hc => exact h.calm hc
  | restarted =>
    unfold restart
    split
    · exact h
    · exact .of_empty rfl
  | begun => exact .of_empty rfl
  | @fired _ a kind _ _ _ hc =>
    have hfired : InStep (s.recordGrenadeFire a kind tick) := h.frame rfl (List.append_nil _).symm
    exact hfired.calm hc
  | thrown => exact h.frame rfl (List.append_nil _).symm
  | unseen =>
    rw [noteThrower_eq]
    exact h.frame rfl (List.append_nil _).symm
  | detonated =>
    unfold recordGrenade
    rw [noteThrower_eq]
    exact h.frame rfl List.map_append
  | moved _ _ he => exact h.moveFlash hk he tick _
  | exploded => exact h.exploded _ _ _ tick
  | @blinded n player thrower =>
    have hb : InStep (s.noteBlinded player.id) := h.frame rfl (List.append_nil _).symm
    have hkb : Keyed (s.noteBlinded player.id) := hk.mono rfl
    exact hb.placeBlinding hkb _ _ _ tick _

end InStep

end MatchState

namespace Processor

variable {header : Header} {config : Config} {p q : Processor}

theorem Fresh.inStep (h : Fresh header config p) (hq : Follows p q) : q.state.InStep := by
  obtain ⟨events, hr⟩ := h.reaches_of_follows hq
  refine h.holds_of_reaches (fun s hs => hs.calm (.closeState s config)) ?_ hr
  refine h.traces_arming (P := fun _ s => s.InStep) (.of_empty rfl) (fun hc hs => hs.calm hc) ?_ events
  intro events e s' ha hs
  have hk := h.keeps_after (MatchState.Keyed.kept config) (.new header config) events
  exact hs.arming (hk.mono (MatchState.Calm.advance _ e.tick |>.tables ▸ rfl)) ha

/-- **A flash and its record tell the same.**  In every state of a match, in progress or closed, a flash has blinded no
player twice, and its record counts its enemies and its teammates and adds up the durations of either in the order in
which they were blinded. -/
theorem flash_records_in_step (h : Fresh header config p) (hq : Follows p q) {entity : EntityId} {effect : FlashEffect}
    (he : q.state.tables.flashes.get? entity = some effect) :
    (effect.affected.map (·.player)).Nodup ∧
      ∀ i, effect.grenade = some i → ∃ g, q.state.grenades[i]? = some g ∧
        g.enemiesFlashed = effect.affected.countP (·.isEnemy) ∧
        g.teammatesFlashed = effect.affected.countP (!·.isEnemy) ∧
        g.enemyFlashDuration = Ratio.total ((effect.affected.filter (·.isEnemy)).map (·.duration)) ∧
        g.teamFlashDuration = Ratio.total ((effect.affected.filter (!·.isEnemy)).map (·.duration)) := by
  have hstep := h.inStep hq
  refine ⟨hstep.once he, fun i hi => ?_⟩
  have htold := hstep.told he hi
  rw [List.getElem?_map] at htold
  obtain ⟨g, hg, hexposure⟩ := Option.map_eq_some_iff.1 htold
  exact ⟨g, hg, congrArg Exposure.enemies hexposure, congrArg Exposure.teammates hexposure,
    congrArg Exposure.enemyDuration hexposure, congrArg Exposure.teamDuration hexposure⟩

/-- A flash blinds two enemies and a teammate of its thrower, one after the other, and explodes again; looked at when the
match is over, its record counts them and adds up their durations.  Blindings of two and of three seconds last. -/
theorem flash_records_in_step_of_blinded :
    ∃ q : Processor,
      q = (({ config := {}, state := MatchState.new { mapName := "de_dust2" } {} } : Processor).after
        [⟨0, .playerConnect { id := 1, allegiance := .counterTerrorist }⟩,
         ⟨0, .playerConnect { id := 2, allegiance := .terrorist }⟩,
         ⟨0, .playerConnect { id := 3, allegiance := .counterTerrorist }⟩,
         ⟨0, .playerConnect { id := 4, allegiance := .terrorist }⟩, ⟨1, .roundStart⟩,
         ⟨50, .projectileThrow { entity := 9, weapon := .flashbang, position := .zero
                                 thrower := some { id := 1, allegiance := .counterTerrorist } }⟩,
         ⟨64, .flashExplode { entity := 9, weapon := .flashbang, position := .zero
                              thrower := some { id := 1, allegiance := .counterTerrorist } }⟩,
         ⟨64, .playerFlashed { player := some { id := 2, allegiance := .terrorist }, duration := 2
                               attacker := some { id := 1, allegiance := .counterTerrorist } }⟩,
         ⟨64, .playerFlashed { player := some { id := 3, allegiance := .counterTerrorist }, duration := 3
                               attacker := some { id := 1, allegiance := .counterTerrorist } }⟩,
         ⟨64, .playerFlashed { player := some { id := 4, allegiance := .terrorist }, duration := 3
                               attacker := some { id := 1, allegiance := .counterTerrorist } }⟩,
         ⟨80, .flashExplode { entity := 9, weapon := .flashbang, position := .zero
                              thrower := some { id := 1, allegiance := .counterTerrorist } }⟩]).finalize.processor ∧
      (¬ Float32.toFloat 2 ≤ 0 → ¬ Float32.toFloat 3 ≤ 0 → ∃ effect g,
        q.state.tables.flashes.get? 9 = some effect ∧ effect.tick = 80 ∧ effect.grenade = some 0 ∧
        effect.affected =
          [⟨2, true, Float32.toFloat 2⟩, ⟨3, false, Float32.toFloat 3⟩, ⟨4, true, Float32.toFloat 3⟩] ∧
        q.state.grenades[0]? = some g ∧ g.enemiesFlashed = 2 ∧ g.teammatesFlashed = 1 ∧
        g.enemyFlashDuration = 0 + Float32.toFloat 2 + Float32.toFloat 3 ∧
        g.teamFlashDuration = 0 + Float32.toFloat 3) := by
  have h : Fresh { mapName := "de_dust2" } {} _ := .default rfl
  refine ⟨_, rfl, fun htwo hthree => ?_⟩
  generalize hq : (Processor.finalize (Processor.after _ _)).processor = q
  have hfollows : Follows _ q := hq ▸ (follows_after _ _).finalize
  -- the events that blind somebody are taken by hand, since the length of a second is not computed
  have hnext (s : MatchState) (player : Actor) {duration : Float32} (hlasts : ¬ duration.toFloat ≤ 0)
      (ho : s.round.isOpen = true) :=
    MatchState.next_playerFlashed {} 64
      { player := some player, duration, attacker := some { id := 1, allegiance := .counterTerrorist } } ho rfl rfl hlasts
  obtain ⟨effect, hget, htick, hgrenade, haffected⟩ : ∃ effect, q.state.tables.flashes.get? 9 = some effect ∧
      effect.tick = 80 ∧ effect.grenade = some 0 ∧ effect.affected =
        [⟨2, true, Float32.toFloat 2⟩, ⟨3, false, Float32.toFloat 3⟩, ⟨4, true, Float32.toFloat 3⟩] := by
    rw [← hq, h.finalize_state, h.after_state]
    simp only [List.foldl_cons, List.foldl_nil]
    rw [hnext _ { id := 2, allegiance := .terrorist } htwo (by decide +kernel),
      hnext _ { id := 3, allegiance := .counterTerrorist } hthree (by decide +kernel),
      hnext _ { id := 4, allegiance := .terrorist } hthree (by decide +kernel)]
    exact ⟨_, (Option.some_get (by decide +kernel)).symm, by decide +kernel, by decide +kernel, rfl⟩
  obtain ⟨g, hg, henemies, hteammates, henemy, hteam⟩ := (flash_records_in_step h hfollows hget).2 0 hgrenade
  rw [haffected] at henemies hteammates henemy hteam
  exact ⟨effect, g, hget, htick, hgrenade, haffected, hg, henemies, hteammates, henemy, hteam⟩

end Processor

end Scorebook
