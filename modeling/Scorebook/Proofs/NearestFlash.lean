import Scorebook.Proofs.Correlation
/-!
# Which flash a blinding near an explosion goes to

A blinding is attached to the flash of its thrower that is nearest in time, of those that are known when it is told.  A
flash that explodes after it lets in only the blindings that still wait.  Told before an explosion, a blinding therefore
goes to the flash that it goes to when told after it unless some flash was known that it could belong to, and the one
that explodes is nearer than all of them (`nearest_flash_iff`).
-/
namespace Scorebook

namespace MatchState

variable {s : MatchState} {c : Config} {n : ProjectileNotice} {m : FlashMatching} {thrower : PlayerId} {tick moment : Tick}

/-! ## The nearest flash -/

/-- A flash of the match that a blinding by a thrower at a tick can belong to. -/
def Fits (s : MatchState) (m : FlashMatching) (thrower : PlayerId) (tick : Tick) (e : FlashEffect) : Prop :=
  (∃ entity, s.tables.flashes.get? entity = some e) ∧ accepts e s.round.number m thrower tick = true

theorem Fits.thrower_eq {e : FlashEffect} (h : s.Fits m thrower tick e) : e.thrower = thrower := by
  have haccepts := h.2
  simp only [accepts, Bool.and_eq_true, decide_eq_true_eq] at haccepts
  exact haccepts.1.2

/-- The flash of an entity is one that a blinding can belong to, and none is nearer. -/
def IsNearest (s : MatchState) (m : FlashMatching) (thrower : PlayerId) (tick : Tick) (entity : EntityId) : Prop :=
  ∃ e, s.Fits m thrower tick e ∧ e.entity = entity ∧
    ∀ x, s.Fits m thrower tick x → Tick.apart tick e.tick ≤ Tick.apart tick x.tick

/-- The nearest flash that a blinding can belong to, if there is one. -/
def nearestFlash? (s : MatchState) (m : FlashMatching) (thrower : PlayerId) (tick : Tick) : Option FlashEffect :=
  nearestTo? tick (·.tick) (s.tables.flashes.values.filter (accepts · s.round.number m thrower tick))

theorem flashOf?_eq (s : MatchState) (m : FlashMatching) (thrower : PlayerId) (tick : Tick) :
    s.flashOf? m thrower tick = (s.nearestFlash? m thrower tick).map (·.entity) := rfl

theorem mem_filter_accepts_iff {e : FlashEffect} :
    e ∈ s.tables.flashes.values.filter (accepts · s.round.number m thrower tick) ↔ s.Fits m thrower tick e := by
  rw [List.mem_filter, Table.mem_values_iff]
  rfl

theorem fits_of_nearestFlash? {e : FlashEffect} (h : s.nearestFlash? m thrower tick = some e) :
    s.Fits m thrower tick e := mem_filter_accepts_iff.1 (mem_of_leastBy? h)

theorem apart_le_of_nearestFlash? {e x : FlashEffect} (h : s.nearestFlash? m thrower tick = some e)
    (hx : s.Fits m thrower tick x) : Tick.apart tick e.tick ≤ Tick.apart tick x.tick :=
  apart_le_of_nearestTo? h (mem_filter_accepts_iff.2 hx)

theorem isNearest_of_nearestFlash? {e : FlashEffect} (h : s.nearestFlash? m thrower tick = some e) :
    s.IsNearest m thrower tick e.entity :=
  ⟨e, fits_of_nearestFlash? h, rfl, fun _ hx => apart_le_of_nearestFlash? h hx⟩

theorem nearestFlash?_eq_none_iff : s.nearestFlash? m thrower tick = none ↔ ∀ e, ¬ s.Fits m thrower tick e := by
  unfold nearestFlash? nearestTo?
  rw [leastBy?_eq_none_iff, List.eq_nil_iff_forall_not_mem]
  simp only [mem_filter_accepts_iff]

/-! ## After an explosion -/

theorem filter_accepts_exploded (thrower : PlayerId) (hnone : s.tables.flashes.get? n.entity = none)
    (hallows : m.allows tick moment = true) :
    ∃ before after,
      s.tables.flashes.values.filter (accepts · s.round.number m thrower tick) = before ++ after ∧
      (s.exploded m n thrower moment).tables.flashes.values.filter (accepts · s.round.number m thrower tick) =
        before ++ (s.burstOf m n thrower moment).effect :: after := by
  obtain ⟨before, after, hvalues, hinsert⟩ := values_exploded m thrower moment hnone
  have hself : accepts (s.burstOf m n thrower moment).effect s.round.number m thrower tick = true := by
    simp [accepts, hallows]
  refine ⟨before.filter _, after.filter _, by rw [hvalues, List.filter_append], ?_⟩
  rw [hinsert, List.filter_append, List.filter_cons, if_pos hself]

/-- **A flash that explodes farther away than the nearest leaves it the nearest.** -/
theorem nearestFlash?_exploded_of_farther (hnone : s.tables.flashes.get? n.entity = none)
    (hallows : m.allows tick moment = true) {e : FlashEffect} (he : s.nearestFlash? m thrower tick = some e)
    (hlt : Tick.apart tick e.tick < Tick.apart tick moment) :
    (s.exploded m n thrower moment).nearestFlash? m thrower tick = some e := by
  obtain ⟨before, after, hold, hnew⟩ := filter_accepts_exploded thrower hnone hallows
  have hround : (s.exploded m n thrower moment).round.number = s.round.number := rfl
  unfold nearestFlash? at he ⊢
  rw [hround, hnew]
  rw [hold] at he
  exact nearestTo?_insert_farther he (by rw [tick_burstOf]; exact hlt)

/-- **A flash that explodes nearer than all others is the nearest.** -/
theorem nearestFlash?_exploded_of_nearer (hnone : s.tables.flashes.get? n.entity = none)
    (hallows : m.allows tick moment = true)
    (hlt : ∀ e, s.Fits m thrower tick e → Tick.apart tick moment < Tick.apart tick e.tick) :
    (s.exploded m n thrower moment).nearestFlash? m thrower tick = some (s.burstOf m n thrower moment).effect := by
  obtain ⟨before, after, hold, hnew⟩ := filter_accepts_exploded thrower hnone hallows
  have hround : (s.exploded m n thrower moment).round.number = s.round.number := rfl
  unfold nearestFlash?
  rw [hround, hnew]
  refine nearestTo?_insert_nearer (fun e he => ?_)
  rw [tick_burstOf]
  rw [← hold] at he
  exact hlt e (mem_filter_accepts_iff.1 he)

/-! ## Either order -/

/-- A player is blinded by the flash of an entity, unless the blinding does not last. -/
def blindFrom (s : MatchState) (entity : EntityId) (player : PlayerId) (duration : Float) : MatchState :=
  if duration ≤ 0 then s else (s.noteBlinded player).attachBlinding entity player duration

/-- A blinding told after an explosion goes to the nearest flash. -/
theorem placeBlinding_of_nearestFlash? {e : FlashEffect} (h : s.nearestFlash? m thrower tick = some e) (player : PlayerId)
    (duration : Float) :
    s.placeBlinding m player thrower tick duration = s.attachBlinding e.entity player duration := by
  unfold placeBlinding
  rw [flashOf?_eq, h]
  rfl

/-- A blinding told before an explosion goes to the nearest flash that is known, and to the one that explodes if none
is. -/
theorem exploded_placeBlinding_nearest (h : s.Expects n.entity thrower moment) (hallows : m.allows tick moment = true)
    (player : PlayerId) (duration : Float) :
    (s.placeBlinding m player thrower tick duration).exploded m n thrower moment =
      (s.exploded m n thrower moment).attachBlinding (((s.nearestFlash? m thrower tick).map (·.entity)).getD n.entity)
        player duration := by
  unfold placeBlinding
  rw [flashOf?_eq]
  cases he : s.nearestFlash? m thrower tick with
  | none => exact exploded_awaitFlash (by simp [awaits, hallows])
  | some e =>
    obtain ⟨⟨entity, hget⟩, -⟩ := fits_of_nearestFlash? he
    have hne : n.entity ≠ e.entity := by
      rw [h.keyed.own hget]
      exact h.ne_of_get? hget
    exact exploded_attachBlinding h.keyed h.placed hne player duration

/-- **When a blinding told before an explosion goes to the nearest flash after all.** -/
theorem nearestFlash?_exploded (h : s.Expects n.entity thrower moment) (hallows : m.allows tick moment = true) :
    ∃ e, (s.exploded m n thrower moment).nearestFlash? m thrower tick = some e ∧
      (((s.nearestFlash? m thrower tick).map (·.entity)).getD n.entity = e.entity ↔
        ((∃ x, s.Fits m thrower tick x) →
          ∃ x, s.Fits m thrower tick x ∧ Tick.apart tick x.tick < Tick.apart tick moment)) := by
  cases he : s.nearestFlash? m thrower tick with
  | none =>
    have hnone := nearestFlash?_eq_none_iff.1 he
    refine ⟨_, nearestFlash?_exploded_of_nearer h.absent hallows (fun x hx => absurd hx (hnone x)), ?_⟩
    rw [entity_burstOf]
    exact iff_of_true rfl (fun ⟨x, hx⟩ => absurd hx (hnone x))
  | some e =>
    have hfits := fits_of_nearestFlash? he
    by_cases hlt : Tick.apart tick e.tick < Tick.apart tick moment
    · exact ⟨e, nearestFlash?_exploded_of_farther h.absent hallows he hlt, iff_of_true rfl (fun _ => ⟨e, hfits, hlt⟩)⟩
    · have hfarther : ∀ x, s.Fits m thrower tick x → Tick.apart tick moment < Tick.apart tick x.tick := by
        intro x hx
        refine lt_of_le_of_ne ((not_lt.1 hlt).trans (apart_le_of_nearestFlash? he hx)) (fun heq => ?_)
        exact h.first x (Table.mem_values_iff.2 hx.1) ⟨hx.thrower_eq, (Tick.apart_inj heq).symm⟩
      refine ⟨_, nearestFlash?_exploded_of_nearer h.absent hallows hfarther, iff_of_false (fun heq => ?_) (fun hnear => ?_)⟩
      · obtain ⟨⟨entity, hget⟩, -⟩ := hfits
        rw [entity_burstOf] at heq
        exact h.ne_of_get? hget (heq.symm.trans (h.keyed.own hget))
      · obtain ⟨x, hx, hnearer⟩ := hnear ⟨e, hfits⟩
        exact lt_asymm hnearer (hfarther x hx)

theorem recordFlashExplode_first {flasher : Actor} (c : Config) (h : s.Expects n.entity flasher.id moment)
    (ho : s.round.isOpen = true) (hn : n.thrower = some flasher)
    (hd : s.tables.detonations.contains (flasher.id, moment) = false) :
    (s.recordFlashExplode c n moment).state = s.exploded c.flashMatching n flasher.id moment := by
  rw [recordFlashExplode_state c moment ho hn h.absent, hd]
  rfl

/-- **A blinding told before an explosion or after it.** -/
theorem recordFlashed_either_order {player attacker flasher : Actor} {notice : FlashedNotice}
    (h : s.Expects n.entity flasher.id moment) (hallows : c.flashMatching.allows tick moment = true)
    (ho : s.round.isOpen = true) (hn : n.thrower = some flasher)
    (hd : s.tables.detonations.contains (flasher.id, moment) = false) (hp : notice.player = some player)
    (ha : notice.attacker = some attacker) (hsame : attacker.id = flasher.id) {e : FlashEffect}
    (he : (s.exploded c.flashMatching n flasher.id moment).nearestFlash? c.flashMatching flasher.id tick = some e) :
    ((s.recordFlashed c notice tick).state.recordFlashExplode c n moment).state =
        (s.exploded c.flashMatching n flasher.id moment).blindFrom
          (((s.nearestFlash? c.flashMatching flasher.id tick).map (·.entity)).getD n.entity) player.id
          notice.duration.toFloat ∧
      ((s.exploded c.flashMatching n flasher.id moment).recordFlashed c notice tick).state =
        (s.exploded c.flashMatching n flasher.id moment).blindFrom e.entity player.id notice.duration.toFloat := by
  have hopen : (s.exploded c.flashMatching n flasher.id moment).round.isOpen = true := ho
  rw [recordFlashed_state c tick ho hp ha, recordFlashed_state c tick hopen hp ha, hsame]
  unfold blindFrom
  by_cases hlasts : notice.duration.toFloat ≤ 0
  · simp only [if_pos hlasts]
    exact ⟨recordFlashExplode_first c h ho hn hd, trivial⟩
  · simp only [if_neg hlasts]
    have hnoted : (s.noteBlinded player.id).Expects n.entity flasher.id moment := h.frame rfl rfl rfl
    have hplaced := hnoted.placeBlinding c.flashMatching player.id flasher.id tick notice.duration.toFloat
    obtain ⟨hround, hdetonations⟩ :=
      placeBlinding_frame (s.noteBlinded player.id) c.flashMatching player.id flasher.id tick notice.duration.toFloat
    constructor
    · rw [recordFlashExplode_first c hplaced (by rw [hround]; exact ho) hn (by rw [hdetonations]; exact hd),
        exploded_placeBlinding_nearest hnoted hallows, exploded_noteBlinded]
      rfl
    · exact placeBlinding_of_nearestFlash? (s := (s.exploded _ n flasher.id moment).noteBlinded player.id) he _ _

end MatchState

namespace Processor

open MatchState

variable {header : Header} {config : Config} {p : Processor}

/-- **Which flash a blinding near an explosion goes to.**  In an open round of any match, a flash explodes for the first
time, the only one of its thrower at its tick, and a blinding by that thrower can belong to it.  Told after the
explosion, the blinding goes to the nearest flash.  Told before it, the blinding goes to the nearest flash of those known
then, and to the one that explodes only if there was none to go to.  The two are one if there was no such flash, or a
nearer one than the flash that explodes, and else they are not. -/
theorem nearest_flash_iff (h : Fresh header config p) (events : List TimedEvent)
    (ho : (p.after events).state.round.isOpen = true) (c : Config) {n : ProjectileNotice} {flasher : Actor}
    (hn : n.thrower = some flasher) {moment : Tick}
    (hdetonated : (p.after events).state.tables.detonations.contains (flasher.id, moment) = false)
    (hnew : ∀ entity effect, (p.after events).state.tables.flashes.get? entity = some effect →
      entity ≠ n.entity ∧ ¬ (effect.thrower = flasher.id ∧ effect.tick = moment))
    {notice : FlashedNotice} {player attacker : Actor} (hp : notice.player = some player)
    (ha : notice.attacker = some attacker) (hsame : attacker.id = flasher.id) {tick : Tick}
    (hallows : c.flashMatching.allows tick moment = true) :
    let s := (p.after events).state
    let exploded := (s.recordFlashExplode c n moment).state
    ∃ early late,
      ((s.recordFlashed c notice tick).state.recordFlashExplode c n moment).state =
          exploded.blindFrom early player.id notice.duration.toFloat ∧
        (exploded.recordFlashed c notice tick).state = exploded.blindFrom late player.id notice.duration.toFloat ∧
        exploded.IsNearest c.flashMatching flasher.id tick late ∧
        (s.IsNearest c.flashMatching flasher.id tick early ∨
          (∀ x, ¬ s.Fits c.flashMatching flasher.id tick x) ∧ early = n.entity) ∧
        (early = late ↔
          ((∃ x, s.Fits c.flashMatching flasher.id tick x) →
            ∃ x, s.Fits c.flashMatching flasher.id tick x ∧ Tick.apart tick x.tick < Tick.apart tick moment)) := by
  have hexpects : (p.after events).state.Expects n.entity flasher.id moment := by
    refine ⟨h.keyed events, h.placed_of_follows (follows_after p events), ?_, fun e he => ?_⟩
    · cases hg : (p.after events).state.tables.flashes.get? n.entity with
      | none => rfl
      | some effect => exact absurd rfl (hnew _ _ hg).1
    · obtain ⟨entity, hg⟩ := Table.mem_values_iff.1 he
      exact (hnew _ _ hg).2
  intro s exploded
  have hexploded : exploded = s.exploded c.flashMatching n flasher.id moment :=
    recordFlashExplode_first c hexpects ho hn hdetonated
  obtain ⟨e, he, hiff⟩ := nearestFlash?_exploded hexpects hallows
  obtain ⟨hearly, hlate⟩ :=
    recordFlashed_either_order hexpects hallows ho hn hdetonated hp ha hsame he
  rw [hexploded]
  refine ⟨_, e.entity, hearly, hlate, isNearest_of_nearestFlash? he, ?_, hiff⟩
  cases hknown : s.nearestFlash? c.flashMatching flasher.id tick with
  | none => exact .inr ⟨nearestFlash?_eq_none_iff.1 hknown, rfl⟩
  | some x => exact .inl (isNearest_of_nearestFlash? hknown)

/-- A flash of player 1 at tick 100, and another at tick 106 with a blinding at that tick.  Told before the second flash,
the blinding goes to the first, which is within the ten ticks, and told after it to the second. -/
theorem nearest_flash_iff_of_two :
    ∃ (s : MatchState) (c : Config) (n : ProjectileNotice) (notice : FlashedNotice),
      s = (({ config := {}, state := MatchState.new { mapName := "de_dust2" } {} } : Processor).after
        [⟨0, .playerConnect { id := 1, allegiance := .counterTerrorist }⟩, ⟨1, .roundStart⟩,
         ⟨100, .flashExplode { entity := 51, weapon := .flashbang, position := .zero
                               thrower := some { id := 1, allegiance := .counterTerrorist } }⟩]).state ∧
      c = { flashMatching := .nearestWithin 10 } ∧
      n = { entity := 52, weapon := .flashbang, position := .zero
            thrower := some { id := 1, allegiance := .counterTerrorist } } ∧
      notice = { player := some { id := 2, allegiance := .terrorist }, duration := 2
                 attacker := some { id := 1, allegiance := .counterTerrorist } } ∧
      ∃ early late,
        ((s.recordFlashed c notice 106).state.recordFlashExplode c n 106).state =
          (s.recordFlashExplode c n 106).state.blindFrom early 2 notice.duration.toFloat ∧
        ((s.recordFlashExplode c n 106).state.recordFlashed c notice 106).state =
          (s.recordFlashExplode c n 106).state.blindFrom late 2 notice.duration.toFloat ∧
        early ≠ late := by
  have h : Fresh { mapName := "de_dust2" } {} _ := .default rfl
  refine ⟨_, _, _, _, rfl, rfl, rfl, rfl, ?_⟩
  generalize hs : (({ config := {}, state := MatchState.new { mapName := "de_dust2" } {} } : Processor).after _).state = s
  have hopen : s.round.isOpen = true := hs ▸ (by decide +kernel)
  have hdetonated : s.tables.detonations.contains (1, 106) = false := hs ▸ (by decide +kernel)
  have hflash : s.tables.flashes.entries.map (fun e => (e.1, e.2.round, e.2.thrower, e.2.tick)) =
      [(51, s.round.number, 1, 100)] := hs ▸ (by decide +kernel)
  have hknown {entity : EntityId} {effect : FlashEffect} (he : s.tables.flashes.get? entity = some effect) :
      entity = 51 ∧ effect.round = s.round.number ∧ effect.thrower = 1 ∧ effect.tick = 100 := by
    have hmem := List.mem_map_of_mem (f := fun e => (e.1, e.2.round, e.2.thrower, e.2.tick)) (Table.mem_entries_iff.2 he)
    simpa [hflash] using hmem
  obtain ⟨first, hfirst⟩ : ∃ first, s.tables.flashes.get? 51 = some first :=
    Option.isSome_iff_exists.1 (hs ▸ (by decide +kernel))
  have hthrower : ({ entity := 52, weapon := .flashbang, position := .zero
                     thrower := some { id := 1, allegiance := .counterTerrorist } } : ProjectileNotice).thrower =
      some { id := 1, allegiance := .counterTerrorist } := rfl
  have hplayer : ({ player := some { id := 2, allegiance := .terrorist }, duration := 2
                    attacker := some { id := 1, allegiance := .counterTerrorist } } : FlashedNotice).player =
      some { id := 2, allegiance := .terrorist } := rfl
  have hallows : ({ flashMatching := .nearestWithin 10 } : Config).flashMatching.allows 106 106 = true := by decide
  have hnew (entity : EntityId) (effect : FlashEffect) (he : s.tables.flashes.get? entity = some effect) :
      entity ≠ 52 ∧ ¬ (effect.thrower = 1 ∧ effect.tick = 106) := by
    obtain ⟨rfl, -, -, htick⟩ := hknown he
    exact ⟨by decide, fun hsame => absurd (htick.symm.trans hsame.2) (by decide)⟩
  have hfits : accepts first s.round.number (.nearestWithin 10) 1 106 = true := by
    obtain ⟨-, hround, hthrower, htick⟩ := hknown hfirst
    simp [accepts, FlashMatching.allows, hround, hthrower, htick]
  subst hs
  obtain ⟨early, late, hearly, hlate, -, -, hiff⟩ :=
    nearest_flash_iff h _ hopen _ hthrower hdetonated hnew hplayer rfl rfl hallows
  refine ⟨early, late, hearly, hlate, fun heq => ?_⟩
  -- the first flash is known, and it is not nearer to tick 106 than tick 106 is
  obtain ⟨x, ⟨⟨entity, hx⟩, -⟩, hlt⟩ := hiff.1 heq ⟨first, ⟨51, hfirst⟩, hfits⟩
  rw [(hknown hx).2.2.2, Tick.apart, Tick.apart, Prod.Lex.toLex_lt_toLex] at hlt
  revert hlt
  decide

end Processor

end Scorebook
