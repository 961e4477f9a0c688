import Scorebook.Proofs.Provenance
/-!
# What a round keeps in mind is its own

Six tables hold what a round waits for.  Most handlers fill them, and they are emptied when a round begins and when the
match starts over.  Some of them point to a place among the grenade records, which the start of the match over takes
away and the start of a round does not.  `RoundTables.Own` says that nothing in them is of another round, and that every
place has the record that belongs there.
-/
namespace Scorebook

/-! ## Places among the records -/

/-- At this place stands the record of a projectile of a round. -/
def Recorded (grenades : List Grenade) (round : Nat) (entity : EntityId) (place : Nat) : Prop :=
  ∃ g, grenades[place]? = some g ∧ g.entity = entity ∧ g.round = round

section Recorded

variable {grenades grenades' : List Grenade} {round : Nat} {entity : EntityId} {place : Nat}

theorem recorded_iff : Recorded grenades round entity place ↔
    ∃ thrown : Throw, (grenades.map Grenade.origin)[place]? = some (entity, thrown) ∧ thrown.round = round := by
  rw [List.getElem?_map]
  constructor
  · rintro ⟨g, hg, rfl, hr⟩
    exact ⟨g.thrown, by rw [hg]; rfl, hr⟩
  · rintro ⟨thrown, ho, hr⟩
    obtain ⟨g, hg, heq⟩ := Option.map_eq_some_iff.1 ho
    obtain ⟨rfl, rfl⟩ := Prod.mk.inj heq
    exact ⟨g, hg, rfl, hr⟩

/-- A record stays where it is when others are entered behind it. -/
theorem Recorded.grow (h : Recorded grenades round entity place)
    (hg : grenades.map Grenade.origin <+: grenades'.map Grenade.origin) : Recorded grenades' round entity place := by
  rw [recorded_iff] at h ⊢
  obtain ⟨thrown, ho, hr⟩ := h
  obtain ⟨later, hlater⟩ := hg
  refine ⟨thrown, ?_, hr⟩
  rw [← hlater, List.getElem?_append_left (List.getElem?_eq_some_iff.1 ho).1]
  exact ho

/-- **Two projectiles have two places.** -/
theorem Recorded.entity_eq {x y : EntityId} (hx : Recorded grenades round x place)
    (hy : Recorded grenades round y place) : x = y := by
  obtain ⟨g, hg, rfl, -⟩ := hx
  obtain ⟨g', hg', rfl, -⟩ := hy
  rw [hg] at hg'
  cases hg'
  rfl

end Recorded

/-! ## Tables of a round -/

/-- A flash of a round, under its own entity and with its own record. -/
structure OwnFlash (grenades : List Grenade) (round : Nat) (entity : EntityId) (e : FlashEffect) : Prop where
  own : e.entity = entity
  current : e.round = round
  place : ∀ i, e.grenade = some i → Recorded grenades round entity i

/-- A throw of a round, under its own thrower and kind. -/
structure OwnThrow (round : Nat) (key : PlayerId × GrenadeKind) (t : Throw) : Prop where
  own : (t.thrower, t.kind) = key
  current : t.round = round

/-- **Nothing in the tables is of another round**, and what stands for a record has it. -/
structure RoundTables.Own (t : RoundTables) (grenades : List Grenade) (round : Nat) : Prop where
  flashes : t.flashes.All (OwnFlash grenades round)
  blindings : ∀ b ∈ t.pendingBlindings, b.round = round
  pendingThrows : t.pendingThrows.All (OwnThrow round)
  throws : t.throws.All (fun _ x => x.round = round)
  records : t.records.All (Recorded grenades round)

namespace RoundTables

variable {t t' : RoundTables} {grenades grenades' : List Grenade} {round : Nat}

theorem own_empty (grenades : List Grenade) (round : Nat) : Own {} grenades round where
  flashes := Table.all_empty
  blindings b hb := by cases hb
  pendingThrows := Table.all_empty
  throws := Table.all_empty
  records := Table.all_empty

/-- What the tables say of the records stays true when others are entered behind them. -/
theorem Own.grow (h : t.Own grenades round) (hg : grenades.map Grenade.origin <+: grenades'.map Grenade.origin) :
    t.Own grenades' round where
  flashes := h.flashes.imp (fun _ _ hf => ⟨hf.own, hf.current, fun i hi => (hf.place i hi).grow hg⟩)
  blindings := h.blindings
  pendingThrows := h.pendingThrows
  throws := h.throws
  records := h.records.imp (fun _ _ hr => hr.grow hg)

end RoundTables

namespace MatchState

variable {s s' : MatchState} {entity : EntityId}

/-- The tables of a match are those of its round in progress. -/
def OwnTables (s : MatchState) : Prop := s.tables.Own s.grenades s.round.number

/-- A throw that flew gets its record behind all others. -/
theorem recorded_next (h : OwnTables s) {thrown : Throw} (ht : s.tables.throws.get? entity = some thrown)
    {grenades : List Grenade} (ho : grenades.map Grenade.origin = s.originsAfter entity) :
    Recorded grenades s.round.number entity s.grenades.length := by
  have hlength : (s.grenades.map Grenade.origin).length = s.grenades.length := List.length_map _
  rw [recorded_iff]
  refine ⟨thrown, ?_, h.throws ht⟩
  rw [ho, originsAfter, ht, List.getElem?_append_right (Nat.le_of_eq hlength), hlength, Nat.sub_self]
  rfl

/-- The record of a flash that explodes is the next, if its throw was seen. -/
theorem place_burstOf (s : MatchState) (m : FlashMatching) (n : ProjectileNotice) (thrower : PlayerId) (tick : Tick) :
    (s.burstOf m n thrower tick).effect.grenade =
      (s.tables.throws.get? n.entity).map (fun _ => s.grenades.length) := by
  have hnext : (s.burstOf m n thrower tick).effect.grenade =
      (s.burstOf m n thrower tick).record.map (fun _ => s.grenades.length) :=
    isNext_blindAll _ _ (isNext_firstBurst s n thrower tick)
  have hrecord := congrArg (Option.map (fun _ => s.grenades.length)) (origin_burstOf s m n thrower tick)
  rw [Option.map_map, Option.map_map] at hrecord
  exact hnext.trans hrecord

namespace OwnTables

theorem keyed (h : OwnTables s) : Keyed s := ⟨fun he => (h.flashes he).own⟩

theorem calm (h : OwnTables s) (hc : Calm s s') : OwnTables s' := by
  unfold OwnTables at h ⊢
  rw [hc.tables, hc.number]
  exact h.grow (hc.origins ▸ List.prefix_rfl)

theorem recordGrenadeFire (h : OwnTables s) (a : Actor) (kind : GrenadeKind) (tick : Tick) :
    OwnTables (s.recordGrenadeFire a kind tick) where
  flashes := h.flashes
  blindings := h.blindings
  pendingThrows := h.pendingThrows.insert ⟨rfl, rfl⟩
  throws := h.throws
  records := h.records

theorem bindThrow (h : OwnTables s) (entity : EntityId) (a : Actor) (kind : GrenadeKind) (tick : Tick) :
    OwnTables (s.bindThrow entity a kind tick) := by
  have hround : ((s.tables.pendingThrows.get? (a.id, kind)).getD (s.captureThrow a kind tick)).round =
      s.round.number := by
    cases hp : s.tables.pendingThrows.get? (a.id, kind) with
    | none => rfl
    | some t => exact (h.pendingThrows hp).current
  constructor
  · exact h.flashes
  · exact h.blindings
  · exact h.pendingThrows.erase _
  · exact h.throws.insert hround
  · exact h.records

theorem noteThrower (h : OwnTables s) (n : ProjectileNotice) (tick : Tick) : OwnTables (s.noteThrower n tick) := by
  rw [noteThrower_eq]
  exact ⟨h.flashes, h.blindings, h.pendingThrows, h.throws, h.records⟩

/-- **A throw that flew lands in the records.** -/
theorem recordGrenade (h : OwnTables s) {n : ProjectileNotice} {thrown : Throw}
    (ht : s.tables.throws.get? n.entity = some thrown) (tick : Tick) : OwnTables (s.recordGrenade n thrown tick) := by
  have ho : (s.grenades ++ [grenadeOf thrown n tick]).map Grenade.origin = s.originsAfter n.entity :=
    origins_recordGrenade ht tick
  have hgrown : s.tables.Own (s.grenades ++ [grenadeOf thrown n tick]) s.round.number :=
    h.grow (ho ▸ List.prefix_append _ _)
  unfold MatchState.recordGrenade
  rw [noteThrower_eq]
  constructor
  · exact hgrown.flashes
  · exact h.blindings
  · exact h.pendingThrows
  · exact h.throws.erase _
  · exact hgrown.records.insert (recorded_next h ht ho)

/-- Flashes leave throws and records as they are. -/
theorem flashWork (h : OwnTables s) (hw : FlashWork s s')
    (hf : s'.tables.flashes.All (OwnFlash s.grenades s.round.number))
    (hb : ∀ b ∈ s'.tables.pendingBlindings, b.round = s.round.number) : OwnTables s' := by
  obtain ⟨_, _, grenades, _, rfl, hg⟩ := hw
  have hown : RoundTables.Own _ s.grenades s.round.number := ⟨hf, hb, h.pendingThrows, h.throws, h.records⟩
  exact hown.grow (hg ▸ List.prefix_rfl)

theorem moveFlash (h : OwnTables s) {e : FlashEffect} (he : s.tables.flashes.get? entity = some e) (tick : Tick)
    (position : Vector3) : OwnTables (s.moveFlash e tick position) := by
  have htables : (s.moveFlash e tick position).tables =
      { s.tables with flashes := s.tables.flashes.insert e.entity { e with tick, position } } :=
    tables_modifyGrenade _ _ _
  have hown := h.flashes he
  apply h.flashWork (flashWork_moveFlash s e tick position)
  · rw [htables]
    exact h.flashes.insert ⟨rfl, hown.current, fun i hi => hown.own ▸ hown.place i hi⟩
  · rw [htables]
    exact h.blindings

/-- **A flash that explodes for the first time comes with the record of its throw**, if that was seen. -/
theorem exploded (h : OwnTables s) (m : FlashMatching) (n : ProjectileNotice) (thrower : PlayerId) (tick : Tick) :
    OwnTables (s.exploded m n thrower tick) := by
  have ho := origins_exploded s m n thrower tick
  have hgrown : s.tables.Own (s.exploded m n thrower tick).grenades s.round.number :=
    h.grow (ho ▸ List.prefix_append _ _)
  have hflash : OwnFlash (s.exploded m n thrower tick).grenades s.round.number
      (s.burstOf m n thrower tick).effect.entity (s.burstOf m n thrower tick).effect := by
    refine ⟨rfl, round_burstOf s m n thrower tick, fun i hi => ?_⟩
    rw [place_burstOf] at hi
    obtain ⟨thrown, ht, rfl⟩ := Option.map_eq_some_iff.1 hi
    rw [entity_burstOf]
    exact recorded_next h ht ho
  constructor
  · exact hgrown.flashes.insert hflash
  · exact fun b hb => h.blindings b (List.mem_of_mem_filter hb)
  · exact h.pendingThrows
  · exact h.throws.erase _
  · show Table.All _ (if s.tables.throws.contains n.entity then _ else _)
    split
    · next hc =>
      obtain ⟨thrown, ht⟩ := Table.contains_iff.1 hc
      exact hgrown.records.insert (recorded_next h ht ho)
    · exact hgrown.records

theorem placeBlinding (h : OwnTables s) (m : FlashMatching) (player thrower : PlayerId) (tick : Tick)
    (duration : Float) : OwnTables (s.placeBlinding m player thrower tick duration) := by
  apply h.flashWork (flashWork_placeBlinding s m player thrower tick duration)
  · intro entity e he
    have hsame := map_get?_placeBlinding (g := fun e => (e.entity, e.round, e.grenade)) h.keyed (fun _ _ => rfl) m
      player thrower tick duration entity
    rw [he] at hsame
    obtain ⟨e', he', heq⟩ := Option.map_eq_some_iff.1 hsame.symm
    obtain ⟨hentity, hround, hgrenade⟩ : e'.entity = e.entity ∧ e'.round = e.round ∧ e'.grenade = e.grenade := by
      simpa using heq
    have hown := h.flashes he'
    exact ⟨hentity ▸ hown.own, hround ▸ hown.current, fun i hi => hown.place i (hgrenade.trans hi)⟩
  · unfold MatchState.placeBlinding
    split
    · next other _ =>
      obtain ⟨_, _, _, hs, -⟩ := attachBlinding_frame s other player duration
      rw [hs]
      exact h.blindings
    · intro b hb
      rcases List.mem_append.1 hb with hb | hb
      · exact h.blindings b hb
      · rw [List.mem_singleton.1 hb]

/-- **Whatever an event does to grenades, the tables are those of the round in progress.** -/
theorem arming {c : Config} {tick : Tick} {e : Event} (h : OwnTables s) (ha : Arming c s tick e s') :
    OwnTables s' := by
  cases ha with
  | spared _ _ hc => exact h.calm hc
  | restarted =>
    unfold restart
    split
    · exact h
    · exact RoundTables.own_empty _ _
  | begun => exact RoundTables.own_empty _ _
  | fired _ _ hc => exact (h.recordGrenadeFire _ _ tick).calm hc
  | thrown => exact h.bindThrow _ _ _ tick
  | unseen => exact h.noteThrower _ tick
  | detonated _ _ ht => exact h.recordGrenade ht tick
  | moved _ _ he => exact h.moveFlash he tick _
  | exploded => exact h.exploded _ _ _ tick
  | @blinded n player thrower =>
    have hb : OwnTables (s.noteBlinded player.id) := ⟨h.flashes, h.blindings, h.pendingThrows, h.throws, h.records⟩
    exact hb.placeBlinding _ _ _ tick _

end OwnTables

end MatchState

namespace Processor

variable {header : Header} {config : Config} {p q : Processor}

theorem Fresh.ownTables (h : Fresh header config p) (hq : Follows p q) : q.state.OwnTables := by
  obtain ⟨events, hr⟩ := h.reaches_of_follows hq
  apply h.holds_of_reaches (fun s hs => hs.calm (.closeState s config)) _ hr
  exact h.traces_arming (P := fun _ s => s.OwnTables) (RoundTables.own_empty _ _) (fun hc hs => hs.calm hc)
    (fun ha hs => hs.arming ha) events

theorem Fresh.tables_before_first_round (h : Fresh header config p) (hq : Follows p q)
    (hn : q.state.round.number = 0) : q.state.tables = {} := by
  obtain ⟨events, hr⟩ := h.reaches_of_follows hq
  have hu : q.state.Unarmed := h.holds_of_reaches (fun s hs => hs.calm (.closeState s config)) (h.unarmed events) hr
  exact (hu hn).1

/-- **What a round keeps in mind is its own.**  In every state of a match, in progress or closed, whatever stands in the
tables is of the round in progress and under its own key, each place that they name has the record of its grenade in
this round, and two flashes have two records.  Before the first round there is nothing in them. -/
theorem tables_of_the_round (h : Fresh header config p) (hq : Follows p q) :
    q.state.tables.Own q.state.grenades q.state.round.number ∧
      (∀ a b x y i, q.state.tables.flashes.get? a = some x → q.state.tables.flashes.get? b = some y →
        x.grenade = some i → y.grenade = some i → a = b) ∧
      (q.state.round.number = 0 → q.state.tables = {}) := by
  have hown : q.state.tables.Own q.state.grenades q.state.round.number := h.ownTables hq
  refine ⟨hown, ?_, h.tables_before_first_round hq⟩
  intro a b x y i hx hy hi hj
  exact ((hown.flashes hx).place i hi).entity_eq ((hown.flashes hy).place i hj)

/-- An entity that flashes before the match starts over, and again after it, when the records are gone. -/
theorem tables_of_the_round_after_restart :
    ∃ (q : Processor) (effect : FlashEffect),
      q = ({ config := {}, state := MatchState.new { mapName := "de_dust2" } {} } : Processor).after
        [⟨0, .playerConnect { id := 1, allegiance := .counterTerrorist }⟩, ⟨1, .roundStart⟩,
         ⟨40, .projectileThrow { entity := 8, weapon := .flashbang, position := .zero
                                 thrower := some { id := 1, allegiance := .counterTerrorist } }⟩,
         ⟨50, .projectileThrow { entity := 9, weapon := .flashbang, position := .zero
                                 thrower := some { id := 1, allegiance := .counterTerrorist } }⟩,
         ⟨64, .flashExplode { entity := 8, weapon := .flashbang, position := .zero
                              thrower := some { id := 1, allegiance := .counterTerrorist } }⟩,
         ⟨65, .flashExplode { entity := 9, weapon := .flashbang, position := .zero
                              thrower := some { id := 1, allegiance := .counterTerrorist } }⟩,
         ⟨70, .matchStart⟩, ⟨80, .roundStart⟩,
         ⟨90, .projectileThrow { entity := 9, weapon := .flashbang, position := .zero
                                 thrower := some { id := 1, allegiance := .counterTerrorist } }⟩,
         ⟨99, .flashExplode { entity := 9, weapon := .flashbang, position := .zero
                              thrower := some { id := 1, allegiance := .counterTerrorist } }⟩] ∧
      q.state.tables.flashes.get? 9 = some effect ∧ effect.grenade = some 0 ∧ q.state.tables.records.keys = [9] ∧
      q.state.tables.Own q.state.grenades q.state.round.number := by
  have h : Fresh { mapName := "de_dust2" } {} _ := .default rfl
  refine ⟨_, _, rfl, (Option.some_get ?_).symm, ?_, ?_, (tables_of_the_round h (follows_after _ _)).1⟩
  · decide +kernel
  · decide +kernel
  · decide +kernel

end Processor

end Scorebook
