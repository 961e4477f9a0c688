import Mathlib.Data.List.TakeWhile
import Scorebook.Proofs.Exposure
import Scorebook.Proofs.RoundTables
/-!
# How far a grenade flew

The record of a grenade keeps when and where it came down, and how far that was from the throw.  A flash that is told to
explode again moves in its record, and the distance stays that of the place where it was told first: every record goes
back to the event that told it first, and holds the last place of those told since (`Landed`).  So a record agrees with
itself iff the last place is as far from the throw as the first (`throw_distance_agrees_iff`).
-/
namespace Scorebook

/-! ## What events tell of a place -/

namespace Event

/-- The notice of a projectile that comes down: a smoke that starts, a projectile that is gone, or a flash. -/
def landing? : Event → Option ProjectileNotice
  | .flashExplode n => some n
  | e => e.detonation?

/-- The notice of a flash that explodes, if it is about this projectile and tells who threw it. -/
def explosion? (entity : EntityId) : Event → Option ProjectileNotice
  | .flashExplode n => if n.entity = entity && n.thrower.isSome then some n else none
  | _ => none

theorem explosion?_eq_some_iff {entity : EntityId} {e : Event} {n : ProjectileNotice} :
    e.explosion? entity = some n ↔ e = .flashExplode n ∧ n.entity = entity ∧ n.thrower.isSome = true := by
  cases e with
  | flashExplode m =>
    have hcond : (m.entity = entity && m.thrower.isSome) = true ↔ m.entity = entity ∧ m.thrower.isSome = true := by
      rw [Bool.and_eq_true, decide_eq_true_iff]
    simp only [explosion?, hcond, Option.ite_none_right_eq_some, Option.some.injEq, Event.flashExplode.injEq]
    constructor
    · rintro ⟨hm, rfl⟩
      exact ⟨rfl, hm⟩
    · rintro ⟨rfl, hm⟩
      exact ⟨hm, rfl⟩
  | _ =>
    constructor
    · rintro ⟨⟩
    · rintro ⟨⟨⟩, -⟩

end Event

namespace TimedEvent

/-- When and where a flash is told to explode. -/
def told? (entity : EntityId) (e : TimedEvent) : Option (Tick × Vector3) :=
  (e.event.explosion? entity).map (fun n => (e.tick, n.position))

/-- When and where a flash that has exploded at an event is told to explode again, up to the end of the round.  Other
projectiles are told once. -/
def retold (e : TimedEvent) (later : List TimedEvent) : List (Tick × Vector3) :=
  match e.event with
  | .flashExplode n => (later.takeWhile (·.event.continues)).filterMap (told? n.entity)
  | _ => []

end TimedEvent

open TimedEvent

theorem told?_of_ends {x : TimedEvent} (h : x.event.continues = false) (entity : EntityId) : x.told? entity = none := by
  obtain ⟨tick, e⟩ := x
  cases e <;> first | rfl | cases h

/-- **One more event tells of a flash again, if its round has gone on until then.** -/
theorem retold_concat {e : TimedEvent} {n : ProjectileNotice} (he : e.event = .flashExplode n) {later : List TimedEvent}
    (hl : ∀ x ∈ later, x.event.continues = true) (x : TimedEvent) :
    e.retold (later ++ [x]) = e.retold later ++ (x.told? n.entity).toList := by
  simp only [retold, he]
  rw [List.takeWhile_append_of_pos hl, List.takeWhile_eq_self_iff.2 hl, List.filterMap_append]
  congr 1
  cases hx : x.event.continues with
  | true =>
    simp only [List.takeWhile, hx]
    cases ht : x.told? n.entity with
    | none => exact List.filterMap_cons_none ht
    | some place => exact List.filterMap_cons_some ht
  | false =>
    simp only [List.takeWhile, hx, told?_of_ends hx]
    rfl

theorem retold_concat_of_ended {e : TimedEvent} {later : List TimedEvent}
    (h : ¬ ((∃ n, e.event = .flashExplode n) ∧ ∀ x ∈ later, x.event.continues = true)) (x : TimedEvent) :
    e.retold (later ++ [x]) = e.retold later := by
  unfold retold
  split
  · next n he =>
    have hl : ¬ ∀ x ∈ later, x.event.continues = true := fun hl => h ⟨⟨n, he⟩, hl⟩
    have hlength : (later.takeWhile (·.event.continues)).length ≠ later.length := by
      intro heq
      refine hl (List.takeWhile_eq_self_iff.1 ?_)
      exact List.IsPrefix.eq_of_length (List.takeWhile_prefix _) heq
    rw [List.takeWhile_append, if_neg hlength]
  · rfl

namespace MatchState

variable {s s' : MatchState}

/-! ## What an event leaves of the flights -/

/-- The flash of a projectile is known, with its record at a place of the records. -/
def HasFlash (s : MatchState) (entity : EntityId) (i : Nat) : Prop :=
  ∃ effect, s.tables.flashes.get? entity = some effect ∧ effect.grenade = some i

theorem hasFlash_congr (h : s'.tables.flashes = s.tables.flashes) (entity : EntityId) (i : Nat) :
    s'.HasFlash entity i ↔ s.HasFlash entity i := by
  unfold HasFlash
  rw [h]

/-- A flash is known only in an open round. -/
theorem HasFlash.isOpen {entity : EntityId} {i : Nat} (h : s.HasFlash entity i) (hs : s.course.Sound) (hu : s.Unarmed) :
    s.round.isOpen = true := by
  cases ho : s.round.isOpen with
  | true => rfl
  | false =>
    obtain ⟨effect, he, -⟩ := h
    rw [(hu (number_of_isOpen_eq_false s hs ho)).1] at he
    cases he

/-- The place that a flash names is that of its own record. -/
theorem HasFlash.entity_eq {entity : EntityId} {i : Nat} (h : s.HasFlash entity i) (hown : s.OwnTables) {f : Flight}
    (hf : (s.grenades.map Grenade.flight)[i]? = some f) : f.entity = entity := by
  obtain ⟨effect, he, hi⟩ := h
  obtain ⟨g, hg, rfl, -⟩ := (hown.flashes he).place i hi
  rw [List.getElem?_map, hg] at hf
  cases hf
  rfl

theorem HasFlash.lt {entity : EntityId} {i : Nat} (h : s.HasFlash entity i) (hown : s.OwnTables) :
    i < s.grenades.length := by
  obtain ⟨effect, he, hi⟩ := h
  obtain ⟨g, hg, -⟩ := (hown.flashes he).place i hi
  exact (List.getElem?_eq_some_iff.1 hg).1

theorem flight_addBlinding (g : Grenade) (isEnemy : Bool) (duration : Float) :
    (g.addBlinding isEnemy duration).flight = g.flight := by
  unfold Grenade.addBlinding
  split <;> rfl

theorem flights_modifyGrenade (s : MatchState) (place : Option Nat) {f : Grenade → Grenade}
    (hf : ∀ g, (f g).flight = g.flight) : (s.modifyGrenade place f).grenades.map Grenade.flight =
      s.grenades.map Grenade.flight := by
  unfold modifyGrenade
  split
  · split
    · exact map_modify_of_fixed _ f hf _ _
    · rfl
  · rfl

theorem flights_placeBlinding (s : MatchState) (m : FlashMatching) (player thrower : PlayerId) (tick : Tick)
    (duration : Float) :
    (s.placeBlinding m player thrower tick duration).grenades.map Grenade.flight = s.grenades.map Grenade.flight := by
  unfold placeBlinding attachBlinding
  split
  · split
    · rfl
    · split
      · rfl
      · exact flights_modifyGrenade _ _ (fun g => flight_addBlinding g _ _)
  · rfl

theorem hasFlash_placeBlinding (hk : s.Keyed) (m : FlashMatching) (player thrower : PlayerId) (tick : Tick)
    (duration : Float) (entity : EntityId) (i : Nat) :
    (s.placeBlinding m player thrower tick duration).HasFlash entity i ↔ s.HasFlash entity i := by
  have hplaces := map_get?_placeBlinding (g := (·.grenade)) hk (fun _ _ => rfl) m player thrower tick duration entity
  have hmap (t : MatchState) :
      t.HasFlash entity i ↔ (t.tables.flashes.get? entity).map (·.grenade) = some (some i) :=
    Option.map_eq_some_iff.symm
  rw [hmap, hmap, hplaces]

/-! ### A flash that explodes for the first time -/

section Exploded

variable {m : FlashMatching} {n : ProjectileNotice} {thrower : PlayerId} {tick : Tick}

theorem flight_blindAll (isEnemy : PlayerId → Bool) : ∀ (waited : List PendingBlinding) (b : Burst),
    (b.blindAll isEnemy waited).record.map Grenade.flight = b.record.map Grenade.flight
  | [], _ => rfl
  | p :: waited, b => by
    refine (flight_blindAll isEnemy waited (b.blind (isEnemy p.player) p.player p.duration)).trans ?_
    unfold Burst.blind
    split
    · rfl
    · rw [Option.map_map]
      exact congrFun (congrArg Option.map (funext (fun g => flight_addBlinding g _ _))) b.record

theorem flights_exploded (s : MatchState) (m : FlashMatching) (n : ProjectileNotice) (thrower : PlayerId) (tick : Tick) :
    (s.exploded m n thrower tick).grenades.map Grenade.flight = s.grenades.map Grenade.flight ++
      ((s.tables.throws.get? n.entity).map (fun t => (grenadeOf t n tick).flight)).toList := by
  have hrecord : (s.burstOf m n thrower tick).record.map Grenade.flight =
      (s.tables.throws.get? n.entity).map (fun t => (grenadeOf t n tick).flight) := by
    refine (flight_blindAll _ _ _).trans ?_
    unfold firstBurst
    rw [Option.map_map]
    rfl
  rw [← hrecord, Option.toList_map, ← List.map_append]
  rfl

theorem hasFlash_exploded_self {thrown : Throw} (ht : s.tables.throws.get? n.entity = some thrown) :
    (s.exploded m n thrower tick).HasFlash n.entity s.grenades.length := by
  refine ⟨_, (get?_flashes_exploded s m n thrower tick n.entity).trans (if_pos rfl), ?_⟩
  rw [place_burstOf, ht]
  rfl

/-- A flash that explodes for the first time has none of the records that there are. -/
theorem hasFlash_exploded (he : s.tables.flashes.get? n.entity = none) {i : Nat} (hi : i < s.grenades.length)
    (entity : EntityId) : (s.exploded m n thrower tick).HasFlash entity i ↔ s.HasFlash entity i := by
  unfold HasFlash
  rw [get?_flashes_exploded]
  split
  · next hkey =>
    rw [← hkey, he]
    constructor
    · rintro ⟨effect, ⟨⟩, hplace⟩
      rw [place_burstOf] at hplace
      obtain ⟨-, -, hlength⟩ := Option.map_eq_some_iff.1 hplace
      omega
    · rintro ⟨effect, ⟨⟩, -⟩
  · rfl

end Exploded

end MatchState

/-! ## Where a record was told to have come down -/

namespace Processor

open MatchState

variable {header : Header} {config : Config} {p q : Processor} {events : List TimedEvent}

/-- The event at which the record at a place of a match was entered, with those since: it tells of the projectile and of
the first place, and the distance of the record is that to the first place, its tick and place are the last told. -/
structure LandedAt (p : Processor) (i : Nat) (f : Flight) (before : List TimedEvent) (e : TimedEvent)
    (later : List TimedEvent) (n : ProjectileNotice) : Prop where
  next : (p.after before).state.grenades.length = i
  landing : e.event.landing? = some n
  entity : n.entity = f.entity
  distance : f.distance = f.start.distance n.position
  last : (f.tick, f.place) = (e.retold later).getLast?.getD (e.tick, n.position)

/-- A record goes back to an event, and its flash is known as long as the round of an explosion goes on. -/
def Landed (p : Processor) (events : List TimedEvent) (s : MatchState) (i : Nat) (f : Flight) : Prop :=
  ∃ before e later n, events = before ++ e :: later ∧ p.LandedAt i f before e later n ∧
    (s.HasFlash f.entity i ↔ (∃ m, e.event = .flashExplode m) ∧ ∀ x ∈ later, x.event.continues = true)

def AllLanded (p : Processor) (events : List TimedEvent) (s : MatchState) : Prop :=
  ∀ i f, (s.grenades.map Grenade.flight)[i]? = some f → p.Landed events s i f

namespace Landed

variable {s s' : MatchState} {i : Nat} {f : Flight} {x : TimedEvent}

/-- **One more event tells of a record again if its flash is known.** -/
theorem concat (h : p.Landed events s i f) {tick : Tick} {place : Vector3}
    (hmoved : s.HasFlash f.entity i → (tick, place) = (x.told? f.entity).getD (f.tick, f.place))
    (hstill : ¬ s.HasFlash f.entity i → (tick, place) = (f.tick, f.place))
    (hknown : s'.HasFlash f.entity i ↔ s.HasFlash f.entity i ∧ x.event.continues = true) :
    p.Landed (events ++ [x]) s' i { f with tick, place } := by
  obtain ⟨before, e, later, n, rfl, hl, hflash⟩ := h
  refine ⟨before, e, later ++ [x], n, by simp, ⟨hl.next, hl.landing, hl.entity, hl.distance, ?_⟩, ?_⟩
  · show (tick, place) = _
    by_cases hs : s.HasFlash f.entity i
    · obtain ⟨⟨m, he⟩, hlater⟩ := hflash.1 hs
      have hm : m = n := by
        have hlanding := hl.landing
        rw [he] at hlanding
        exact Option.some.inj hlanding
      rw [hmoved hs, retold_concat he hlater, hm, hl.entity, hl.last]
      cases x.told? f.entity with
      | none => simp
      | some y => simp
    · rw [hstill hs, retold_concat_of_ended (fun hgoes => hs (hflash.2 hgoes)), hl.last]
  · show s'.HasFlash f.entity i ↔ _
    rw [hknown, hflash, List.forall_mem_append, List.forall_mem_singleton, and_assoc]

end Landed

/-- A record that is entered at an event goes back to it. -/
theorem landed_new {s' : MatchState} {x : TimedEvent} {n : ProjectileNotice} (hn : x.event.landing? = some n) {f : Flight}
    (hentity : n.entity = f.entity) (hdistance : f.distance = f.start.distance n.position)
    (hplace : (f.tick, f.place) = (x.tick, n.position))
    (hknown : s'.HasFlash f.entity (p.after events).state.grenades.length ↔ ∃ m, x.event = .flashExplode m) :
    p.Landed (events ++ [x]) s' (p.after events).state.grenades.length f := by
  refine ⟨events, x, [], n, rfl, ⟨rfl, hn, hentity, hdistance, ?_⟩, ?_⟩
  · have hnone : x.retold [] = [] := by
      unfold retold
      split <;> rfl
    rw [hnone, hplace]
    rfl
  · rw [hknown]
    simp

namespace AllLanded

variable {s s' : MatchState} {x : TimedEvent}

/-- **An event that moves no flash leaves the records as they are**, and may enter one more. -/
theorem still (h : p.AllLanded events s)
    (htold : ∀ i f, (s.grenades.map Grenade.flight)[i]? = some f → s.HasFlash f.entity i → x.told? f.entity = none)
    (hknown : ∀ i f, (s.grenades.map Grenade.flight)[i]? = some f →
      (s'.HasFlash f.entity i ↔ s.HasFlash f.entity i ∧ x.event.continues = true))
    (new : Option Flight) (hf : s'.grenades.map Grenade.flight = s.grenades.map Grenade.flight ++ new.toList)
    (hnew : ∀ f ∈ new, p.Landed (events ++ [x]) s' s.grenades.length f) : p.AllLanded (events ++ [x]) s' := by
  have hlength : (s.grenades.map Grenade.flight).length = s.grenades.length := List.length_map _
  intro i f hi
  rw [hf] at hi
  by_cases hlt : i < s.grenades.length
  · rw [List.getElem?_append_left (hlength.symm ▸ hlt)] at hi
    refine (h i f hi).concat (fun hs => ?_) (fun _ => rfl) (hknown i f hi)
    rw [htold i f hi hs]
    rfl
  · rw [List.getElem?_append_right (hlength.symm ▸ Nat.le_of_not_lt hlt), hlength] at hi
    cases new with
    | none => cases hi
    | some f' =>
      obtain ⟨hz, rfl⟩ : i - s.grenades.length = 0 ∧ f' = f := by
        cases hd : i - s.grenades.length with
        | zero =>
          rw [hd] at hi
          exact ⟨rfl, Option.some.inj hi⟩
        | succ k =>
          rw [hd] at hi
          cases hi
      obtain rfl : i = s.grenades.length := by omega
      exact hnew f' rfl

/-- **A flash that moves takes its record along.** -/
theorem moved (h : p.AllLanded events s) (hown : s.OwnTables) {n : ProjectileNotice} {effect : FlashEffect}
    (hx : x.event = .flashExplode n) (hn : n.thrower.isSome = true) (he : s.tables.flashes.get? n.entity = some effect) :
    p.AllLanded (events ++ [x]) (s.moveFlash effect x.tick n.position) := by
  have htold : x.told? n.entity = some (x.tick, n.position) := by
    rw [told?, Event.explosion?_eq_some_iff.2 ⟨hx, rfl, hn⟩]
    rfl
  have hget (k : EntityId) : (s.moveFlash effect x.tick n.position).tables.flashes.get? k =
      if n.entity = k then some { effect with tick := x.tick, position := n.position }
      else s.tables.flashes.get? k := by
    unfold MatchState.moveFlash
    rw [tables_modifyGrenade, ← hown.keyed.own he]
    exact Table.get?_insert _ _ _ _
  have hknown (k : EntityId) (i : Nat) :
      (s.moveFlash effect x.tick n.position).HasFlash k i ↔ s.HasFlash k i ∧ x.event.continues = true := by
    unfold MatchState.HasFlash
    rw [hget, hx]
    by_cases hkey : n.entity = k
    · rw [if_pos hkey, ← hkey, he]
      simp [Event.continues]
    · rw [if_neg hkey]
      simp [Event.continues]
  intro i f' hi
  rw [List.getElem?_map, MatchState.moveFlash, InStep.getElem?_modifyGrenade] at hi
  have hold {g : Grenade} (hg : s.grenades[i]? = some g) : (s.grenades.map Grenade.flight)[i]? = some g.flight := by
    rw [List.getElem?_map, hg]
    rfl
  split at hi
  · next hplace =>
    obtain ⟨g', hg', rfl⟩ := Option.map_eq_some_iff.1 hi
    obtain ⟨g, hg, rfl⟩ := Option.map_eq_some_iff.1 hg'
    have hflash : s.HasFlash n.entity i := ⟨effect, he, hplace⟩
    have hentity : g.flight.entity = n.entity := hflash.entity_eq hown (hold hg)
    refine (h i g.flight (hold hg)).concat (fun _ => ?_) (fun hs => absurd (hentity ▸ hflash) hs) (hknown _ i)
    rw [hentity, htold]
    rfl
  · next hplace =>
    obtain ⟨g, hg, rfl⟩ := Option.map_eq_some_iff.1 hi
    refine (h i g.flight (hold hg)).concat (fun hs => ?_) (fun _ => rfl) (hknown _ i)
    -- the record of another flash is not told of
    cases ht : x.told? g.flight.entity with
    | none => rfl
    | some place =>
      obtain ⟨m, hm, -⟩ := Option.map_eq_some_iff.1 ht
      obtain ⟨hmx, hentity, -⟩ := Event.explosion?_eq_some_iff.1 hm
      rw [hx] at hmx
      cases hmx
      obtain ⟨effect', he', hi'⟩ := hs
      rw [← hentity, he] at he'
      cases he'
      exact absurd hi' hplace

/-- **Whatever an event does to grenades, records go back to the events that told where they came down.** -/
theorem arming {c : Config} {s' : MatchState} (h : p.AllLanded events s)
    (hlength : s.grenades.length = (p.after events).state.grenades.length) (hown : s.OwnTables)
    (hs : s.course.Sound) (hu : s.Unarmed)
    (hmoves : ∀ n effect, x.event = .flashExplode n → n.thrower.isSome = true → s.round.isOpen = true →
      s.tables.flashes.get? n.entity = some effect → s' = s.moveFlash effect x.tick n.position)
    (ha : Arming c s x.tick x.event s') : p.AllLanded (events ++ [x]) s' := by
  by_cases hm : s.round.isOpen = true ∧ ∃ n effect, x.event = .flashExplode n ∧ n.thrower.isSome = true ∧
      s.tables.flashes.get? n.entity = some effect
  · obtain ⟨ho, n, effect, hx, hn, he⟩ := hm
    rw [hmoves n effect hx hn ho he]
    exact h.moved hown hx hn he
  -- no flash that is known is told to explode
  have htold : ∀ i f, (s.grenades.map Grenade.flight)[i]? = some f → s.HasFlash f.entity i →
      x.told? f.entity = none := by
    intro i f _ hflash
    cases ht : x.told? f.entity with
    | none => rfl
    | some place =>
      obtain ⟨n, hn, -⟩ := Option.map_eq_some_iff.1 ht
      obtain ⟨hx, hentity, hthrower⟩ := Event.explosion?_eq_some_iff.1 hn
      have ho := hflash.isOpen hs hu
      obtain ⟨effect, he, -⟩ := hflash
      exact absurd ⟨ho, n, effect, hx, hthrower, hentity ▸ he⟩ hm
  have keep {t : MatchState} (hc : x.event.continues = true) (hf : t.tables.flashes = s.tables.flashes)
      (hg : t.grenades.map Grenade.flight = s.grenades.map Grenade.flight) : p.AllLanded (events ++ [x]) t :=
    h.still htold (fun i f _ => by rw [hasFlash_congr hf, hc, and_iff_left rfl]) none (by rw [hg]; exact (List.append_nil _).symm)
      (fun f hf => by cases hf)
  obtain ⟨tick, event⟩ := x
  cases ha with
  | spared hc _ hcalm => exact keep hc (by rw [hcalm.tables]) hcalm.flights
  | restarted =>
    intro i f hi
    rw [hu.restart.2] at hi
    cases hi
  | begun =>
    refine h.still htold (fun i f _ => ⟨fun hflash => ?_, fun hflash => ?_⟩) none ?_ (fun f hf => by cases hf)
    · obtain ⟨effect, he, -⟩ := hflash
      cases he
    · cases hflash.2
    · exact (Calm.settled s c).flights.trans (List.append_nil _).symm
  | fired _ he hcalm => exact keep (Event.continues_of_fire he) (by rw [hcalm.tables]; rfl) hcalm.flights
  | thrown _ he => exact keep (Event.continues_of_throw he) rfl rfl
  | unseen _ he =>
    rw [noteThrower_eq]
    exact keep (Event.of_detonation he).1 rfl rfl
  | @detonated _ n thrown _ he ht =>
    have hknown (entity : EntityId) (i : Nat) : (s.recordGrenade n thrown tick).HasFlash entity i ↔ s.HasFlash entity i := by
      refine hasFlash_congr ?_ entity i
      unfold recordGrenade
      rw [noteThrower_eq]
    have hlanding : event.landing? = some n := by
      cases event <;> first | exact he | cases he
    refine h.still htold (fun i f _ => ?_) (some (grenadeOf thrown n tick).flight) List.map_append (fun f hf => ?_)
    · rw [hknown, (Event.of_detonation he).1, and_iff_left rfl]
    · cases hf
      rw [hlength]
      refine landed_new hlanding rfl rfl rfl ?_
      rw [hknown, ← hlength]
      constructor
      · exact fun hflash => absurd (hflash.lt hown) (Nat.lt_irrefl _)
      · rintro ⟨m, rfl⟩
        cases he
  | @moved n thrower effect ho hn he =>
    exact absurd ⟨ho, n, effect, rfl, by rw [hn]; rfl, he⟩ hm
  | @exploded n thrower _ hn he =>
    refine h.still htold (fun i f hi => ?_) _ (flights_exploded s c.flashMatching n thrower.id tick) (fun f hf => ?_)
    · have hlt : i < s.grenades.length := by
        have := (List.getElem?_eq_some_iff.1 hi).1
        rwa [List.length_map] at this
      exact (hasFlash_exploded he hlt f.entity).trans (and_iff_left rfl).symm
    · obtain ⟨thrown, ht, rfl⟩ := Option.map_eq_some_iff.1 hf
      rw [hlength]
      refine landed_new rfl rfl rfl rfl ?_
      rw [← hlength]
      exact ⟨fun _ => ⟨n, rfl⟩, fun _ => hasFlash_exploded_self ht⟩
  | @blinded n player thrower =>
    have hk : (s.noteBlinded player.id).Keyed := hown.keyed.mono rfl
    refine h.still htold (fun i f _ => ?_) none ?_ (fun f hf => by cases hf)
    · exact (hasFlash_placeBlinding hk _ _ _ _ _ f.entity i).trans (and_iff_left rfl).symm
    · exact (flights_placeBlinding _ _ _ _ _ _).trans (List.append_nil _).symm

end AllLanded

theorem Fresh.allLanded (h : Fresh header config p) (events : List TimedEvent) :
    p.AllLanded events (p.after events).state := by
  refine h.traces (P := fun events s => p.AllLanded events s) (fun i f hi => by cases hi) (fun events x hp => ?_) events
  have hcalm : Calm (p.after events).state ((p.after events).state.advance x.tick) := .advance _ x.tick
  have hmoves (n : ProjectileNotice) (effect : FlashEffect) (hx : x.event = .flashExplode n)
      (hn : n.thrower.isSome = true) (ho : ((p.after events).state.advance x.tick).round.isOpen = true)
      (he : ((p.after events).state.advance x.tick).tables.flashes.get? n.entity = some effect) :
      (respond config ((p.after events).state.advance x.tick) x.tick x.event).state =
        ((p.after events).state.advance x.tick).moveFlash effect x.tick n.position := by
    obtain ⟨thrower, hthrower⟩ := Option.isSome_iff_exists.1 hn
    rw [hx]
    exact recordFlashExplode_known config x.tick ho hthrower he
  have hnext : p.AllLanded (events ++ [x]) (respond config ((p.after events).state.advance x.tick) x.tick x.event).state :=
    hp.arming (s := (p.after events).state.advance x.tick) rfl ((h.ownTables (follows_after p events)).calm hcalm)
      (h.sound events) ((h.unarmed events).calm hcalm) hmoves (arming_respond config _ x.tick x.event)
  exact hnext

/-- **A record agrees with itself iff its grenade was last told to be as far from the throw as it was told first.**  In
every state of a match, in progress or closed, a record goes back to the event at which it was entered.  Its distance is
that from the throw to the place of this event; its tick and place are those of the last explosion of the flash that
was told in the round, or of the event itself when the flash was not told again or when it is no flash. -/
theorem throw_distance_agrees_iff (h : Fresh header config p) (hq : Reaches p events q) {i : Nat} {g : Grenade}
    (hg : q.state.grenades[i]? = some g) :
    ∃ before e later n, events = before ++ e :: later ∧ (p.after before).state.grenades.length = i ∧
      e.event.landing? = some n ∧ n.entity = g.entity ∧
      g.throwDistance = g.throwPosition.distance n.position ∧
      (g.detonationTick, g.detonationPosition) = (e.retold later).getLast?.getD (e.tick, n.position) ∧
      (g.throwDistance = g.throwPosition.distance g.detonationPosition ↔
        ∀ place ∈ (e.retold later).getLast?,
          g.throwPosition.distance n.position = g.throwPosition.distance place.2) := by
  have hflights : q.state.grenades.map Grenade.flight = (p.after events).state.grenades.map Grenade.flight := by
    cases hq with
    | running => rfl
    | closed =>
      rw [h.finalize_state]
      exact (Calm.closeState _ config).flights
  have hflight : ((p.after events).state.grenades.map Grenade.flight)[i]? = some g.flight := by
    rw [← hflights, List.getElem?_map, hg]
    rfl
  obtain ⟨before, e, later, n, hevents, hl, -⟩ := h.allLanded events i g.flight hflight
  have hdistance : g.throwDistance = g.throwPosition.distance n.position := hl.distance
  have hlast : (g.detonationTick, g.detonationPosition) = (e.retold later).getLast?.getD (e.tick, n.position) := hl.last
  refine ⟨before, e, later, n, hevents, hl.next, hl.landing, hl.entity, hdistance, hlast, ?_⟩
  have hplace : g.detonationPosition = ((e.retold later).getLast?.getD (e.tick, n.position)).2 := congrArg Prod.snd hlast
  rw [hdistance, hplace]
  cases (e.retold later).getLast? <;> simp

/-- A flash that is told to explode again at another place, looked at when the match is over. -/
theorem throw_distance_of_retold_flash :
    ∃ (events : List TimedEvent) (q : Processor) (g : Grenade),
      events =
        [⟨0, .playerConnect { id := 1, allegiance := .counterTerrorist }⟩, ⟨1, .roundStart⟩,
         ⟨50, .projectileThrow { entity := 9, weapon := .flashbang, position := .zero
                                 thrower := some { id := 1, allegiance := .counterTerrorist } }⟩,
         ⟨64, .flashExplode { entity := 9, weapon := .flashbang, position := ⟨300, 400, 0⟩
                              thrower := some { id := 1, allegiance := .counterTerrorist } }⟩,
         ⟨80, .flashExplode { entity := 9, weapon := .flashbang, position := ⟨0, 1000, 0⟩
                              thrower := some { id := 1, allegiance := .counterTerrorist } }⟩] ∧
      q = (({ config := {}, state := MatchState.new { mapName := "de_dust2" } {} } : Processor).after
        events).finalize.processor ∧
      q.state.grenades[0]? = some g ∧ g.throwDistance = Vector3.zero.distance ⟨300, 400, 0⟩ ∧
      g.throwPosition = .zero ∧ g.detonationPosition = ⟨0, 1000, 0⟩ ∧
      ∃ before e later n, events = before ++ e :: later ∧
        (({ config := {}, state := MatchState.new { mapName := "de_dust2" } {} } : Processor).after
          before).state.grenades.length = 0 ∧
        e.event.landing? = some n ∧ n.entity = g.entity ∧
        g.throwDistance = g.throwPosition.distance n.position ∧
        (g.detonationTick, g.detonationPosition) = (e.retold later).getLast?.getD (e.tick, n.position) ∧
        (g.throwDistance = g.throwPosition.distance g.detonationPosition ↔
          ∀ place ∈ (e.retold later).getLast?,
            g.throwPosition.distance n.position = g.throwPosition.distance place.2) := by
  have h : Fresh { mapName := "de_dust2" } {} _ := .default rfl
  refine ⟨_, _, _, rfl, rfl, (Option.some_get ?_).symm, ?_, ?_, ?_, ?_⟩
  · decide +kernel
  · rfl
  · rfl
  · rfl
  · exact throw_distance_agrees_iff h .closed (Option.some_get _).symm

end Processor

end Scorebook
