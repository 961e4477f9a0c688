import Scorebook.Proofs.Introductions
import Scorebook.Proofs.Provenance
/-!
# Whether a thrower is registered

A match registers whoever an event introduces on a side, and nobody else (`registered_iff_introduced`).  A weapon that is
fired introduces its shooter, but a projectile that appears does not introduce its thrower.  So a grenade whose fire was
not seen has a record, and its thrower is registered only if some other event has introduced the thrower.
-/
namespace Scorebook

/-- A grenade that is fired in an open round introduces who fires it. -/
theorem Event.mem_introduced_of_fire {e : Event} {a : Actor} {kind : GrenadeKind} (h : e.fire? = some (a, kind)) :
    a ∈ e.introduced true := by
  cases e with
  | weaponFire n =>
    unfold fire? at h
    cases hs : n.shooter with
    | none =>
      simp only [hs] at h
      cases h
    | some shooter =>
      cases hk : n.weapon.bind Weapon.grenadeKind? with
      | none =>
        simp only [hs, hk] at h
        cases h
      | some k =>
        simp only [hs, hk, Option.some.injEq, Prod.mk.injEq] at h
        obtain ⟨weapon, hw, -⟩ := Option.bind_eq_some_iff.1 hk
        simp [introduced, hs, hw, h.1]
  | _ => cases h

namespace Processor

open MatchState

/-- An event of a stream has introduced somebody on a side. -/
def Introduced (p : Processor) (events : List TimedEvent) (id : PlayerId) : Prop :=
  Since (fun _ => True)
    (fun before e => ∃ a ∈ e.event.introduced (p.after before).state.round.isOpen,
      a.id = id ∧ a.allegiance.side?.isSome = true) events

variable {header : Header} {config : Config} {p q : Processor} {events : List TimedEvent}

namespace Fresh

/-- **Registered are those who have been introduced on a side.** -/
theorem registered_iff_introduced (h : Fresh header config p) (hq : Reaches p events q) (id : PlayerId) :
    id ∈ q.state.players.keys ↔ p.Introduced events id := by
  rw [← Table.contains_iff_mem_keys]
  refine h.holds_of_reaches (P := fun s => s.players.contains id = true ↔ p.Introduced events id) (fun s hs => ?_) ?_ hq
  · rw [Table.contains_eq_of_keys (KeepsRegistry.closeState s config).players]
    exact hs
  · refine h.traces (P := fun events s => s.players.contains id = true ↔ p.Introduced events id) ?_ ?_ events
    · exact ⟨fun hid => (by cases hid), fun hnil => absurd hnil not_since_nil⟩
    · intro events e ih
      rw [(introduction_next config _ e).contains_iff id, ih, Introduced, Introduced, since_concat, and_true, or_comm]

/-- The event that the throw of a record was captured at: its fire, or else the appearance of its projectile. -/
theorem exists_capture (h : Fresh header config p) (hq : Reaches p events q) {g : Grenade}
    (hg : g ∈ q.state.grenades) :
    ∃ before e later a kind, events = before ++ e :: later ∧ (p.after before).state.round.isOpen = true ∧
      g.thrown = (p.after before).state.captureThrow a kind e.tick ∧
      (e.event.fire? = some (a, kind) ∨ e.event.throw? = some (g.entity, a, kind)) := by
  obtain ⟨places, ht⟩ := h.traced events
  have horigin : g.origin ∈ (p.after events).state.grenades.map Grenade.origin := by
    rw [← h.origins_eq hq]
    exact List.mem_map_of_mem hg
  obtain ⟨i, hi, hget⟩ := List.mem_iff_getElem.1 horigin
  have hthrownAt := ht.records.get (ht.records.length_eq ▸ hi) hi
  rw [List.get_eq_getElem, List.get_eq_getElem, hget] at hthrownAt
  obtain ⟨before, e, later, hsplit, ⟨-, -, hopen, -, a, kind, hthrow, hcaptured⟩, -⟩ := hthrownAt
  rcases hcaptured with ⟨first, e', between, hbefore, ⟨hopen', a', hfire, -, htells⟩, -⟩ | ⟨-, htells⟩
  · exact ⟨first, e', between ++ e :: later, a', kind, by rw [hsplit, hbefore]; simp, hopen', Throw.tells_iff.1 htells,
      .inl hfire⟩
  · exact ⟨before, e, later, a, kind, hsplit, hopen, Throw.tells_iff.1 htells, .inr hthrow⟩

end Fresh

/-- **Which throwers are registered.**  In every state of a match, in progress or closed, the thrower of a grenade record
is registered if and only if an event has introduced the thrower on a side.  The throw of a record was captured in an
open round: at a fire, and then a thrower who was on a side is registered; or where the projectile appeared, and that
alone registers nobody. -/
theorem throwers_registered_iff (h : Fresh header config p) (hq : Reaches p events q) {g : Grenade}
    (hg : g ∈ q.state.grenades) :
    (g.thrower ∈ q.state.players.keys ↔ p.Introduced events g.thrower) ∧
      ∃ before e later a kind, events = before ++ e :: later ∧ (p.after before).state.round.isOpen = true ∧
        a.id = g.thrower ∧ g.thrown = (p.after before).state.captureThrow a kind e.tick ∧
        (e.event.fire? = some (a, kind) ∧
            (a.allegiance.side?.isSome = true → g.thrower ∈ q.state.players.keys) ∨
          e.event.throw? = some (g.entity, a, kind)) := by
  obtain ⟨before, e, later, a, kind, hsplit, hopen, hthrown, hevent⟩ := h.exists_capture hq hg
  have hid : a.id = g.thrower := congrArg Throw.thrower hthrown.symm
  refine ⟨h.registered_iff_introduced hq g.thrower, before, e, later, a, kind, hsplit, hopen, hid, hthrown, ?_⟩
  refine hevent.imp_left (fun hfire => ⟨hfire, fun hside => ?_⟩)
  have hmem : a ∈ e.event.introduced (p.after before).state.round.isOpen :=
    hopen ▸ Event.mem_introduced_of_fire hfire
  exact (h.registered_iff_introduced hq _).2 ⟨before, e, later, hsplit, ⟨a, hmem, hid, hside⟩, fun _ _ => trivial⟩

/-- The projectile of player 1 appears and detonates, and nothing else is told of that player: the record stands, and
player 1 is not registered.  Player 2 is seen to fire, and is. -/
theorem throwers_registered_iff_fired :
    ∃ (events : List TimedEvent) (p q : Processor),
      events =
        [⟨1, .roundStart⟩,
         ⟨40, .projectileThrow { entity := 5, weapon := .smokeGrenade, position := .zero
                                 thrower := some { id := 1, allegiance := .counterTerrorist, isAlive := true } }⟩,
         ⟨100, .smokeStart { entity := 5, weapon := .smokeGrenade, position := .zero, thrower := none }⟩,
         ⟨110, .weaponFire { shooter := some { id := 2, allegiance := .terrorist, isAlive := true }
                             weapon := some .heGrenade }⟩,
         ⟨120, .projectileThrow { entity := 6, weapon := .heGrenade, position := .zero
                                  thrower := some { id := 2, allegiance := .terrorist, isAlive := true } }⟩,
         ⟨150, .projectileDestroy { entity := 6, weapon := .heGrenade, position := .zero, thrower := none }⟩] ∧
      p = { config := {}, state := MatchState.new { mapName := "de_dust2" } {} } ∧ q = p.after events ∧
      q.state.grenades.map (·.thrower) = [1, 2] ∧ q.state.players.keys = [2] ∧
      ¬ p.Introduced events 1 ∧ p.Introduced events 2 := by
  have told (events : List TimedEvent) (p q : Processor) (h : Fresh { mapName := "de_dust2" } {} p)
      (hq : Reaches p events q) (hthrowers : q.state.grenades.map (·.thrower) = [1, 2])
      (hkeys : q.state.players.keys = [2]) : ¬ p.Introduced events 1 ∧ p.Introduced events 2 := by
    obtain ⟨g, hg, hid⟩ : ∃ g ∈ q.state.grenades, g.thrower = 1 := List.mem_map.1 (by simp [hthrowers])
    obtain ⟨g', hg', hid'⟩ : ∃ g ∈ q.state.grenades, g.thrower = 2 := List.mem_map.1 (by simp [hthrowers])
    have hiff := (throwers_registered_iff h hq hg).1
    have hiff' := (throwers_registered_iff h hq hg').1
    rw [hid, hkeys] at hiff
    rw [hid', hkeys] at hiff'
    exact ⟨fun hintroduced => absurd (hiff.2 hintroduced) (by decide), hiff'.1 (by decide)⟩
  refine ⟨_, _, _, rfl, rfl, rfl, ?_, ?_, told _ _ _ (.default rfl) .running ?_ ?_⟩ <;> decide +kernel

end Processor

end Scorebook
