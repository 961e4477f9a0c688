import Scorebook.Proofs.Choosing
import Scorebook.Proofs.Lookup
import Scorebook.Proofs.Stream
/-!
# A match never fails

No stream, however damaged, stops a match: every event is processed or passed over, the match can be finalized, and
it takes nothing afterwards.  What needs an argument is that a grenade is never looked up at a place without a
record: a flash keeps the place of its record, and the two are forgotten together (`Placed`).
-/
namespace Scorebook

namespace MatchState

/-- Every flash with a record knows a place where a record stands, and no grenade was ever looked up elsewhere. -/
structure Placed (s : MatchState) : Prop where
  place : ∀ {entity : EntityId} {effect : FlashEffect}, s.tables.flashes.get? entity = some effect →
    ∀ i ∈ effect.grenade, i < s.grenades.length
  found : s.strayed = false

namespace Placed

variable {s s' : MatchState}

theorem new (header : Header) (c : Config) : Placed (MatchState.new header c) where
  place h := by cases h
  found := rfl

theorem mono (h : Placed s) (hf : s'.tables.flashes = s.tables.flashes)
    (hg : s.grenades.length ≤ s'.grenades.length) (hs : s'.strayed = s.strayed) : Placed s' where
  place he i hi := Nat.lt_of_lt_of_le (h.place (hf ▸ he) i hi) hg
  found := hs.trans h.found

theorem modifyGrenade (h : Placed s) {place : Option Nat} (hp : ∀ i ∈ place, i < s.grenades.length)
    (f : Grenade → Grenade) : Placed (s.modifyGrenade place f) := by
  unfold MatchState.modifyGrenade
  split
  · next i =>
    rw [if_pos (hp i rfl)]
    exact h.mono rfl (by simp) rfl
  · exact h

theorem setFlash (h : Placed s) (effect : FlashEffect) (hp : ∀ i ∈ effect.grenade, i < s.grenades.length) :
    Placed (s.setFlash effect) where
  place {entity e} he i hi := by
    have he' : (s.tables.flashes.insert effect.entity effect).get? entity = some e := he
    rw [Table.get?_insert] at he'
    split at he'
    · cases he'
      exact hp i hi
    · exact h.place he' i hi
  found := h.found

theorem attachBlinding (h : Placed s) (entity : EntityId) (player : PlayerId) (duration : Float) :
    Placed (s.attachBlinding entity player duration) := by
  unfold MatchState.attachBlinding
  split
  · exact h
  · next effect he =>
    split
    · exact h
    · have hp := h.place he
      refine (h.setFlash _ ?_).modifyGrenade ?_ _ <;> exact hp

theorem placeBlinding (h : Placed s) (m : FlashMatching) (player thrower : PlayerId) (tick : Tick)
    (duration : Float) : Placed (s.placeBlinding m player thrower tick duration) := by
  unfold MatchState.placeBlinding
  split
  · exact h.attachBlinding _ _ _
  · exact h.mono rfl (Nat.le_refl _) rfl

theorem drainBlindings (h : Placed s) (m : FlashMatching) (entity : EntityId) (thrower : PlayerId) (tick : Tick) :
    Placed (s.drainBlindings m entity thrower tick) := by
  unfold MatchState.drainBlindings
  simp only
  refine List.foldlRecOn _ _ ?_ (fun s hs p _ => hs.attachBlinding _ _ _)
  exact h.mono rfl (Nat.le_refl _) rfl

theorem moveFlash (h : Placed s) {entity : EntityId} {effect : FlashEffect}
    (he : s.tables.flashes.get? entity = some effect) (tick : Tick) (position : Vector3) :
    Placed (s.moveFlash effect tick position) :=
  have hp := h.place he
  (h.setFlash { effect with tick, position } hp).modifyGrenade hp _

theorem startFlash (h : Placed s) (c : Config) (n : ProjectileNotice) (thrower : PlayerId) (tick : Tick)
    {place : Option Nat} (hp : ∀ i ∈ place, i < s.grenades.length) :
    Placed (s.startFlash c n thrower tick place) :=
  (h.setFlash _ hp).drainBlindings _ _ _ _

theorem of_mem_swingingFlashes {c : Config} {killer victim : PlayerId} {tick : Tick} {h : FlashEffect × FlashOutcome}
    (hm : h ∈ s.swingingFlashes c killer victim tick) :
    (∃ entity, s.tables.flashes.get? entity = some h.1) ∧ s.flashOutcome? killer victim h.1 = some h.2 := by
  unfold swingingFlashes sortByKey at hm
  rw [List.mem_mergeSort, List.mem_filterMap] at hm
  obtain ⟨e, he, hm⟩ := hm
  split at hm
  · obtain ⟨o, ho, rfl⟩ := Option.map_eq_some_iff.1 hm
    exact ⟨Table.mem_values_iff.1 he, ho⟩
  · cases hm

theorem markFlashes (h : Placed s) (c : Config) (killer victim : PlayerId) (tick : Tick) :
    Placed (s.markFlashes c killer victim tick) := by
  have hm : ∀ e ∈ s.swingingFlashes c killer victim tick, ∀ i ∈ e.1.grenade, i < s.grenades.length :=
    fun e he => h.place (of_mem_swingingFlashes he).1.choose_spec
  have hl (s : MatchState) (place : Option Nat) (f : Grenade → Grenade) :
      (s.modifyGrenade place f).grenades.length = s.grenades.length := by
    unfold MatchState.modifyGrenade
    split
    · split
      · exact List.length_modify ..
      · rfl
    · rfl
  refine (List.foldlRecOn (motive := fun t => Placed t ∧ t.grenades.length = s.grenades.length) _ _
    ⟨h, rfl⟩ (fun t ht e he => ⟨ht.1.modifyGrenade (fun i hi => ?_) _, (hl t _ _).trans ht.2⟩)).1
  rw [ht.2]
  exact hm e he i hi

theorem noteThrower (h : Placed s) (n : ProjectileNotice) (tick : Tick) : Placed (s.noteThrower n tick) := by
  rw [noteThrower_eq]
  exact h.mono rfl (Nat.le_refl _) rfl

theorem recordGrenade (h : Placed s) (n : ProjectileNotice) (thrown : Throw) (tick : Tick) :
    Placed (s.recordGrenade n thrown tick) := by
  unfold MatchState.recordGrenade
  rw [noteThrower_eq]
  exact h.mono rfl (by simp) rfl

theorem observe (h : Placed s) (a : Actor) : Placed (s.observe a) :=
  h.mono (by rw [observe_tables]) (Nat.le_of_eq (by rw [observe_grenades])) (by rw [observe_strayed])

theorem observeOptional (h : Placed s) (a : Option Actor) : Placed (s.observeOptional a) := by
  cases a with
  | none => exact h
  | some a => exact h.observe a

/-- **Every answer of a match keeps flashes and records in step.** -/
theorem kept (c : Config) : Kept c Placed where
  clock _ _ h := h.mono rfl (Nat.le_refl _) rfl
  sights _ _ h := h.mono rfl (Nat.le_refl _) rfl
  answer := by
    intro s tick e step ha h
    have hdied (a : Actor) (cause : ExitCause) : Placed (s.recordDeath a cause tick) :=
      (h.observe a).mono rfl (Nat.le_refl _) rfl
    cases ha with
    | passed | idle => exact h
    | restarted =>
      unfold restart
      split
      · exact h
      · exact { place := fun he => (by cases he), found := h.found }
    | begun =>
      obtain ⟨_, _, _, _, hs, -⟩ := settled_eq s c
      rw [startRound_state, hs]
      exact { place := fun he => (by cases he), found := h.found }
    | thawed hl =>
      unfold recordFreezeEnd
      rw [if_pos hl]
      exact h.mono rfl (Nat.le_refl _) rfl
    | decided =>
      rw [decideRound_eq]
      exact h.mono rfl (Nat.le_refl _) rfl
    | died => exact hdied _ _
    | weaponless => exact hdied _ _
    | @killed n killer victim weapon =>
      have hk := (hdied victim (.killed killer.id)).observe killer
      simp only [enterGunfight]
      split
      · exact hk.mono rfl (Nat.le_refl _) rfl
      · exact (hk.markFlashes c _ _ tick).mono rfl (Nat.le_refl _) rfl
    | hit => exact ((h.observe _).observeOptional _).mono rfl (Nat.le_refl _) rfl
    | fired =>
      refine observe ?_ _
      unfold fire
      split
      · exact h.mono rfl (Nat.le_refl _) rfl
      · split
        · exact h.mono rfl (Nat.le_refl _) rfl
        · exact h
    | thrown => exact h.mono rfl (Nat.le_refl _) rfl
    | unseen => exact h.noteThrower _ tick
    | detonated => exact h.recordGrenade _ _ tick
    | flashMoved ho he => exact h.moveFlash he tick _
    | flashUnseen => exact (h.noteThrower _ tick).startFlash c _ _ tick (fun i hi => by cases hi)
    | flashStarted =>
      refine (h.recordGrenade _ _ tick).startFlash c _ _ tick (fun i hi => ?_)
      cases hi
      simp [MatchState.recordGrenade]
    | @blinded n player thrower =>
      have hb : Placed (s.noteBlinded player.id) := h.mono rfl (Nat.le_refl _) rfl
      exact hb.placeBlinding _ _ _ tick _
    | bombed => exact (h.observeOptional _).mono rfl (Nat.le_refl _) rfl
    | shown => exact h.observe _
    | left | gone => exact h.mono rfl (Nat.le_refl _) rfl

theorem closeState (h : Placed s) (c : Config) : Placed (Processor.closeState s c) := by
  obtain ⟨_, hc⟩ := closeState_eq s c
  obtain ⟨_, _, grenades, _, hs, -, -, hg⟩ := settled_eq s c
  have hl : s.grenades.length = grenades.length := by simpa using (congrArg List.length hg).symm
  rw [hc, hs]
  exact h.mono rfl (Nat.le_of_eq hl) rfl

end Placed

theorem damageSource?_lt {s : MatchState} {round : Nat} {c : Config} {d : Damage} {i : Nat}
    (h : s.damageSource? round c d = some i) : i < s.grenades.length := by
  unfold damageSource? at h
  obtain ⟨e, he, rfl⟩ := Option.map_eq_some_iff.1 h
  have hm := (List.mem_filter.1 (mem_of_lastGreatest? he)).1
  simpa using (List.mem_zipIdx hm).2.1

end MatchState

namespace Processor

theorem Follows.eq_of_finalized {p q : Processor} (hf : p.state.finalized = true) (h : Follows p q) : q = p := by
  induction h with
  | refl => rfl
  | event e _ ih => rw [ih, processEvent_finalized hf]
  | finalize _ ih => rw [ih, finalize_finalized hf]

/-- **A match never fails.**  Whatever the stream, every event of it is processed, the match is finalized, no place
without a grenade is looked up, and no failure is reported; then nothing is taken any more. -/
theorem fresh_never_fails {header : Header} {config : Config} {p : Processor} (h : Fresh header config p)
    (events : List TimedEvent) :
    (∀ e, ((p.after events).processEvent e).fault = none ∧
      ((p.after events).processEvent e).processor.state.strayed = false ∧
      ∀ u ∈ ((p.after events).processEvent e).updates, u.status ≠ .failed) ∧
    (∀ round d i, (p.after events).state.damageSource? round config d = some i →
      i < (p.after events).state.grenades.length) ∧
    (∃ report, (p.after events).finalize.result = .ok report) ∧
    (p.after events).finalize.processor.state.strayed = false ∧
    (∀ u ∈ (p.after events).finalize.updates, u.status ≠ .failed) ∧
    (∃ report, (p.run events).result = .ok report) ∧
    (∀ u ∈ (p.run events).updates, u.status ≠ .failed) ∧
    ∀ q, Follows (p.after events).finalize.processor q → q = (p.after events).finalize.processor ∧
      (∀ e, q.processEvent e = { processor := q, fault := some .alreadyFinalized }) ∧
      q.finalize = { processor := q, result := .error .alreadyFinalized } := by
  have hr := h.after_reports events
  have hf := h.after_finalized events
  have hp : (p.after events).state.Placed := h.keeps_after (MatchState.Placed.kept config) (.new header config) events
  obtain ⟨updates, hfin, hu⟩ := finalize_ok hr hf
  obtain ⟨hrun, hrunUpdates⟩ := h.run_ok events
  refine ⟨fun e => ?_, fun _ _ _ hi => MatchState.damageSource?_lt hi, ?_, ?_, ?_, ⟨_, hrun⟩, hrunUpdates, ?_⟩
  · obtain ⟨hn, hs, hus⟩ := processEvent_ok hr hf e
    refine ⟨hn, ?_, fun u hm => ?_⟩
    · rw [hs, h.after_config]
      exact ((MatchState.Placed.kept config).next hp e).found
    · rw [hus u hm]
      exact RunStatus.noConfusion
  · rw [hfin]
    exact ⟨_, rfl⟩
  · rw [hfin]
    exact (hp.closeState _).found
  · rw [hfin]
    intro u hm
    rcases hu u hm with h | h <;> rw [h] <;> exact RunStatus.noConfusion
  · intro q hq
    have hz : (p.after events).finalize.processor.state.finalized = true := by rw [hfin]; rfl
    have he := hq.eq_of_finalized hz
    have hqz : q.state.finalized = true := he ▸ hz
    exact ⟨he, processEvent_finalized hqz, finalize_finalized hqz⟩

/-- A kill without anybody in it, before any round, and a flash that nobody threw do not keep a match from its
report. -/
theorem nameless_events_never_fail :
    Fresh { mapName := "de_dust2" } {} { config := {}, state := MatchState.new { mapName := "de_dust2" } {} } ∧
      ∃ report, (({ config := {}, state := MatchState.new { mapName := "de_dust2" } {} } : Processor).run
        [⟨9, .kill { killer := none, victim := none, weapon := none }⟩, ⟨5, .roundStart⟩,
         ⟨7, .flashExplode { entity := 1, weapon := .flashbang, thrower := none, position := .zero }⟩]).result =
          .ok report :=
  ⟨.default rfl, (fresh_never_fails (.default rfl) _).2.2.2.2.2.1⟩

end Processor

end Scorebook
