import Scorebook.Proofs.Stream
/-!
# What a skipped event leaves behind

An event that meets a fault is skipped, and the stream goes on as if the event had not been told.  A death that nobody
else caused is recorded all the same.  Of the other events two leave a trace when they are skipped, since their handlers
do something before they find out what is missing (`Event.Traced`): a kill without a weapon, whose victim is dead, and a
detonation without a throw, which is noted for its thrower.
-/
namespace Scorebook

namespace Event

/-- A kill that nobody but the victim can have caused. -/
def OwnDeath (e : Event) : Prop :=
  ∃ n victim, e = .kill n ∧ n.victim = some victim ∧ ∀ killer ∈ n.killer, killer.id = victim.id

/-- The faults that a handler finds after it has done something. -/
def Traced (e : Event) (f : Fault) : Prop :=
  (∃ n, e = .kill n ∧ f = .missingActor "kill" "weapon") ∨
    ∃ n thrower, e.detonation? = some n ∧ n.thrower = some thrower ∧ f = .missingThrow n.entity

end Event

namespace MatchState

variable {c : Config} {s : MatchState} {tick : Tick} {f : Fault}

/-! ## The traces are traces -/

theorem recordDeath_ne (s : MatchState) (victim : Actor) (cause : ExitCause) (tick : Tick) :
    s.recordDeath victim cause tick ≠ s := by
  intro h
  have hexits : (s.recordDeath victim cause tick).round.exits.length = s.round.exits.length + 1 := by
    unfold recordDeath recordExit
    rw [observe_eq]
    simp
  have hlength := congrArg (fun s : MatchState => s.round.exits.length) h
  simp only [hexits] at hlength
  omega

theorem noteDetonation_ne {thrower : PlayerId} (h : s.tables.detonations.contains (thrower, tick) = false) :
    s.noteDetonation thrower tick ≠ s := by
  intro he
  have hnoted : (s.noteDetonation thrower tick).tables.detonations.contains (thrower, tick) = true := by
    simp [noteDetonation, Table.contains]
  rw [he, h] at hnoted
  cases hnoted

/-! ## Kills -/

/-- **A skipped kill leaves the match as it was, or its victim dead.** -/
theorem recordKill_skipped {n : KillNotice} (hf : (s.recordKill c n tick).fault = some f)
    (hd : ¬ (Event.kill n).OwnDeath) :
    (f ≠ .missingActor "kill" "weapon" ∧ (s.recordKill c n tick).state = s) ∨
      ∃ killer victim, n.killer = some killer ∧ n.victim = some victim ∧ f = .missingActor "kill" "weapon" ∧
        (s.recordKill c n tick).state = s.recordDeath victim (.killed killer.id) tick := by
  have own {victim : Actor} (hv : n.victim = some victim) (hk : ∀ killer ∈ n.killer, killer.id = victim.id) : False :=
    hd ⟨n, victim, rfl, hv, hk⟩
  unfold recordKill at hf ⊢
  cases ho : s.round.isOpen with
  | false =>
    simp only [ho] at hf ⊢
    cases hf
    exact .inl ⟨by simp, rfl⟩
  | true =>
    simp only [ho, Bool.not_true, Bool.false_eq_true, if_false] at hf ⊢
    cases hv : n.victim with
    | none =>
      simp only [hv] at hf ⊢
      cases hf
      exact .inl ⟨by simp, rfl⟩
    | some victim =>
      simp only [hv] at hf ⊢
      cases hk : n.killer with
      | none => exact (own hv (fun killer h => by rw [hk] at h; cases h)).elim
      | some killer =>
        simp only [hk] at hf ⊢
        by_cases hid : killer.id = victim.id
        · refine (own hv (fun k h => ?_)).elim
          rw [hk] at h
          cases h
          exact hid
        · simp only [hid, if_false] at hf ⊢
          cases hw : n.weapon with
          | none =>
            -- the death is recorded before the weapon is asked for
            simp only [hw] at hf ⊢
            cases hf
            exact .inr ⟨killer, victim, rfl, rfl, rfl, rfl⟩
          | some weapon =>
            simp only [hw] at hf
            cases hf

/-! ## Detonations -/

/-- A detonation without a throw was not noted before, and is noted now if its thrower is known. -/
theorem detonate_unseen {n : ProjectileNotice} {t : MatchState} (h : s.detonate n tick = (t, .unseen)) :
    (n.thrower = none ∧ t = s) ∨ ∃ thrower, n.thrower = some thrower ∧
      s.tables.detonations.contains (thrower.id, tick) = false ∧ t = s.noteDetonation thrower.id tick := by
  have hthrow : s.tables.throws.get? n.entity = none := by
    rcases detonate_cases s n tick with hd | ⟨ht, -⟩ | ⟨thrown, -, hd⟩
    · rw [hd] at h
      cases h
    · exact ht
    · rw [hd] at h
      cases h
  unfold detonate at h
  cases hn : n.thrower with
  | none =>
    have hnone : s.throwerOf? n = none := by simp [throwerOf?, hn, hthrow]
    simp only [hnone, enterGrenade, hthrow] at h
    cases h
    exact .inl ⟨rfl, rfl⟩
  | some thrower =>
    have hsome : s.throwerOf? n = some thrower.id := by simp [throwerOf?, hn]
    simp only [hsome] at h
    split at h
    · cases h
    · next hnew =>
      simp only [enterGrenade, noteDetonation, hthrow] at h
      cases h
      exact .inr ⟨thrower, rfl, by simpa using hnew, rfl⟩

theorem recordDetonation_skipped {n : ProjectileNotice} (hf : (s.recordDetonation n tick).fault = some f) :
    (f ≠ .missingThrow n.entity ∧ (s.recordDetonation n tick).state = s) ∨
      (f = .missingThrow n.entity ∧ s.detonate n tick = ((s.recordDetonation n tick).state, .unseen)) := by
  unfold recordDetonation at hf ⊢
  cases ho : s.round.isOpen with
  | false =>
    simp only [ho] at hf ⊢
    cases hf
    exact .inl ⟨by simp, rfl⟩
  | true =>
    simp only [ho, Bool.not_true, Bool.false_eq_true, if_false] at hf ⊢
    cases hk : n.weapon.grenadeKind? with
    | none =>
      simp only [hk] at hf ⊢
      cases hf
      exact .inl ⟨by simp, rfl⟩
    | some kind =>
      simp only [hk] at hf ⊢
      split at hf
      · cases hf
      · next hknown =>
        rw [if_neg hknown]
        rcases hdet : s.detonate n tick with ⟨t, d⟩
        rw [hdet] at hf
        cases d with
        | unseen =>
          cases hf
          exact .inr ⟨rfl, rfl⟩
        | recorded | repeated => cases hf

/-- **A skipped detonation leaves the match as it was, or is noted for its thrower.** -/
theorem detonation_skipped {n : ProjectileNotice} (hf : (s.recordDetonation n tick).fault = some f) :
    ((∀ thrower, n.thrower = some thrower → f ≠ .missingThrow n.entity) ∧ (s.recordDetonation n tick).state = s) ∨
      ∃ thrower, n.thrower = some thrower ∧ f = .missingThrow n.entity ∧
        s.tables.detonations.contains (thrower.id, tick) = false ∧
          (s.recordDetonation n tick).state = s.noteDetonation thrower.id tick := by
  rcases recordDetonation_skipped hf with ⟨hne, hs⟩ | ⟨hm, hdet⟩
  · exact .inl ⟨fun _ _ => hne, hs⟩
  · rcases detonate_unseen hdet with ⟨hn, hs⟩ | ⟨thrower, hn, hnew, hs⟩
    · refine .inl ⟨fun thrower ht => ?_, hs⟩
      rw [hn] at ht
      cases ht
    · exact .inr ⟨thrower, hn, hm, hnew, hs⟩

/-! ## All events -/

/-- A skipped event that is neither a kill nor a detonation leaves the match as it was. -/
theorem other_skipped {e : Event} (hf : (respond c s tick e).fault = some f) (hk : ∀ n, e ≠ .kill n)
    (hd : e.detonation? = none) : ¬ e.Traced f ∧ (respond c s tick e).state = s := by
  refine ⟨?_, ?_⟩
  · rintro (⟨n, he, -⟩ | ⟨n, thrower, he, -⟩)
    · exact hk n he
    · rw [hd] at he
      cases he
  · have ha := answer_respond c s tick e
    generalize respond c s tick e = step at ha hf
    cases ha with
    | passed => rfl
    | died => exact absurd rfl (hk _)
    | weaponless => exact absurd rfl (hk _)
    | unseen ho he =>
      rw [hd] at he
      cases he
    | _ => cases hf

/-- **What a skipped event can leave**: nothing, or one of the two traces. -/
theorem respond_skipped {e : Event} (hf : (respond c s tick e).fault = some f) (hd : ¬ e.OwnDeath) :
    (¬ e.Traced f ∧ (respond c s tick e).state = s) ∨
      (∃ n killer victim, e = .kill n ∧ n.killer = some killer ∧ n.victim = some victim ∧
        f = .missingActor "kill" "weapon" ∧
          (respond c s tick e).state = s.recordDeath victim (.killed killer.id) tick) ∨
      ∃ n thrower, e.detonation? = some n ∧ n.thrower = some thrower ∧ f = .missingThrow n.entity ∧
        s.tables.detonations.contains (thrower.id, tick) = false ∧
          (respond c s tick e).state = s.noteDetonation thrower.id tick := by
  have detonated {e : Event} {n : ProjectileNotice} (he : e.detonation? = some n) (hk : ∀ n, e ≠ .kill n)
      (hr : respond c s tick e = s.recordDetonation n tick) (hf : (s.recordDetonation n tick).fault = some f) :
      (¬ e.Traced f ∧ (respond c s tick e).state = s) ∨
        ∃ n thrower, e.detonation? = some n ∧ n.thrower = some thrower ∧ f = .missingThrow n.entity ∧
          s.tables.detonations.contains (thrower.id, tick) = false ∧
            (respond c s tick e).state = s.noteDetonation thrower.id tick := by
    rw [hr]
    rcases detonation_skipped hf with ⟨hne, hs⟩ | ⟨thrower, hn, hm, hnew, hs⟩
    · refine .inl ⟨?_, hs⟩
      rintro (⟨n', he', -⟩ | ⟨n', thrower, he', hn, hm⟩)
      · exact hk n' he'
      · rw [he] at he'
        cases he'
        exact hne thrower hn hm
    · exact .inr ⟨n, thrower, he, hn, hm, hnew, hs⟩
  cases e with
  | kill n =>
    rcases recordKill_skipped hf hd with ⟨hne, hs⟩ | ⟨killer, victim, hk, hv, hm, hs⟩
    · refine .inl ⟨?_, hs⟩
      rintro (⟨_, -, hm⟩ | ⟨_, _, he, -⟩)
      · exact hne hm
      · cases he
    · exact .inr (.inl ⟨n, killer, victim, rfl, hk, hv, hm, hs⟩)
  | projectileDestroy n => exact (detonated rfl (fun _ h => by cases h) rfl hf).imp_right .inr
  | smokeStart n => exact (detonated rfl (fun _ h => by cases h) rfl hf).imp_right .inr
  | _ => exact .inl (other_skipped hf (fun _ h => nomatch h) rfl)

end MatchState

namespace Processor

/-- A fault of an event that is skipped is one of the match, not of those who listen to its progress. -/
theorem respond_fault_of_skipped {p : Processor} {e : TimedEvent} {f : Fault} (hf : (p.dispatch e).fault = some f)
    (hn : f.isFatal = false) : (p.state.respond p.config e.tick e.event).fault = some f := by
  obtain ⟨tick, e⟩ := e
  cases e with
  | roundEnd n =>
    simp only [dispatch, endRound, MatchState.respond, bne_iff_ne, ne_eq] at hf ⊢
    by_cases hl : p.state.round.phase = .live
    · simp only [hl, not_true_eq_false, if_false] at hf
      split at hf
      · cases hf
      · next f' hr =>
        have hfatal : f'.isFatal = true := by
          unfold report at hr
          split at hr
          · cases hr
          · next t ht =>
            unfold ProgressTracker.update at hr
            split at hr
            · cases hr
              rfl
            · cases hr
        cases hf
        rw [hfatal] at hn
        cases hn
    · simp only [hl, not_false_eq_true, if_true, if_false] at hf ⊢
      exact hf
  | _ => exact hf

/-- **A skipped event leaves the match exactly as it was, unless its handler found out too late.**  Deaths that nobody
else caused apart, which are recorded by design, the events that leave a trace are the kill without a weapon, and the
detonation without a throw whose thrower is known; the trace of the one is the death, and of the other the note that the
thrower had a grenade detonate at that tick. -/
theorem skipped_unchanged_iff {p : Processor} {e : TimedEvent} {f : Fault} (hf : (p.dispatch e).fault = some f)
    (hn : f.isFatal = false) (hd : ¬ e.event.OwnDeath) :
    ((p.dispatch e).processor = p ↔ ¬ e.event.Traced f) ∧
    (∀ n killer victim, e.event = .kill n → n.killer = some killer → n.victim = some victim →
      f = .missingActor "kill" "weapon" →
        (p.dispatch e).processor = { p with state := p.state.recordDeath victim (.killed killer.id) e.tick }) ∧
    ∀ n thrower, e.event.detonation? = some n → n.thrower = some thrower → f = .missingThrow n.entity →
      (p.dispatch e).processor = { p with state := p.state.noteDetonation thrower.id e.tick } := by
  have hr := respond_fault_of_skipped hf hn
  rw [dispatch_processor]
  have hsame (t : MatchState) : ({ p with state := t } : Processor) = p ↔ t = p.state :=
    ⟨fun h => congrArg Processor.state h, fun h => by rw [h]⟩
  rcases MatchState.respond_skipped hr hd with
    ⟨ht, hs⟩ | ⟨n, killer, victim, he, hk, hv, hm, hs⟩ | ⟨n, thrower, he, hth, hm, hnew, hs⟩
  · refine ⟨⟨fun _ => ht, fun _ => (hsame _).2 hs⟩, fun n _ _ he _ _ hm => ?_, fun n thrower he hth hm => ?_⟩
    · exact absurd (.inl ⟨n, he, hm⟩) ht
    · exact absurd (.inr ⟨n, thrower, he, hth, hm⟩) ht
  · rw [hs, hsame]
    refine ⟨⟨fun h => absurd h (MatchState.recordDeath_ne _ _ _ _), fun ht => absurd (.inl ⟨n, he, hm⟩) ht⟩,
      fun n' killer' victim' he' hk' hv' _ => ?_, fun n' thrower' he' _ _ => ?_⟩
    · rw [he] at he'
      cases he'
      rw [hk] at hk'
      rw [hv] at hv'
      cases hk'
      cases hv'
      rfl
    · rw [he] at he'
      cases he'
  · rw [hs, hsame]
    have htraced : e.event.Traced f := .inr ⟨n, thrower, he, hth, hm⟩
    refine ⟨⟨fun h => absurd h (MatchState.noteDetonation_ne hnew), fun ht => absurd htraced ht⟩,
      fun n' _ _ he' _ _ _ => ?_, fun n' thrower' he' hth' _ => ?_⟩
    · rw [he'] at he
      cases he
    · rw [he] at he'
      cases he'
      rw [hth] at hth'
      cases hth'
      rfl

/-- A kill of which nobody knows with what is skipped, and the match is not the one before: the victim is dead. -/
theorem skipped_kill_leaves_trace :
    ∃ p e, p = ({ config := {}, state := MatchState.new { mapName := "de_dust2" } {} } : Processor).after
        [⟨0, .roundStart⟩] ∧
      e = (⟨64, .kill { killer := some { id := 1, allegiance := .counterTerrorist }
                        victim := some { id := 2, allegiance := .terrorist }, weapon := none }⟩ : TimedEvent) ∧
      (p.dispatch e).fault = some (.missingActor "kill" "weapon") ∧ (p.dispatch e).processor ≠ p := by
  refine ⟨_, _, rfl, rfl, ?_⟩
  have hf : (dispatch (({ config := {}, state := MatchState.new { mapName := "de_dust2" } {} } : Processor).after
      [⟨0, .roundStart⟩]) ⟨64, .kill { killer := some { id := 1, allegiance := .counterTerrorist }
                                       victim := some { id := 2, allegiance := .terrorist }, weapon := none }⟩).fault =
      some (.missingActor "kill" "weapon") := by
    decide +kernel
  have hd : ¬ (Event.kill { killer := some { id := 1, allegiance := .counterTerrorist }
                            victim := some { id := 2, allegiance := .terrorist }, weapon := none }).OwnDeath := by
    rintro ⟨n, victim, he, hv, hk⟩
    cases he
    cases hv
    have := hk _ rfl
    simp at this
  refine ⟨hf, fun hsame => ?_⟩
  exact (skipped_unchanged_iff hf rfl hd).1.1 hsame (.inl ⟨_, rfl, rfl⟩)

end Processor

end Scorebook
