import Scorebook.Proofs.Effects
/-!
# A match as a run over its events

Whoever listens, an event takes a match from one state to the next (`MatchState.next`), and a stream is a fold of
such steps (`after_eq`).  What the first state has and every answer keeps, every state of a run has
(`Fresh.keeps_after`).
-/
namespace Scorebook

namespace MatchState

def advance (s : MatchState) (tick : Tick) : MatchState :=
  { s with currentTick := max s.currentTick tick }

/-- The match after an event: its clock moves on, the event is answered, and the players of the event are
sighted. -/
def next (c : Config) (s : MatchState) (e : TimedEvent) : MatchState :=
  Processor.sightActors (respond c (s.advance e.tick) e.tick e.event).state e

end MatchState

/-- **The default settings pass their own check.** -/
theorem Config.validated_default : ({} : Config).validated = .ok {} := by
  have h : ({} : Config).flaw? = none := by decide +kernel
  unfold Config.validated
  rw [h]

namespace Processor

/-- A processor that was made for a match and has not processed anything yet, with somebody who listens to its
progress or without. -/
inductive Fresh (header : Header) (config : Config) : Processor → Prop where
  | silent {p : Processor} (h : new header config = .ok p) : Fresh header config p
  | heard {p : Processor} (h : new header config = .ok p) : Fresh header config p.withProgress

def after (p : Processor) (events : List TimedEvent) : Processor :=
  events.foldl (fun p e => (p.processEvent e).processor) p

/-- The processors that a processor can become, by events and finalizations in any order. -/
inductive Follows (p : Processor) : Processor → Prop where
  | refl : Follows p p
  | event {q : Processor} (e : TimedEvent) (h : Follows p q) : Follows p (q.processEvent e).processor
  | finalize {q : Processor} (h : Follows p q) : Follows p q.finalize.processor

/-- Nothing has stopped the progress from being reported. -/
def Reports (p : Processor) : Prop := ∀ t ∈ p.tracker, t.halted = false

/-! ## A fresh processor -/

theorem new_eq_ok {header : Header} {config : Config} {p : Processor} (h : new header config = .ok p) :
    p = { config, state := MatchState.new header config } := by
  have hv : config.validated = .ok config ∨ ∃ f, config.validated = .error f := by
    unfold Config.validated
    split
    · exact .inl rfl
    · exact .inr ⟨_, rfl⟩
  unfold new at h
  rcases hv with hv | ⟨f, hv⟩ <;> rw [hv] at h
  · simp only [bind, Except.bind] at h
    split at h
    · cases h
    · injection h with h
      exact h.symm
  · cases h

theorem new_default {header : Header} (h : header.tickRate = none) :
    new header {} = .ok { config := {}, state := MatchState.new header {} } := by
  unfold new
  rw [Config.validated_default]
  simp only [badTickRate?, h]
  rfl

namespace Fresh

variable {header : Header} {config : Config} {p : Processor}

theorem default (h : header.tickRate = none) :
    Fresh header {} { config := {}, state := MatchState.new header {} } :=
  .silent (new_default h)

theorem state_eq (h : Fresh header config p) : p.state = MatchState.new header config := by
  cases h with
  | silent h => rw [new_eq_ok h]
  | heard h => rw [new_eq_ok h]; rfl

theorem config_eq (h : Fresh header config p) : p.config = config := by
  cases h with
  | silent h => rw [new_eq_ok h]
  | heard h => rw [new_eq_ok h]; rfl

theorem reports (h : Fresh header config p) : p.Reports := by
  cases h with
  | silent h => rw [new_eq_ok h]; intro t ht; cases ht
  | heard h => rw [new_eq_ok h]; intro t ht; cases ht; rfl

theorem finalized_eq (h : Fresh header config p) : p.state.finalized = false := by
  rw [h.state_eq]; rfl

end Fresh

/-! ## One event -/

@[simp] theorem after_cons (p : Processor) (e : TimedEvent) (events : List TimedEvent) :
    p.after (e :: events) = (p.processEvent e).processor.after events := rfl

theorem report_ok {p : Processor} (hp : p.Reports) (status : RunStatus) (percent : Nat)
    (context : Table String String) :
    ∃ updates, p.report status percent context = .ok updates ∧ ∀ u ∈ updates, u.status = status := by
  unfold report
  cases ht : p.tracker with
  | none => exact ⟨[], rfl, fun u hu => by cases hu⟩
  | some t =>
    have hh : t.halted = false := hp t ht
    simp only [ProgressTracker.update, hh, Bool.false_eq_true, if_false]
    exact ⟨_, rfl, fun u hu => by rw [List.mem_singleton.1 hu]; rfl⟩

theorem dispatch_processor (p : Processor) (e : TimedEvent) :
    (p.dispatch e).processor = { p with state := (p.state.respond p.config e.tick e.event).state } := by
  obtain ⟨tick, e⟩ := e
  cases e with
  | roundEnd n =>
    simp only [dispatch, endRound, MatchState.respond, bne_iff_ne, ne_eq]
    by_cases hl : p.state.round.phase = .live
    · simp only [hl, not_true_eq_false, if_false, if_true]
      split <;> rfl
    · simp only [hl, not_false_eq_true, if_true, if_false]
      rfl
  | _ => rfl

/-- **What dispatching an event meets and reports**, when nothing has stopped the progress from being reported:
the fault is that of the match, and the updates speak of a run that goes on. -/
theorem dispatch_fault {p : Processor} (hp : p.Reports) (e : TimedEvent) :
    (p.dispatch e).fault = (p.state.respond p.config e.tick e.event).fault ∧
      ∀ u ∈ (p.dispatch e).updates, u.status = .processing := by
  obtain ⟨tick, e⟩ := e
  cases e with
  | roundEnd n =>
    simp only [dispatch, endRound, MatchState.respond, bne_iff_ne, ne_eq]
    by_cases hl : p.state.round.phase = .live
    · simp only [hl, not_true_eq_false, if_false, if_true]
      have hp' : ({ p with state := p.state.decideRound n tick } : Processor).Reports := hp
      obtain ⟨updates, hr, hu⟩ := report_ok hp' .processing
        (roundPercent (p.state.decideRound n tick).round.number)
        (roundContext (p.state.decideRound n tick))
      rw [hr]
      exact ⟨rfl, hu⟩
    · simp only [hl, not_false_eq_true, if_true, if_false]
      exact ⟨rfl, fun u hu => by cases hu⟩
  | _ => exact ⟨rfl, fun u hu => by cases hu⟩

theorem conclude_not_fatal {o : Outcome} (h : ∀ f ∈ o.fault, f.isFatal = false) (e : TimedEvent) :
    (conclude o e).fault = none ∧ (conclude o e).processor = o.processor ∧ (conclude o e).updates = o.updates := by
  unfold conclude
  split
  · next hn => exact ⟨hn, rfl, rfl⟩
  · next f hf =>
    rw [h f hf]
    exact ⟨rfl, rfl, rfl⟩

/-- **An event is dispatched at its tick, and its players are sighted.**  No fault is left. -/
theorem processEvent_dispatch {p : Processor} (hp : p.Reports) (hf : p.state.finalized = false) (e : TimedEvent) :
    (p.processEvent e).fault = none ∧
      (p.processEvent e).processor =
        { (dispatch { p with state := p.state.advance e.tick } e).processor with
          state := sightActors (dispatch { p with state := p.state.advance e.tick } e).processor.state e } ∧
        (p.processEvent e).updates = (dispatch { p with state := p.state.advance e.tick } e).updates := by
  have hp' : ({ p with state := p.state.advance e.tick } : Processor).Reports := hp
  have hfault := (dispatch_fault hp' e).1
  unfold processEvent
  rw [hf]
  exact conclude_not_fatal
    (o := { dispatch { p with state := p.state.advance e.tick } e with
      processor := { (dispatch { p with state := p.state.advance e.tick } e).processor with
        state := sightActors (dispatch { p with state := p.state.advance e.tick } e).processor.state e } })
    (fun f hm => by
      rw [hfault] at hm
      exact (MatchState.answer_respond p.config (p.state.advance e.tick) e.tick e.event).fault_not_fatal f hm) e

/-- **Processing an event takes the match to its next state**, and meets no fault that the caller hears of. -/
theorem processEvent_ok {p : Processor} (hp : p.Reports) (hf : p.state.finalized = false) (e : TimedEvent) :
    (p.processEvent e).fault = none ∧
      (p.processEvent e).processor = { p with state := p.state.next p.config e } ∧
        ∀ u ∈ (p.processEvent e).updates, u.status = .processing := by
  have hp' : ({ p with state := p.state.advance e.tick } : Processor).Reports := hp
  obtain ⟨hn, hs, hu⟩ := processEvent_dispatch hp hf e
  refine ⟨hn, hs.trans ?_, fun u hm => (dispatch_fault hp' e).2 u (hu ▸ hm)⟩
  rw [dispatch_processor]
  rfl

/-! ## The end -/

theorem finalize_ok {p : Processor} (hp : p.Reports) (hf : p.state.finalized = false) :
    ∃ updates,
      p.finalize =
        { processor := { p with state := closeState p.state p.config }
          result := .ok (Report.ofState (closeState p.state p.config)), updates } ∧
        ∀ u ∈ updates, u.status = .finalizing ∨ u.status = .completed := by
  obtain ⟨before, hb, hbs⟩ := report_ok hp .finalizing 99 ∅
  have hp' : ({ p with state := closeState p.state p.config } : Processor).Reports := hp
  obtain ⟨after, ha, has⟩ := report_ok hp' .completed 100
    (matchContext (Report.ofState (closeState p.state p.config)))
  refine ⟨before ++ after, ?_, fun u hu => ?_⟩
  · unfold finalize
    rw [hf, hb]
    simp only [Bool.false_eq_true, if_false, ha]
  · rcases List.mem_append.1 hu with h | h
    · exact .inl (hbs u h)
    · exact .inr (has u h)

theorem processEvent_finalized {p : Processor} (hf : p.state.finalized = true) (e : TimedEvent) :
    p.processEvent e = { processor := p, fault := some .alreadyFinalized } := by
  unfold processEvent
  rw [hf]
  rfl

theorem finalize_finalized {p : Processor} (hf : p.state.finalized = true) :
    p.finalize = { processor := p, result := .error .alreadyFinalized } := by
  unfold finalize
  rw [hf]
  rfl

end Processor

/-! ## Runs -/

namespace MatchState

/-- A property of a match that does not speak of the clock or of sightings, and that every answer keeps. -/
structure Kept (c : Config) (P : MatchState → Prop) : Prop where
  clock : ∀ (s : MatchState) (tick : Tick), P s → P { s with currentTick := tick }
  sights : ∀ (s : MatchState) (sightings : Sightings), P s → P { s with sightings := sightings }
  answer : ∀ {s : MatchState} {tick : Tick} {e : Event} {step : Step MatchState},
    Answer c s tick e step → P s → P step.state

variable {c : Config} {P : MatchState → Prop}

theorem Kept.next (hk : Kept c P) {s : MatchState} (h : P s) (e : TimedEvent) : P (s.next c e) :=
  hk.sights _ _ (hk.answer (answer_respond c (s.advance e.tick) e.tick e.event) (hk.clock s _ h))

theorem Kept.foldl (hk : Kept c P) : ∀ (events : List TimedEvent) {s : MatchState}, P s →
    P (events.foldl (MatchState.next c) s)
  | [], _, h => h
  | e :: events, _, h => hk.foldl events (hk.next h e)

/-- What of a match stays from its first event to its end. -/
def fixed (s : MatchState) : Header × Float × List PlayerMatch × Bool :=
  (s.header, s.tickRate, s.playerMatches, s.finalized)

theorem Aside.fixed_eq {s s' : MatchState} (h : Aside s s') : s'.fixed = s.fixed := by
  obtain ⟨_, _, _, _, _, rfl⟩ := h
  rfl

theorem fixed_observe (s : MatchState) (a : Actor) : (s.observe a).fixed = s.fixed := by
  rw [observe_eq]
  rfl

theorem fixed_observeOptional (s : MatchState) (a : Option Actor) : (s.observeOptional a).fixed = s.fixed := by
  cases a with
  | none => rfl
  | some a => exact fixed_observe s a

theorem fixed_enterGunfight (s before : MatchState) (c : Config) (n : KillNotice) (killer victim : Actor)
    (weapon : Weapon) (tick : Tick) : (s.enterGunfight before c n killer victim weapon tick).fixed = s.fixed := by
  rcases enterGunfight_cases s before c n killer victim weapon tick with ⟨-, h⟩ | ⟨-, s', flashAssister, hw, h⟩ <;>
    rw [h]
  · rfl
  · exact hw.aside.fixed_eq

theorem Answer.fixed_eq {s : MatchState} {tick : Tick} {e : Event} {step : Step MatchState}
    (h : Answer c s tick e step) : step.state.fixed = s.fixed := by
  cases h with
  | passed | idle | gone | left => rfl
  | restarted =>
    unfold restart
    split <;> rfl
  | begun =>
    obtain ⟨_, _, _, _, hs, -⟩ := settled_eq s c
    rw [startRound_state, hs]
    rfl
  | thawed hl =>
    unfold recordFreezeEnd
    rw [if_pos hl]
    rfl
  | decided =>
    rw [decideRound_eq]
    rfl
  | died | weaponless | shown => exact fixed_observe s _
  | killed => exact (fixed_enterGunfight _ _ _ _ _ _ _ _).trans ((fixed_observe _ _).trans (fixed_observe s _))
  | hit =>
    exact (aside_enterDamage _ _ _ _ _ _).fixed_eq.trans ((fixed_observeOptional _ _).trans (fixed_observe s _))
  | fired => exact (fixed_observe _ _).trans (aside_fire s _ _ _).fixed_eq
  | thrown => exact (aside_bindThrow s _ _ _ _).fixed_eq
  | unseen => exact (aside_noteThrower s _ _).fixed_eq
  | detonated => exact (aside_recordGrenade s _ _ _).fixed_eq
  | flashMoved => exact (flashWork_moveFlash s _ _ _).aside.fixed_eq
  | flashUnseen => exact ((aside_noteThrower s _ _).trans (flashWork_startFlash _ _ _ _ _ _).aside).fixed_eq
  | flashStarted => exact ((aside_recordGrenade s _ _ _).trans (flashWork_startFlash _ _ _ _ _ _).aside).fixed_eq
  | blinded => exact (flashWork_placeBlinding _ _ _ _ _ _).aside.fixed_eq
  | bombed => exact fixed_observeOptional s _

theorem fixed_next (c : Config) (s : MatchState) (e : TimedEvent) : (s.next c e).fixed = s.fixed :=
  (answer_respond c (s.advance e.tick) e.tick e.event).fixed_eq

theorem finalized_next {s : MatchState} (h : s.finalized = false) (c : Config) (e : TimedEvent) :
    (s.next c e).finalized = false :=
  (congrArg (·.2.2.2) (fixed_next c s e)).trans h

end MatchState

namespace Processor

/-- **A stream is a fold of steps.** -/
theorem after_eq : ∀ (events : List TimedEvent) {p : Processor}, p.Reports → p.state.finalized = false →
    p.after events = { p with state := events.foldl (MatchState.next p.config) p.state }
  | [], _, _, _ => rfl
  | e :: events, p, hp, hf => by
    obtain ⟨-, hs, -⟩ := processEvent_ok hp hf e
    have hf' := MatchState.finalized_next hf p.config e
    rw [after_cons, hs]
    exact after_eq events (p := { p with state := p.state.next p.config e }) hp hf'

theorem processAll_ok : ∀ (events : List TimedEvent) {p : Processor}, p.Reports → p.state.finalized = false →
    (p.processAll events).fault = none ∧ (p.processAll events).processor = p.after events ∧
      ∀ u ∈ (p.processAll events).updates, u.status = .processing
  | [], _, _, _ => ⟨rfl, rfl, fun u hu => by cases hu⟩
  | e :: events, p, hp, hf => by
    obtain ⟨hn, hs, hu⟩ := processEvent_ok hp hf e
    have hf' := MatchState.finalized_next hf p.config e
    obtain ⟨hn', hs', hu'⟩ :=
      processAll_ok events (p := { p with state := p.state.next p.config e }) hp hf'
    rw [← hs] at hn' hs' hu'
    simp only [processAll, hn, Option.isSome_none, Bool.false_eq_true, if_false]
    refine ⟨hn', hs', fun u hm => ?_⟩
    rcases List.mem_append.1 hm with h | h
    · exact hu u h
    · exact hu' u h

namespace Fresh

variable {header : Header} {config : Config} {p : Processor}

theorem after_eq (h : Fresh header config p) (events : List TimedEvent) :
    p.after events =
      { p with state := events.foldl (MatchState.next config) (MatchState.new header config) } := by
  rw [Processor.after_eq events h.reports h.finalized_eq, h.config_eq, h.state_eq]

theorem after_state (h : Fresh header config p) (events : List TimedEvent) :
    (p.after events).state = events.foldl (MatchState.next config) (MatchState.new header config) := by
  rw [h.after_eq]

theorem after_config (h : Fresh header config p) (events : List TimedEvent) :
    (p.after events).config = config := by
  rw [h.after_eq]
  exact h.config_eq

theorem after_reports (h : Fresh header config p) (events : List TimedEvent) : (p.after events).Reports := by
  rw [h.after_eq]
  exact h.reports

/-- **What a match has before its first event and every answer keeps, it has after any stream.** -/
theorem keeps_after (h : Fresh header config p) {P : MatchState → Prop} (hk : MatchState.Kept config P)
    (h0 : P (MatchState.new header config)) (events : List TimedEvent) : P (p.after events).state := by
  rw [h.after_state]
  exact hk.foldl events h0

theorem after_fixed (h : Fresh header config p) (events : List TimedEvent) :
    (p.after events).state.fixed = (MatchState.new header config).fixed :=
  h.keeps_after (P := fun s => s.fixed = (MatchState.new header config).fixed)
    { clock := fun _ _ h => h
      sights := fun _ _ h => h
      answer := fun ha h => ha.fixed_eq.trans h }
    rfl events

theorem after_finalized (h : Fresh header config p) (events : List TimedEvent) :
    (p.after events).state.finalized = false :=
  congrArg (·.2.2.2) (h.after_fixed events)

/-- **A run ends with the report of the closed match.** -/
theorem run_ok (h : Fresh header config p) (events : List TimedEvent) :
    (p.run events).result = .ok (Report.ofState (closeState (p.after events).state config)) ∧
      ∀ u ∈ (p.run events).updates, u.status ≠ .failed := by
  obtain ⟨started, hs, hsu⟩ := report_ok h.reports .started 0 ∅
  obtain ⟨hn, hp, hpu⟩ := processAll_ok events h.reports h.finalized_eq
  obtain ⟨updates, hf, hfu⟩ := finalize_ok (h.after_reports events) (h.after_finalized events)
  rw [h.after_config] at hf
  unfold run
  rw [hs]
  simp only [hn, hp, hf]
  refine ⟨trivial, fun u hu => ?_⟩
  rcases List.mem_append.1 hu with hu | hu
  · rcases List.mem_append.1 hu with hu | hu
    · rw [hsu u hu]
      exact RunStatus.noConfusion
    · rw [hpu u hu]
      exact RunStatus.noConfusion
  · rcases hfu u hu with h | h <;> rw [h] <;> exact RunStatus.noConfusion

end Fresh

end Processor

end Scorebook
