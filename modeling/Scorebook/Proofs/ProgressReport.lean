import Scorebook.Proofs.Restart
import Scorebook.Proofs.Score
/-!
# What a run reports of its progress

Whoever listens to a run hears that it has started, of every round that is decided, and of its end.  The updates in
between are those of the decisions along the stream (`Fresh.run_updates`).  The log of the match has the same
decisions, in the same order, unless the match starts over after a round was started (`Fresh.roundEnds_after`).  As the
rounds of the log come in order, the progress never falls back.
-/
namespace Scorebook

/-- An update of a run that stands at a round. -/
def ProgressUpdate.atRound (status : RunStatus) (percent round : Nat) (context : Table String String) :
    ProgressUpdate where
  status := status
  percent := percent
  step := round
  totalSteps := max round regulationRounds
  context := context

/-- The update for the end of a round. -/
def RoundMark.update (m : RoundMark) : ProgressUpdate :=
  .atRound .processing (min 99 (100 * m.round / max m.round regulationRounds)) m.round
    (Table.ofList
      [("round", toString m.round), ("score", toString m.teamAScore ++ "-" ++ toString m.teamBScore)])

/-- What is to be told of a run: that it starts, of the ends of its rounds, and of its own end. -/
def progressOf (ends : List RoundMark) (rounds : Nat) (context : Table String String) : List ProgressUpdate :=
  .atRound .started 0 0 ∅ ::
    (ends.map RoundMark.update ++ [.atRound .finalizing 99 rounds ∅, .atRound .completed 100 rounds context])

/-- No round was started when the match starts over. -/
def Unbroken (events : List TimedEvent) : Prop :=
  events.Pairwise (fun e e' => e.event = .roundStart → e'.event ≠ .matchStart)

namespace MatchState

/-- The mark of the round that an event decides, if it decides one. -/
def decides (s : MatchState) (e : TimedEvent) : List RoundMark :=
  match e.event with
  | .roundEnd n => if s.round.phase = .live then [s.endMark n e.tick] else []
  | _ => []

/-- The marks of the rounds that a stream decides, also of those that the match takes back later. -/
def decisions (c : Config) : MatchState → List TimedEvent → List RoundMark
  | _, [] => []
  | s, e :: events => s.decides e ++ decisions c (s.next c e) events

variable {c : Config} {s : MatchState}

theorem decisions_concat (e : TimedEvent) : ∀ (events : List TimedEvent) (s : MatchState),
    decisions c s (events ++ [e]) =
      decisions c s events ++ (events.foldl (MatchState.next c) s).decides e
  | [], _ => List.append_nil _
  | e' :: events, s => by
    rw [List.cons_append, decisions, decisions, decisions_concat e events, List.append_assoc]
    rfl

/-- **The log grows by what an event decides**, unless the match starts over. -/
theorem roundEnds_next {e : TimedEvent} (he : e.event ≠ .matchStart) :
    roundEnds (s.next c e).marks = roundEnds s.marks ++ s.decides e := by
  have hturn := (answer_respond c (s.advance e.tick) e.tick e.event).turn
  show roundEnds (respond c (s.advance e.tick) e.tick e.event).state.marks = _
  obtain ⟨tick, event⟩ := e
  cases event with
  | roundEnd n =>
    simp only [respond, decides]
    split
    · next hl =>
      have hl : s.round.phase = .live := hl
      rw [decideRound_eq, if_pos hl, roundEnds, List.filter_append]
      rfl
    · next hl =>
      have hl : s.round.phase ≠ .live := hl
      rw [if_neg hl, List.append_nil]
      rfl
  | matchStart => exact absurd rfl he
  | _ =>
    rcases hturn with ⟨hc, -⟩ | ⟨n, hc, -⟩ | ⟨-, hm⟩
    · cases hc
    · cases hc
    · exact hm.trans (List.append_nil _).symm

end MatchState

namespace Processor

variable {header : Header} {config : Config} {p : Processor}

/-! ## What is heard of a run -/

/-- What of some updates is heard: all, if somebody listens. -/
def heard (p : Processor) (updates : List ProgressUpdate) : List ProgressUpdate :=
  if p.tracker.isSome then updates else []

theorem heard_append (p : Processor) (us vs : List ProgressUpdate) : p.heard (us ++ vs) = p.heard us ++ p.heard vs := by
  unfold heard
  split <;> rfl

theorem report_eq (hp : p.Reports) (status : RunStatus) {percent : Nat} (h : percent ≤ 100)
    (context : Table String String) :
    p.report status percent context = .ok (p.heard [.atRound status percent p.state.round.number context]) := by
  unfold report heard
  cases ht : p.tracker with
  | none => rfl
  | some t =>
    have hh : t.halted = false := hp t ht
    simp only [ProgressTracker.update, hh, ProgressTracker.capped, Nat.min_eq_left h]
    rfl

theorem roundPercent_eq (round : Nat) : roundPercent round = min 99 (100 * round / max round regulationRounds) := by
  rw [roundPercent, Nat.min_comm, Nat.mul_comm]

theorem dispatch_updates (hp : p.Reports) (e : TimedEvent) :
    (p.dispatch e).updates = p.heard ((p.state.decides e).map RoundMark.update) := by
  obtain ⟨tick, event⟩ := e
  have hnone : p.heard [] = [] := by simp [heard]
  cases event with
  | roundEnd n =>
    simp only [dispatch, endRound, MatchState.decides, bne_iff_ne, ne_eq]
    by_cases hl : p.state.round.phase = .live
    · have hp' : ({ p with state := p.state.decideRound n tick } : Processor).Reports := hp
      have hle : roundPercent (p.state.decideRound n tick).round.number ≤ 100 :=
        Nat.le_trans (Nat.min_le_right _ _) (by decide)
      simp only [hl, not_true_eq_false, if_false, if_true, report_eq hp' .processing hle]
      rw [roundPercent_eq, MatchState.decideRound_eq]
      rfl
    · simp only [hl, not_false_eq_true, if_true, if_false]
      exact hnone.symm
  | _ => exact hnone.symm

theorem processEvent_updates (hp : p.Reports) (hf : p.state.finalized = false) (e : TimedEvent) :
    (p.processEvent e).updates = p.heard ((p.state.decides e).map RoundMark.update) :=
  (processEvent_dispatch hp hf e).2.2.trans
    (dispatch_updates (p := { p with state := p.state.advance e.tick }) hp e)

theorem processAll_updates : ∀ (events : List TimedEvent) {p : Processor}, p.Reports → p.state.finalized = false →
    (p.processAll events).updates = p.heard ((MatchState.decisions p.config p.state events).map RoundMark.update)
  | [], _, _, _ => by simp [processAll, MatchState.decisions, heard]
  | e :: events, p, hp, hf => by
    obtain ⟨hn, hs, -⟩ := processEvent_ok hp hf e
    have hf' := MatchState.finalized_next hf p.config e
    have hlater := processAll_updates events (p := { p with state := p.state.next p.config e }) hp hf'
    rw [← hs] at hlater
    simp only [processAll, hn, Option.isSome_none, Bool.false_eq_true, if_false]
    rw [processEvent_updates hp hf, hlater, hs, MatchState.decisions, List.map_append, heard_append]
    rfl

theorem finalize_updates (hp : p.Reports) (hf : p.state.finalized = false) :
    p.finalize.updates =
      p.heard
        [.atRound .finalizing 99 p.state.round.number ∅,
         .atRound .completed 100 p.state.round.number
           (matchContext (Report.ofState (closeState p.state p.config)))] := by
  have hp' : ({ p with state := closeState p.state p.config } : Processor).Reports := hp
  have hn : (closeState p.state p.config).round.number = p.state.round.number := by
    obtain ⟨_, hc⟩ := MatchState.closeState_eq p.state p.config
    rw [hc]
    exact p.state.number_settled p.config
  unfold finalize
  rw [hf, report_eq hp .finalizing (by decide)]
  simp only [Bool.false_eq_true, if_false, report_eq hp' .completed (Nat.le_refl 100), hn]
  exact (heard_append p [_] [_]).symm

/-- **What is heard of a run**: that it starts, every round that is decided on the way, and its end. -/
theorem Fresh.run_updates (h : Fresh header config p) (events : List TimedEvent) :
    (p.run events).updates =
      p.heard
        (progressOf (MatchState.decisions config (MatchState.new header config) events)
          (p.after events).state.round.number
          (matchContext (Report.ofState (closeState (p.after events).state config)))) := by
  obtain ⟨hn, hs, -⟩ := processAll_ok events h.reports h.finalized_eq
  have hfinish := finalize_updates (h.after_reports events) (h.after_finalized events)
  have htracker : (p.after events).tracker = p.tracker := by rw [h.after_eq]
  have hall := processAll_updates events h.reports h.finalized_eq
  rw [h.state_eq, h.config_eq] at hall
  unfold run
  rw [report_eq h.reports .started (Nat.zero_le 100)]
  simp only [hn, hs, hall, hfinish, h.after_config, h.state_eq]
  have hheard (us : List ProgressUpdate) : (p.after events).heard us = p.heard us := by
    rw [h.after_eq]
    rfl
  rw [hheard, ← heard_append, ← heard_append]
  rfl

/-! ## What is heard is in the log -/

/-- **Without the start of a round, a match stays as it was made**, apart from its clock and the players. -/
theorem Fresh.blank_of_no_start (h : Fresh header config p) (events : List TimedEvent) :
    (∀ e ∈ events, e.event ≠ .roundStart) → MatchState.Blank header config (p.after events).state := by
  refine h.traces (P := fun events s => (∀ e ∈ events, e.event ≠ .roundStart) → MatchState.Blank header config s)
    (fun _ => .new header config) (fun events e ih hn => ?_) events
  have hb := (ih (fun x hx => hn x (List.mem_append_left _ hx))).advance e.tick
  rw [MatchState.next, MatchState.respond_between hb.notStarted]
  exact (hb.between (hn e (List.mem_append_right _ List.mem_cons_self))).sightActors e

/-- **The log has what was decided, in the order of the stream**, unless the match starts over after a round was
started. -/
theorem Fresh.roundEnds_after (h : Fresh header config p) (events : List TimedEvent) :
    Unbroken events →
      roundEnds (p.after events).state.marks = MatchState.decisions config (MatchState.new header config) events := by
  refine h.traces (P := fun events s => Unbroken events →
    roundEnds s.marks = MatchState.decisions config (MatchState.new header config) events)
    (fun _ => rfl) (fun events e ih hu => ?_) events
  obtain ⟨hbefore, -, hlast⟩ := List.pairwise_append.1 hu
  rw [MatchState.decisions_concat, ← h.after_state, ← ih hbefore]
  by_cases he : e.event = .matchStart
  · -- no round was started, so that nothing is taken back
    have hb := h.blank_of_no_start events (fun x hx hs => hlast x hx e List.mem_cons_self hs he)
    have hr : (MatchState.respond config ((p.after events).state.advance e.tick) e.tick e.event).state =
        (p.after events).state.advance e.tick := by
      rw [he]
      exact (hb.advance e.tick).restart_eq
    have hd : (p.after events).state.decides e = [] := by rw [MatchState.decides, he]
    rw [MatchState.next, hr, hd, List.append_nil]
    rfl
  · exact MatchState.roundEnds_next he

/-! ## The progress never falls back -/

theorem roundPercent_mono {n m : Nat} (h : n ≤ m) : roundPercent n ≤ roundPercent m := by
  unfold roundPercent
  by_cases hm : m ≤ regulationRounds
  · rw [Nat.max_eq_right hm, Nat.max_eq_right (Nat.le_trans h hm)]
    have := Nat.div_le_div_right (c := regulationRounds) (Nat.mul_le_mul_right 100 h)
    omega
  · have hfull : m * 100 / m = 100 := Nat.mul_div_right 100 (by omega)
    rw [Nat.max_eq_left (show regulationRounds ≤ m by omega), hfull]
    exact Nat.min_le_right _ _

theorem percent_update_le (m : RoundMark) : m.update.percent ≤ 99 := Nat.min_le_left _ _

/-- **If the rounds come in order, the progress never falls back.** -/
theorem progressOf_ordered {ends : List RoundMark} (h : ends.Pairwise (fun m m' => m.round ≤ m'.round))
    (rounds : Nat) (context : Table String String) :
    (progressOf ends rounds context).Pairwise (fun u u' => u.percent ≤ u'.percent) := by
  have hend : ∀ u ∈ [ProgressUpdate.atRound .finalizing 99 rounds ∅, .atRound .completed 100 rounds context],
      99 ≤ u.percent := by
    simp [ProgressUpdate.atRound]
  refine List.pairwise_cons.2 ⟨fun u _ => Nat.zero_le _, List.pairwise_append.2 ⟨?_, ?_, ?_⟩⟩
  · refine List.pairwise_map.2 (h.imp (fun {m m'} hle => ?_))
    simp only [RoundMark.update, ProgressUpdate.atRound, ← roundPercent_eq]
    exact roundPercent_mono hle
  · simp [ProgressUpdate.atRound]
  · intro u hu u' hu'
    obtain ⟨m, -, rfl⟩ := List.mem_map.1 hu
    exact Nat.le_trans (percent_update_le m) (hend u' hu')

/-- **Only the last update speaks of all of the match.** -/
theorem progressOf_dropLast (ends : List RoundMark) (rounds : Nat) (context : Table String String) :
    ∀ u ∈ (progressOf ends rounds context).dropLast, u.percent ≠ 100 := by
  have hd : (progressOf ends rounds context).dropLast =
      .atRound .started 0 0 ∅ :: (ends.map RoundMark.update ++ [.atRound .finalizing 99 rounds ∅]) := by
    rw [progressOf, List.dropLast_cons_of_ne_nil (by simp), List.dropLast_append_of_ne_nil (by simp)]
    rfl
  rw [hd]
  intro u hu
  rcases List.mem_cons.1 hu with rfl | hu
  · decide
  · rcases List.mem_append.1 hu with hu | hu
    · obtain ⟨m, -, rfl⟩ := List.mem_map.1 hu
      exact Nat.ne_of_lt (Nat.lt_succ_of_le (percent_update_le m))
    · rw [List.mem_singleton.1 hu]
      exact Nat.ne_of_lt (show 99 < 100 by decide)

theorem progressOf_step_le (ends : List RoundMark) (rounds : Nat) (context : Table String String) :
    ∀ u ∈ progressOf ends rounds context, u.step ≤ u.totalSteps := by
  have hle (status : RunStatus) (percent round : Nat) (context : Table String String) :
      (ProgressUpdate.atRound status percent round context).step ≤
        (ProgressUpdate.atRound status percent round context).totalSteps := Nat.le_max_left _ _
  simp only [progressOf, RoundMark.update, List.mem_cons, List.mem_append, List.mem_map, List.not_mem_nil, or_false]
  rintro u (rfl | ⟨m, -, rfl⟩ | rfl | rfl) <;> exact hle _ _ _ _

/-- **The progress of a run is the log of its rounds.**  Unless the match starts over after a round was started, a
listener hears that the run has started, then of the end of every round in the report and in its order, then of the end
of the match.  The percentage never falls and reaches 100 with the last update only, and no update is ahead of the
steps that it counts. -/
theorem progress_follows_log (h : new header config = .ok p) {events : List TimedEvent} (hu : Unbroken events) :
    ∃ r, (p.withProgress.run events).result = .ok r ∧
      (p.withProgress.run events).updates =
        progressOf (r.marks.filter (·.kind = .finish)) r.summary.roundsPlayed (matchContext r) ∧
      (p.withProgress.run events).updates.Pairwise (fun u u' => u.percent ≤ u'.percent) ∧
      (∀ u ∈ (p.withProgress.run events).updates.dropLast, u.percent ≠ 100) ∧
      ∀ u ∈ (p.withProgress.run events).updates, u.step ≤ u.totalSteps := by
  have hfresh : Fresh header config p.withProgress := .heard h
  obtain ⟨_, hclose⟩ := MatchState.closeState_eq (p.withProgress.after events).state config
  have hcourse : (closeState (p.withProgress.after events).state config).course =
      (p.withProgress.after events).state.course := by
    rw [hclose]
    exact MatchState.course_settled _ _
  have hresult := (hfresh.run_ok events).1
  have hupdates := hfresh.run_updates events
  generalize hr : Report.ofState (closeState (p.withProgress.after events).state config) = r at hresult hupdates
  have hmarks : r.marks = (p.withProgress.after events).state.marks := by
    rw [← hr]
    exact congrArg Course.marks hcourse
  have hrounds : r.summary.roundsPlayed = (p.withProgress.after events).state.round.number := by
    rw [← hr]
    exact congrArg Course.number hcourse
  have hlog : RoundLog r.marks r.summary.roundsPlayed := by
    rw [hmarks, hrounds]
    exact (hfresh.logged events).log
  have hall : (p.withProgress.run events).updates =
      progressOf (roundEnds r.marks) r.summary.roundsPlayed (matchContext r) := by
    rw [hupdates, ← hfresh.roundEnds_after events hu, hmarks, hrounds]
    rfl
  rw [hall]
  exact ⟨r, hresult, rfl, progressOf_ordered (hlog.ordered.filter _) _ _, progressOf_dropLast _ _ _,
    progressOf_step_le _ _ _⟩

/-- A match that starts over before its first round, and an end that comes twice: the listener hears of both rounds
that end, and of each of them once. -/
theorem progress_follows_log_after_repeated_end :
    ∃ (p : Processor) (events : List TimedEvent) (r : Report),
      new { mapName := "de_dust2" } {} = .ok p ∧
      events =
        [⟨0, .playerConnect { id := 7, allegiance := .terrorist }⟩, ⟨1, .matchStart⟩, ⟨2, .roundStart⟩,
         ⟨64, .roundEnd { winner := some .t, reason := .terroristsWin }⟩,
         ⟨65, .roundEnd { winner := some .ct, reason := .ctWin }⟩, ⟨70, .roundStart⟩,
         ⟨90, .roundEnd { winner := some .ct, reason := .ctWin }⟩, ⟨95, .roundStart⟩] ∧
      Unbroken events ∧ (p.withProgress.run events).result = .ok r ∧
      (p.withProgress.run events).updates.map (fun u => (u.status, u.percent, u.step)) =
        [(.started, 0, 0), (.processing, 4, 1), (.processing, 8, 2), (.finalizing, 99, 3), (.completed, 100, 3)] := by
  have h : new { mapName := "de_dust2" } {} = .ok _ := new_default rfl
  have hu : Unbroken
      [⟨0, .playerConnect { id := 7, allegiance := .terrorist }⟩, ⟨1, .matchStart⟩, ⟨2, .roundStart⟩,
       ⟨64, .roundEnd { winner := some .t, reason := .terroristsWin }⟩,
       ⟨65, .roundEnd { winner := some .ct, reason := .ctWin }⟩, ⟨70, .roundStart⟩,
       ⟨90, .roundEnd { winner := some .ct, reason := .ctWin }⟩, ⟨95, .roundStart⟩] := by
    simp [Unbroken]
  obtain ⟨r, hr, hupdates, -⟩ := progress_follows_log h hu
  refine ⟨_, _, r, h, rfl, hu, hr, ?_⟩
  rw [hupdates]
  rw [((Fresh.heard h).run_ok _).1] at hr
  cases hr
  decide +kernel

end Processor

end Scorebook
