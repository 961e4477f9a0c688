import Scorebook.Proofs.History
import Scorebook.Proofs.Course
import Scorebook.Proofs.Registry
import Scorebook.Proofs.Safety
/-!
# A match that starts over

When a match starts over, everything recorded so far is taken back, by hand and field by field; as long as no round was
started this is skipped.  Nothing is lost by that: before the first round a match is as it was made, apart from who was
seen (`Blank`).  What follows depends on what went before only through that, and not through all of it (`Carried`), as
the next round forgets most of what was seen.
-/
namespace Scorebook

/-- A player without what was tallied. -/
def Player.cleared (p : Player) : Player := { id := p.id, name := p.name, connected := p.connected }

namespace MatchState

/-- A match as it is made, with the players, the teams and the sightings of another. -/
def cleared (s : MatchState) (header : Header) (c : Config) : MatchState :=
  { MatchState.new header c with
    currentTick := s.currentTick
    players := s.players.mapValues (fun _ p => p.cleared)
    conditions := s.conditions
    teams := { labels := s.teams.labels }
    sightings := s.sightings }

/-! ## Before a round is started -/

/-- The match without a player who disconnects. -/
def dropped (s : MatchState) (id : PlayerId) : MatchState :=
  if s.players.contains id then
    { s.setConnected id false with conditions := s.conditions.modify id (fun c => { c with isAlive := false }) }
  else s

/-- What an event comes to before a round is started. -/
def between (s : MatchState) (tick : Tick) : Event → MatchState
  | .matchStart => s.restart
  | .roundStart => s.opened tick
  | .playerDisconnect a => s.dropped a.id
  | e => s.observeOptional e.shown?

variable {header : Header} {c : Config} {s s' : MatchState} {tick : Tick}

theorem isOpen_of_notStarted (h : s.round.phase = .notStarted) : s.round.isOpen = false := by
  simp [Round.isOpen, h]

/-- **Before a round is started, players come and go, and nothing else happens.** -/
theorem respond_between (h : s.round.phase = .notStarted) (c : Config) (tick : Tick) (e : Event) :
    (respond c s tick e).state = s.between tick e := by
  have ho := isOpen_of_notStarted h
  cases e with
  | matchStart | playerConnect => rfl
  | roundStart =>
    show (s.settled c).opened tick = s.opened tick
    simp [settled, ho]
  | freezeEnd | roundEnd | kill | playerHurt | weaponFire | projectileThrow | projectileDestroy | flashExplode
  | playerFlashed | smokeStart | bombPlanted | bombDefused | bombExploded =>
    simp [respond, Processor.handle, recordFreezeEnd, recordKill, recordHurt, recordFire, recordProjectileThrow,
      recordDetonation, recordFlashExplode, recordFlashed, recordBomb, Step.stop, h, ho, between, Event.shown?,
      observeOptional]
  | playerTeamChange n =>
    simp only [respond, Processor.handle, recordTeamChange, between, Event.shown?]
    cases n.player <;> rfl
  | playerDisconnect a =>
    have hplay : (s.setConnected a.id false).isInPlay a.id = false := by
      simp [isInPlay, setConnected, h]
    simp only [respond, Processor.handle, recordDisconnect, between, dropped, hplay]
    cases s.players.contains a.id <;> rfl

/-- **A match as it is made, apart from its clock, the players and what was seen of them**, none of whom has a tally. -/
def Blank (header : Header) (c : Config) (s : MatchState) : Prop :=
  ∃ currentTick players conditions labels sightings,
    s = { MatchState.new header c with currentTick, players, conditions, teams := { labels }, sightings } ∧
      players.All (fun _ p => p.cleared = p)

namespace Blank

theorem new (header : Header) (c : Config) : Blank header c (MatchState.new header c) :=
  ⟨_, _, _, _, _, rfl, Table.all_empty⟩

theorem cleared (header : Header) (c : Config) (s : MatchState) : Blank header c (s.cleared header c) := by
  refine ⟨_, _, _, _, _, rfl, ?_⟩
  intro id p hp
  rw [Table.get?_mapValues] at hp
  obtain ⟨q, -, rfl⟩ := Option.map_eq_some_iff.1 hp
  rfl

theorem cleared_eq (h : Blank header c s) : s.cleared header c = s := by
  obtain ⟨_, players, _, _, _, rfl, hp⟩ := h
  have hsame : players.mapValues (fun _ p => p.cleared) = players := Table.mapValues_of_fixed hp
  simp [MatchState.cleared, hsame]

theorem restart_eq (h : Blank header c s) : s.restart = s := by
  obtain ⟨_, _, _, _, _, rfl, -⟩ := h
  rfl

theorem notStarted (h : Blank header c s) : s.round.phase = .notStarted := by
  obtain ⟨_, _, _, _, _, rfl, -⟩ := h
  rfl

theorem advance (h : Blank header c s) (tick : Tick) : Blank header c (s.advance tick) := by
  obtain ⟨_, _, _, _, _, rfl, hp⟩ := h
  exact ⟨_, _, _, _, _, rfl, hp⟩

theorem sightActors (h : Blank header c s) (e : TimedEvent) : Blank header c (Processor.sightActors s e) := by
  obtain ⟨_, _, _, _, _, rfl, hp⟩ := h
  exact ⟨_, _, _, _, _, rfl, hp⟩

theorem dropped (h : Blank header c s) (id : PlayerId) : Blank header c (s.dropped id) := by
  unfold MatchState.dropped
  split
  · obtain ⟨_, _, _, _, _, rfl, hp⟩ := h
    refine ⟨_, _, _, _, _, rfl, hp.modify (fun p hclear => ?_)⟩
    rw [← hclear]
    rfl
  · exact h

theorem observe (h : Blank header c s) (a : Actor) : Blank header c (s.observe a) := by
  have ho := isOpen_of_notStarted h.notStarted
  cases hs : a.allegiance.side? with
  | none =>
    rw [observe_spectator s hs]
    obtain ⟨_, _, _, _, _, rfl, hp⟩ := h
    exact ⟨_, _, _, _, _, rfl, hp⟩
  | some side =>
    rw [observe_player s hs, assign_eq, ho]
    obtain ⟨_, players, _, _, _, rfl, hp⟩ := h
    refine ⟨_, _, _, _, _, rfl, hp.insert ?_⟩
    cases hk : players.get? a.id with
    | none => rfl
    | some p =>
      have hclear : p.cleared = p := hp hk
      rw [← hclear]
      rfl

/-- **Whatever happens before the first round, the match stays blank.** -/
theorem between (h : Blank header c s) {e : Event} (hne : e ≠ .roundStart) : Blank header c (s.between tick e) := by
  cases e with
  | roundStart => exact absurd rfl hne
  | matchStart =>
    show Blank header c s.restart
    rw [h.restart_eq]
    exact h
  | playerDisconnect a => exact h.dropped a.id
  | playerConnect a => exact h.observe a
  | playerTeamChange n =>
    unfold MatchState.between
    cases hp : n.player with
    | none => simpa [Event.shown?, hp, observeOptional] using h
    | some a => simpa [Event.shown?, hp, observeOptional] using h.observe { a with allegiance := n.newTeam }
  | _ => exact h

end Blank

theorem restart_of_started (hn : s.round.number ≠ 0) (hf : s.fixed = (MatchState.new header c).fixed)
    (hs : s.strayed = false) : s.restart = s.cleared header c := by
  obtain ⟨hheader, hrate, hmatches, hfinalized⟩ : s.header = header ∧ s.tickRate = (MatchState.new header c).tickRate ∧
      s.playerMatches = [] ∧ s.finalized = false := by
    simpa [fixed, MatchState.new] using hf
  simp only [restart, hn, decide_false, Bool.false_and, Bool.false_eq_true, if_false, cleared, hheader, hrate, hmatches,
    hfinalized, hs]
  rfl

/-! ## Two matches before a round is started -/

/-- What of the players a match sees again when a round starts. -/
def atRoundStart (conditions : Table PlayerId Condition) : Table PlayerId Condition :=
  conditions.mapValues (fun _ c => c.atRoundStart)

/-- Two matches before a round is started, apart in nothing but what the next round forgets. -/
def Alike (s s' : MatchState) : Prop :=
  s.round.phase = .notStarted ∧ ∃ conditions sightings, s' = { s with conditions, sightings } ∧
    atRoundStart conditions = atRoundStart s.conditions

namespace Alike

theorem notStarted (h : Alike s s') : s'.round.phase = .notStarted := by
  obtain ⟨hn, _, _, rfl, -⟩ := h
  exact hn

theorem advance (h : Alike s s') (tick : Tick) : Alike (s.advance tick) (s'.advance tick) := by
  obtain ⟨hn, _, _, rfl, hc⟩ := h
  exact ⟨hn, _, _, rfl, hc⟩

theorem sightActors (h : Alike s s') (e : TimedEvent) :
    Alike (Processor.sightActors s e) (Processor.sightActors s' e) := by
  obtain ⟨hn, _, _, rfl, hc⟩ := h
  exact ⟨hn, _, _, rfl, hc⟩

theorem opened_eq (h : Alike s s') (tick : Tick) : s.opened tick = s'.opened tick := by
  obtain ⟨-, _, _, rfl, hc⟩ := h
  unfold MatchState.atRoundStart at hc
  simp only [MatchState.opened, beginRound, hc]

theorem restart (h : Alike s s') : Alike s.restart s'.restart := by
  obtain ⟨hn, _, _, rfl, hc⟩ := h
  unfold MatchState.restart
  split
  · exact ⟨hn, _, _, rfl, hc⟩
  · exact ⟨rfl, _, _, rfl, hc⟩

theorem dropped (h : Alike s s') (id : PlayerId) : Alike (s.dropped id) (s'.dropped id) := by
  obtain ⟨hn, conditions, _, rfl, hc⟩ := h
  have hgone (conditions : Table PlayerId Condition) :
      atRoundStart (conditions.modify id (fun c => { c with isAlive := false })) =
        (atRoundStart conditions).modify id (fun c => c) :=
    Table.mapValues_modify _ _ (fun _ => rfl)
  unfold MatchState.dropped
  split
  · refine ⟨hn, _, _, rfl, ?_⟩
    rw [hgone, hc, ← hgone]
  · exact ⟨hn, _, _, rfl, hc⟩

theorem observe (h : Alike s s') (a : Actor) : Alike (s.observe a) (s'.observe a) := by
  obtain ⟨hn, conditions, sightings, rfl, hc⟩ := h
  have ho := isOpen_of_notStarted hn
  cases hs : a.allegiance.side? with
  | none =>
    have hseen (conditions : Table PlayerId Condition) :
        atRoundStart (conditions.modify a.id (fun c => { c with allegiance := a.allegiance })) =
          (atRoundStart conditions).modify a.id (fun c => { c with allegiance := a.allegiance }) :=
      Table.mapValues_modify _ _ (fun _ => rfl)
    rw [observe_spectator s hs, observe_spectator _ hs]
    refine ⟨hn, _, _, rfl, ?_⟩
    simp only [hseen, hc]
  | some side =>
    -- a round starts with what the last event showed of a player, whatever was known before
    have hseen (conditions : Table PlayerId Condition) (old : Condition) :
        atRoundStart (conditions.insert a.id (old.refresh a)) =
          (atRoundStart conditions).insert a.id ((default : Condition).refresh a).atRoundStart :=
      Table.mapValues_insert _ _ _ _
    rw [observe_player s hs, observe_player _ hs]
    refine ⟨hn, _, _, rfl, ?_⟩
    simp only [hseen, hc]

/-- **Two matches stay alike until a round is started**, and are the same then. -/
theorem between (h : Alike s s') (tick : Tick) (e : Event) :
    s.between tick e = s'.between tick e ∨ Alike (s.between tick e) (s'.between tick e) := by
  cases e with
  | roundStart => exact .inl (h.opened_eq tick)
  | matchStart => exact .inr h.restart
  | playerDisconnect a => exact .inr (h.dropped a.id)
  | playerConnect a => exact .inr (h.observe a)
  | playerTeamChange n =>
    right
    unfold MatchState.between
    cases hp : n.player with
    | none => simpa [Event.shown?, hp, observeOptional] using h
    | some a => simpa [Event.shown?, hp, observeOptional] using h.observe { a with allegiance := n.newTeam }
  | _ => exact .inr h

theorem next (h : Alike s s') (c : Config) (e : TimedEvent) :
    s.next c e = s'.next c e ∨ Alike (s.next c e) (s'.next c e) := by
  have ha := h.advance e.tick
  unfold MatchState.next
  rw [respond_between ha.1, respond_between ha.notStarted]
  rcases ha.between e.tick e.event with heq | halike
  · exact .inl (by rw [heq])
  · exact .inr (halike.sightActors e)

theorem foldl (c : Config) : ∀ (events : List TimedEvent) {s s' : MatchState}, Alike s s' →
    events.foldl (MatchState.next c) s = events.foldl (MatchState.next c) s' ∨
      Alike (events.foldl (MatchState.next c) s) (events.foldl (MatchState.next c) s')
  | [], _, _, h => .inr h
  | e :: events, s, s', h => by
    simp only [List.foldl_cons]
    rcases h.next c e with heq | halike
    · exact .inl (by rw [heq])
    · exact foldl c events halike

/-- **Two matches that are alike have one report.** -/
theorem report_eq (h : Alike s s') (c : Config) :
    Report.ofState (Processor.closeState s c) = Report.ofState (Processor.closeState s' c) := by
  obtain ⟨hn, _, _, rfl, -⟩ := h
  have ho := isOpen_of_notStarted hn
  simp only [Processor.closeState, ho, Bool.false_eq_true, if_false]
  rfl

end Alike

/-- What of a match shows in the report when the match starts over: who plays, in which team, and how the players were
last seen. -/
structure Carried where
  currentTick : Tick
  players : Table PlayerId Player
  labels : Table PlayerId Team
  conditions : Table PlayerId Condition

def carried (s : MatchState) : Carried where
  currentTick := s.currentTick
  players := s.players.mapValues (fun _ p => p.cleared)
  labels := s.teams.labels
  conditions := atRoundStart s.conditions

theorem alike_cleared (h : s.carried = s'.carried) (header : Header) (c : Config) (tick : Tick) :
    Alike ((s.advance tick).cleared header c) ((s'.advance tick).cleared header c) := by
  obtain ⟨htick, hplayers, hlabels, hconditions⟩ : s.currentTick = s'.currentTick ∧
      s.players.mapValues (fun _ p => p.cleared) = s'.players.mapValues (fun _ p => p.cleared) ∧
      s.teams.labels = s'.teams.labels ∧ atRoundStart s.conditions = atRoundStart s'.conditions := by
    simpa [carried] using h
  refine ⟨rfl, s'.conditions, s'.sightings, ?_, hconditions.symm⟩
  simp only [cleared, MatchState.advance, htick, hplayers, hlabels]

end MatchState

namespace Processor

open MatchState

variable {header : Header} {config : Config} {p q : Processor}

namespace Fresh

theorem restart_started (h : Fresh header config p) {events : List TimedEvent}
    (hn : (p.after events).state.round.number ≠ 0) (tick : Tick) :
    ((p.after events).state.advance tick).restart = ((p.after events).state.advance tick).cleared header config := by
  have hplaced := h.keeps_after (Placed.kept config) (.new header config) events
  exact restart_of_started (s := (p.after events).state.advance tick) hn (h.after_fixed events) hplaced.found

/-- **Before the first round nothing is recorded.** -/
theorem blank (h : Fresh header config p) (events : List TimedEvent) :
    (p.after events).state.round.number = 0 → Blank header config (p.after events).state := by
  refine h.traces (P := fun _ s => s.round.number = 0 → Blank header config s) (fun _ => .new header config) ?_ events
  intro events e hp hzero
  by_cases hn : (p.after events).state.round.number = 0
  · have hb := (hp hn).advance e.tick
    rw [MatchState.next, respond_between hb.notStarted] at hzero ⊢
    have hne : e.event ≠ .roundStart := fun he => by
      rw [he] at hzero
      exact absurd hzero (Nat.succ_ne_zero _)
    exact (hb.between hne).sightActors e
  · -- a round was started, so the number is back at zero because the match has started over
    rcases (answer_respond config ((p.after events).state.advance e.tick) e.tick e.event).course with hr | hstep
    · rw [MatchState.next, hr, h.restart_started hn]
      exact (Blank.cleared header config _).sightActors e
    · exact absurd (Nat.le_zero.1 (hzero ▸ hstep.number_le)) hn

theorem restart_eq (h : Fresh header config p) (events : List TimedEvent) (tick : Tick) :
    ((p.after events).state.advance tick).restart = ((p.after events).state.advance tick).cleared header config := by
  by_cases hn : (p.after events).state.round.number = 0
  · have hb := (h.blank events hn).advance tick
    rw [hb.restart_eq, hb.cleared_eq]
  · exact h.restart_started hn tick

theorem after_matchStart (h : Fresh header config p) (events : List TimedEvent) (tick : Tick) :
    (p.after (events ++ [⟨tick, .matchStart⟩])).state =
      ((p.after events).state.advance tick).cleared header config := by
  rw [h.after_concat_state]
  exact h.restart_eq events tick

end Fresh

/-- **A match that starts over is as it was made**, apart from its clock and the players: who they are, how they were
last seen, and which team they belong to.  This holds whether a round was started or not, so that starting over twice
is starting over once.  Nothing that was recorded before is in the report: streams that leave the same players behind
have the same report when the match starts over and goes on in the same way. -/
theorem match_starts_over (h : Fresh header config p) :
    (∀ q tick, Follows p q → q.state.finalized = false →
      (q.processEvent ⟨tick, .matchStart⟩).processor.state = (q.state.advance tick).cleared header config ∧
        ∀ later, ((q.processEvent ⟨tick, .matchStart⟩).processor.processEvent ⟨later, .matchStart⟩).processor.state =
          (q.processEvent ⟨tick, .matchStart⟩).processor.state.advance later) ∧
      ∀ before before' tick events, (p.after before).state.carried = (p.after before').state.carried →
        ∃ r, (p.run (before ++ ⟨tick, .matchStart⟩ :: events)).result = .ok r ∧
          (p.run (before' ++ ⟨tick, .matchStart⟩ :: events)).result = .ok r := by
  constructor
  · intro q tick hq hf
    obtain ⟨events, rfl⟩ := h.running_of_follows hq hf
    rw [← after_concat]
    refine ⟨h.after_matchStart events tick, fun later => ?_⟩
    rw [← after_concat, h.after_matchStart, h.after_matchStart]
    exact ((Blank.cleared header config _).advance later).cleared_eq
  · intro before before' tick events hcarried
    have hstate (before : List TimedEvent) : (p.after (before ++ ⟨tick, .matchStart⟩ :: events)).state =
        events.foldl (MatchState.next config) (((p.after before).state.advance tick).cleared header config) := by
      rw [← h.after_matchStart, h.after_state, h.after_state, ← List.foldl_append, List.append_assoc]
      rfl
    have halike := alike_cleared hcarried header config tick
    refine ⟨_, (h.run_ok _).1, (h.run_ok _).1.trans ?_⟩
    rw [hstate, hstate]
    rcases halike.foldl config events with heq | halike
    · rw [heq]
    · rw [halike.report_eq]

/-- A warm-up with a kill in it, against a stream in which both players only connect. -/
theorem match_starts_over_after_warmup :
    ∃ (p : Processor) (warmup : List TimedEvent) (r : Report),
      p = { config := {}, state := MatchState.new { mapName := "de_dust2" } {} } ∧
      warmup =
        [⟨0, .playerConnect { id := 1, allegiance := .counterTerrorist }⟩,
         ⟨1, .playerConnect { id := 2, allegiance := .terrorist }⟩, ⟨2, .roundStart⟩,
         ⟨64, .kill { killer := some { id := 1, allegiance := .counterTerrorist }
                      victim := some { id := 2, allegiance := .terrorist }, weapon := some .ak47 }⟩] ∧
      (p.after warmup).state.gunfights.length = 1 ∧
      ((p.after warmup).processEvent ⟨70, .matchStart⟩).processor.state =
        ((p.after warmup).state.advance 70).cleared { mapName := "de_dust2" } {} ∧
      (p.run (warmup ++ [⟨70, .matchStart⟩, ⟨80, .roundStart⟩])).result = .ok r ∧
      (p.run
        [⟨0, .playerConnect { id := 1, allegiance := .counterTerrorist }⟩,
         ⟨64, .playerConnect { id := 2, allegiance := .terrorist }⟩, ⟨70, .matchStart⟩, ⟨80, .roundStart⟩]).result =
          .ok r ∧
      r.gunfights.length = 0 := by
  have h : Fresh { mapName := "de_dust2" } {} _ := .default rfl
  obtain ⟨r, hr, hr'⟩ := (match_starts_over h).2
    [⟨0, .playerConnect { id := 1, allegiance := .counterTerrorist }⟩,
     ⟨1, .playerConnect { id := 2, allegiance := .terrorist }⟩, ⟨2, .roundStart⟩,
     ⟨64, .kill { killer := some { id := 1, allegiance := .counterTerrorist }
                  victim := some { id := 2, allegiance := .terrorist }, weapon := some .ak47 }⟩]
    [⟨0, .playerConnect { id := 1, allegiance := .counterTerrorist }⟩,
     ⟨64, .playerConnect { id := 2, allegiance := .terrorist }⟩]
    70 [⟨80, .roundStart⟩] (by with_unfolding_all rfl)
  refine ⟨_, _, r, rfl, rfl, ?_, ?_, hr, hr', ?_⟩
  · decide +kernel
  · exact ((match_starts_over h).1 _ 70 (follows_after _ _) (h.after_finalized _)).1
  · rw [(h.run_ok _).1] at hr
    cases hr
    decide +kernel

end Processor

end Scorebook
