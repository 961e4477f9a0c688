import Scorebook.Proofs.Stream
/-!
# The course of a match

Where a match stands, which side team A plays and what the marks say of it is a small machine of its own: it starts a
round, decides it, or leaves a mark.  `Answer.course` says that a match runs this machine unless it starts over, so
that what its steps keep, every stream keeps (`kept_of_course`).
-/
namespace Scorebook

/-- Where a match stands. -/
structure Course where
  number : Nat := 0
  phase : Phase := .notStarted
  marks : List RoundMark := []
  sideOfA : Side := .ct
  winsA : Nat := 0
  winsB : Nat := 0
  swapDue : Bool := false

namespace Course

/-- A mark of the round in progress, with the sides and the score of the moment. -/
structure Tells (k : Course) (kind : RoundMarkKind) (m : RoundMark) : Prop where
  round : m.round = k.number
  kind : m.kind = kind
  teamASide : m.teamASide = k.sideOfA
  teamAScore : m.teamAScore = k.winsA
  teamBScore : m.teamBScore = k.winsB

def addMark (k : Course) (m : RoundMark) : Course := { k with marks := k.marks ++ [m] }

def begun (k : Course) : Course :=
  { k with
    number := k.number + 1
    phase := .live
    sideOfA := if k.swapDue then k.sideOfA.opposite else k.sideOfA
    swapDue := false }

def onSide (k : Course) (s : Side) : Team := if k.sideOfA = s then .a else .b

def decided (k : Course) (winner : Option Side) : Course :=
  { k with
    phase := .ended
    winsA := if winner.map k.onSide = some .a then k.winsA + 1 else k.winsA
    winsB := if winner.map k.onSide = some .b then k.winsB + 1 else k.winsB
    swapDue := isSwapRound (k.number + 1) || k.swapDue }

/-- **What can happen to the course of a match.** -/
inductive Step (k : Course) : Course → Prop where
  | stay : Step k k
  | start {m : RoundMark} (hm : k.begun.Tells .start m) : Step k (k.begun.addMark m)
  | finish {m : RoundMark} (hl : k.phase = .live) (hm : (k.decided m.winnerSide).Tells .finish m)
      (hw : m.winnerTeam = m.winnerSide.map k.onSide) : Step k ((k.decided m.winnerSide).addMark m)
  /-- The end of the freeze time of a live round, or something about the bomb. -/
  | note {m : RoundMark} {kind : RoundMarkKind} (ho : k.phase ≠ .notStarted) (hm : k.Tells kind m)
      (hs : kind ≠ .start) (hf : kind ≠ .finish) (ht : kind = .freezeEnd → k.phase = .live) : Step k (k.addMark m)

/-! ## Rounds and their marks -/

/-- The rounds of a match are numbered from 1, and every round so far has left the mark of its start. -/
structure Sound (k : Course) : Prop where
  opened : k.phase ≠ .notStarted → 1 ≤ k.number
  closed : k.phase = .notStarted → k.number = 0
  range : ∀ m ∈ k.marks, 1 ≤ m.round ∧ m.round ≤ k.number
  started : ∀ r, 1 ≤ r → r ≤ k.number → ∃ m ∈ k.marks, m.kind = .start ∧ m.round = r

variable {k k' : Course}

theorem Step.number_le (h : k.Step k') : k.number ≤ k'.number := by
  cases h with
  | start => exact Nat.le_succ _
  | stay | finish | note => exact Nat.le_refl _

theorem Sound.empty : Sound {} where
  opened h := absurd rfl h
  closed _ := rfl
  range m hm := by cases hm
  started r h h' := by
    have h' : r ≤ 0 := h'
    omega

theorem Sound.addMark (h : Sound k) {m : RoundMark} (hr : m.round = k.number) (ho : k.phase ≠ .notStarted) :
    Sound (k.addMark m) := by
  refine ⟨h.opened, h.closed, fun m' hm' => ?_, fun r hr hr' => ?_⟩
  · rcases List.mem_append.1 hm' with h' | h'
    · exact h.range m' h'
    · rw [List.mem_singleton.1 h', hr]
      exact ⟨h.opened ho, Nat.le_refl _⟩
  · obtain ⟨m', hm', hs⟩ := h.started r hr hr'
    exact ⟨m', List.mem_append_left _ hm', hs⟩

theorem Sound.step (h : Sound k) (hs : k.Step k') : Sound k' := by
  cases hs with
  | stay => exact h
  | @start m hm =>
    have hr : m.round = k.number + 1 := hm.round
    refine ⟨fun _ => Nat.succ_pos _, fun hp => (by cases hp), fun m' hm' => ?_, fun r h1 hle => ?_⟩
    · rcases List.mem_append.1 hm' with h' | h'
      · exact ⟨(h.range m' h').1, Nat.le_succ_of_le (h.range m' h').2⟩
      · rw [List.mem_singleton.1 h', hr]
        exact ⟨Nat.succ_pos _, Nat.le_refl _⟩
    · by_cases hlast : r = k.number + 1
      · exact ⟨m, List.mem_append_right _ List.mem_cons_self, hm.kind, hr.trans hlast.symm⟩
      · have hle : r ≤ k.number + 1 := hle
        obtain ⟨m', hm', hs⟩ := h.started r h1 (by omega)
        exact ⟨m', List.mem_append_left _ hm', hs⟩
  | @finish m hl hm _ =>
    have ho : k.phase ≠ .notStarted := by
      rw [hl]
      exact Phase.noConfusion
    have hd : Sound (k.decided m.winnerSide) :=
      ⟨fun _ => h.opened ho, fun hp => (by cases hp), h.range, h.started⟩
    exact hd.addMark hm.round Phase.noConfusion
  | note ho hm => exact h.addMark hm.round ho

end Course

/-- The ends of rounds among marks. -/
def roundEnds (marks : List RoundMark) : List RoundMark := marks.filter (·.kind = .finish)

namespace MatchState

def course (s : MatchState) : Course where
  number := s.round.number
  phase := s.round.phase
  marks := s.marks
  sideOfA := s.teams.sideOfA
  winsA := s.teams.winsA
  winsB := s.teams.winsB
  swapDue := s.teams.swapDue

variable (s : MatchState)

@[simp] theorem course_observe (a : Actor) : (s.observe a).course = s.course := by
  rw [observe_eq]
  rfl

@[simp] theorem course_observeOptional (a : Option Actor) : (s.observeOptional a).course = s.course := by
  cases a with
  | none => rfl
  | some a => exact course_observe s a

theorem Aside.course_eq {s s' : MatchState} (h : Aside s s') : s'.course = s.course := by
  obtain ⟨_, _, _, _, _, rfl⟩ := h
  rfl

theorem course_enterGunfight (before : MatchState) (c : Config) (n : KillNotice) (killer victim : Actor)
    (weapon : Weapon) (tick : Tick) :
    (s.enterGunfight before c n killer victim weapon tick).course = s.course := by
  rcases enterGunfight_cases s before c n killer victim weapon tick with ⟨-, h⟩ | ⟨-, s', flashAssister, hw, h⟩ <;>
    rw [h]
  · rfl
  · exact hw.aside.course_eq

theorem course_settled (c : Config) : (s.settled c).course = s.course := by
  obtain ⟨_, _, _, _, hs, -⟩ := settled_eq s c
  rw [hs]
  rfl

theorem tells_mark (kind : RoundMarkKind) (tick : Tick) : s.course.Tells kind (s.mark kind tick) :=
  ⟨rfl, rfl, rfl, rfl, rfl⟩

@[simp] theorem number_settled (c : Config) : (s.settled c).round.number = s.round.number :=
  congrArg Course.number (course_settled s c)

theorem phase_of_isOpen (h : s.round.isOpen = true) : s.course.phase ≠ .notStarted := by
  simpa [course, Round.isOpen] using h

/-- No round is open only before the first one. -/
theorem number_of_isOpen_eq_false (hs : s.course.Sound) (h : s.round.isOpen = false) : s.round.number = 0 := by
  apply hs.closed
  simpa [course, Round.isOpen] using h

theorem step_recordFreezeEnd (hl : s.round.phase = .live) (tick : Tick) :
    s.course.Step (s.recordFreezeEnd tick).course := by
  have hm := tells_mark { s with round := { s.round with freezeEndTick := some tick } } .freezeEnd tick
  have ho : s.course.phase ≠ .notStarted := by
    show s.round.phase ≠ .notStarted
    rw [hl]
    exact Phase.noConfusion
  unfold recordFreezeEnd
  rw [if_pos hl]
  exact .note ho hm RoundMarkKind.noConfusion RoundMarkKind.noConfusion (fun _ => hl)

theorem kind_of_bomb {e : Event} {kind : RoundMarkKind} {n : BombNotice} (h : e.bomb? = some (kind, n)) :
    kind ≠ .start ∧ kind ≠ .finish ∧ kind ≠ .freezeEnd := by
  cases e with
  | bombPlanted | bombDefused | bombExploded =>
    cases h
    exact ⟨RoundMarkKind.noConfusion, RoundMarkKind.noConfusion, RoundMarkKind.noConfusion⟩
  | _ => cases h

theorem course_applySwap :
    ({ s with teams := s.teams.applySwap } : MatchState).course =
      { s.course with
        sideOfA := if s.teams.swapDue then s.teams.sideOfA.opposite else s.teams.sideOfA, swapDue := false } := by
  unfold course Teams.applySwap
  cases hd : s.teams.swapDue <;> simp [hd]

theorem step_opened (tick : Tick) : s.course.Step (s.opened tick).course := by
  have hb : ({ s with teams := s.teams.applySwap }.beginRound tick).state.course = s.course.begun := by
    show { ({ s with teams := s.teams.applySwap } : MatchState).course with
      number := s.round.number + 1, phase := .live } = s.course.begun
    rw [course_applySwap]
    rfl
  have hm := tells_mark ({ s with teams := s.teams.applySwap }.beginRound tick).state .start tick
  rw [hb] at hm
  have ho : (s.opened tick).course = s.course.begun.addMark
      (({ s with teams := s.teams.applySwap }.beginRound tick).state.mark .start tick) := by
    rw [← hb]
    rfl
  rw [ho]
  exact .start hm

theorem course_scored (n : RoundEndNotice) (t : Teams) (h : t = s.scored n) (phase : Phase) :
    ({ s with
        teams := { t with swapDue := isSwapRound (s.round.number + 1) || t.swapDue }
        round := { s.round with phase } } : MatchState).course =
      { s.course.decided n.winner with phase } := by
  subst h
  unfold scored
  cases n.winner with
  | none => rfl
  | some side =>
    unfold Teams.addWin course Course.decided Course.onSide Teams.onSide
    by_cases hs : s.teams.sideOfA = side <;> simp [hs]

theorem step_decideRound {n : RoundEndNotice} {tick : Tick} (hl : s.round.phase = .live) :
    s.course.Step (s.decideRound n tick).course := by
  have hc := course_scored s n _ rfl .ended
  have hm : (s.course.decided n.winner).Tells .finish (s.endMark n tick) := by
    have h := tells_mark ({ s with
      teams := { s.scored n with swapDue := isSwapRound (s.round.number + 1) || (s.scored n).swapDue }
      round := { s.round with phase := .ended } } : MatchState) .finish tick
    rw [hc] at h
    exact ⟨h.round, h.kind, h.teamASide, h.teamAScore, h.teamBScore⟩
  have hd : (s.decideRound n tick).course = (s.course.decided n.winner).addMark (s.endMark n tick) := by
    rw [decideRound_eq]
    exact congrArg (fun k : Course => k.addMark (s.endMark n tick)) hc
  rw [hd]
  exact .finish hl hm rfl

variable {s}

/-- **What an answer does to the course of a match**: the match starts over, a live round is decided, or the course
takes a step that decides no round. -/
theorem Answer.turn {c : Config} {tick : Tick} {e : Event} {step : Scorebook.Step MatchState}
    (h : Answer c s tick e step) :
    e = .matchStart ∧ step.state = s.restart ∨
      (∃ n, e = .roundEnd n ∧ s.round.phase = .live ∧ step.state = s.decideRound n tick) ∨
        s.course.Step step.state.course ∧ roundEnds step.state.marks = roundEnds s.marks := by
  have stay {s' : MatchState} (hs : s'.course = s.course) :
      s.course.Step s'.course ∧ roundEnds s'.marks = roundEnds s.marks := by
    rw [hs]
    exact ⟨.stay, congrArg (fun k : Course => roundEnds k.marks) hs⟩
  have other {m : RoundMark} (hm : m.kind ≠ .finish) (marks : List RoundMark) :
      roundEnds (marks ++ [m]) = roundEnds marks := by
    simp [roundEnds, hm]
  cases h with
  | restarted => exact .inl ⟨rfl, rfl⟩
  | decided hl => exact .inr (.inl ⟨_, rfl, hl, rfl⟩)
  | passed | idle | gone | left => exact .inr (.inr (stay rfl))
  | begun =>
    have hmarks : (s.settled c).marks = s.marks := congrArg Course.marks (course_settled s c)
    rw [startRound_state, ← course_settled s c, ← hmarks]
    exact .inr (.inr ⟨step_opened _ tick, other RoundMarkKind.noConfusion _⟩)
  | thawed hl =>
    refine .inr (.inr ⟨step_recordFreezeEnd s hl tick, ?_⟩)
    rw [recordFreezeEnd, if_pos hl]
    exact other RoundMarkKind.noConfusion _
  | died | weaponless | shown => exact .inr (.inr (stay (course_observe s _)))
  | killed =>
    exact .inr (.inr (stay ((course_enterGunfight _ _ _ _ _ _ _ _).trans
      ((course_observe _ _).trans (course_observe s _)))))
  | hit =>
    exact .inr (.inr (stay ((aside_enterDamage _ _ _ _ _ _).course_eq.trans
      ((course_observeOptional _ _).trans (course_observe s _)))))
  | fired => exact .inr (.inr (stay ((course_observe _ _).trans (aside_fire s _ _ _).course_eq)))
  | thrown => exact .inr (.inr (stay (aside_bindThrow s _ _ _ _).course_eq))
  | unseen => exact .inr (.inr (stay (aside_noteThrower s _ _).course_eq))
  | detonated => exact .inr (.inr (stay (aside_recordGrenade s _ _ _).course_eq))
  | flashMoved => exact .inr (.inr (stay (flashWork_moveFlash s _ _ _).aside.course_eq))
  | flashUnseen =>
    exact .inr (.inr (stay ((aside_noteThrower s _ _).trans (flashWork_startFlash _ _ _ _ _ _).aside).course_eq))
  | flashStarted =>
    exact .inr (.inr (stay ((aside_recordGrenade s _ _ _).trans (flashWork_startFlash _ _ _ _ _ _).aside).course_eq))
  | blinded => exact .inr (.inr (stay (flashWork_placeBlinding _ _ _ _ _ _).aside.course_eq))
  | @bombed _ kind n ho he =>
    have hm := tells_mark (s.observeOptional n.player) kind tick
    rw [course_observeOptional] at hm
    have hc (m : RoundMark) : ((s.observeOptional n.player).addMark m).course = s.course.addMark m :=
      congrArg (fun k : Course => k.addMark m) (course_observeOptional s n.player)
    have hmarks : (s.observeOptional n.player).marks = s.marks :=
      congrArg Course.marks (course_observeOptional s n.player)
    obtain ⟨hs, hf, ht⟩ := kind_of_bomb he
    refine .inr (.inr ⟨?_, ?_⟩)
    · rw [hc]
      exact .note (phase_of_isOpen s ho) ⟨hm.round, hm.kind, hm.teamASide, hm.teamAScore, hm.teamBScore⟩ hs hf
        (fun h => absurd h ht)
    · rw [← hmarks]
      exact other hf _

/-- **Every answer of a match starts it over or is a step of its course.** -/
theorem Answer.course {c : Config} {tick : Tick} {e : Event} {step : Scorebook.Step MatchState}
    (h : Answer c s tick e step) : step.state = s.restart ∨ s.course.Step step.state.course := by
  rcases h.turn with ⟨-, hr⟩ | ⟨n, -, hl, hd⟩ | ⟨hs, -⟩
  · exact .inl hr
  · rw [hd]
    exact .inr (step_decideRound s hl)
  · exact .inr hs

theorem course_restart (s : MatchState) : s.restart = s ∨ s.restart.course = {} := by
  unfold restart
  split
  · exact .inl rfl
  · exact .inr rfl

/-- **What the first course has and every step keeps, every stream keeps.** -/
theorem kept_of_course (c : Config) {P : Course → Prop} (h0 : P {})
    (h : ∀ {k k' : Course}, k.Step k' → P k → P k') : Kept c (fun s => P s.course) where
  clock _ _ hp := hp
  sights _ _ hp := hp
  answer {s _ _ _} ha hp := by
    rcases ha.course with hr | hs
    · rw [hr]
      rcases course_restart s with hr | hr <;> rw [hr]
      · exact hp
      · exact h0
    · exact h hs hp

end MatchState

theorem Processor.Fresh.sound {header : Header} {config : Config} {p : Processor} (h : Fresh header config p)
    (events : List TimedEvent) : (p.after events).state.course.Sound :=
  h.keeps_after (MatchState.kept_of_course config .empty (fun hs hk => hk.step hs)) .empty events

end Scorebook
