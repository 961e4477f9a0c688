import Scorebook.Proofs.Completeness
import Scorebook.Proofs.Sides
/-!
# The log of the rounds and the score

The marks of a match are a log of its rounds: each round is started once, before anything else is told of it, and
decided at most once (`RoundLog`).  The score is what the log says, at every mark and at the end of it.  The record of a
round says whether the player's team won it, which the log may not take back (`Judged`), so that a player with a record
of every round has won as often as the team has.
-/
namespace Scorebook

/-! ## What the log says -/

/-- How often the log says that a team won a round. -/
def winsIn (team : Team) (marks : List RoundMark) : Nat :=
  marks.countP (fun m => m.kind = .finish && m.winnerTeam = some team)

/-- The winner of a round, as the last mark of its end tells. -/
def winnerIn (marks : List RoundMark) (round : Nat) : Option Team :=
  (marks.reverse.find? (fun m => m.round = round && m.kind = .finish)).bind (·.winnerTeam)

def RoundMark.score (m : RoundMark) : Team → Nat
  | .a => m.teamAScore
  | .b => m.teamBScore

def MatchSummary.score (m : MatchSummary) : Team → Nat
  | .a => m.teamAScore
  | .b => m.teamBScore

/-- **The marks of `number` rounds.** -/
structure RoundLog (marks : List RoundMark) (number : Nat) : Prop where
  range : ∀ m ∈ marks, 1 ≤ m.round ∧ m.round ≤ number
  ordered : marks.Pairwise (fun m m' => m.round ≤ m'.round)
  /-- A round has one mark of its start, before its other marks. -/
  started : ∀ n, 1 ≤ n → n ≤ number →
    ∃ m later, marks.filter (·.round = n) = m :: later ∧ m.kind = .start ∧ ∀ m' ∈ later, m'.kind ≠ .start
  /-- After the end of a round, it neither ends again nor thaws. -/
  ended : marks.Pairwise (fun m m' =>
    m.round = m'.round → m.kind = .finish → m'.kind ≠ .finish ∧ m'.kind ≠ .freezeEnd)
  /-- A mark has the score of the log up to it. -/
  scored : ∀ before m, before ++ [m] <+: marks → ∀ team, m.score team = winsIn team (before ++ [m])

/-- **The report of a match in progress**: a log of its rounds, records of these rounds and no others, and the score of
the log. -/
structure Report.Logged (r : Report) : Prop where
  log : RoundLog r.marks r.summary.roundsPlayed
  gunfights : ∀ g ∈ r.gunfights, 1 ≤ g.round ∧ g.round ≤ r.summary.roundsPlayed
  damages : ∀ d ∈ r.damages, 1 ≤ d.round ∧ d.round ≤ r.summary.roundsPlayed
  grenades : ∀ g ∈ r.grenades, 1 ≤ g.round ∧ g.round ≤ r.summary.roundsPlayed
  score : ∀ team, r.summary.score team = winsIn team r.marks

/-- Whoever has a record of every round and a team has won the rounds that the team has won. -/
def Report.WinsAgree (r : Report) : Prop :=
  ∀ q ∈ r.players, ∀ team, q.team = some team →
    (∀ n, 1 ≤ n → n ≤ r.summary.roundsPlayed → ∃ x ∈ r.playerRounds, x.player = q.player ∧ x.round = n) →
      r.playerRounds.countP (fun x => x.player = q.player && x.roundWon) = r.summary.score team

theorem winsIn_append (team : Team) (marks : List RoundMark) (m : RoundMark) :
    winsIn team (marks ++ [m]) =
      winsIn team marks + if m.kind = .finish ∧ m.winnerTeam = some team then 1 else 0 := by
  rw [winsIn, List.countP_append, List.countP_singleton]
  simp [winsIn]

theorem winnerIn_append {marks : List RoundMark} {m : RoundMark} {round : Nat} (h : m.round ≠ round) :
    winnerIn (marks ++ [m]) round = winnerIn marks round := by
  simp [winnerIn, h]

/-! ## The log grows -/

namespace RoundLog

variable {marks : List RoundMark} {number : Nat} {m : RoundMark}

theorem empty : RoundLog [] 0 where
  range m hm := by cases hm
  ordered := List.Pairwise.nil
  started n h h' := by omega
  ended := List.Pairwise.nil
  scored before m h := by
    have := List.prefix_nil.1 h
    simp at this

theorem filter_past (h : RoundLog marks number) {n : Nat} (hn : number < n) : marks.filter (·.round = n) = [] := by
  refine List.filter_eq_nil_iff.2 (fun m hm he => ?_)
  have hle := (h.range m hm).2
  simp only [decide_eq_true_eq] at he
  omega

/-- Each round is still started once, and first, when the log takes the start of the next round or another mark. -/
theorem started_concat (h : RoundLog marks number) (hr : m.round = number ∨ m.round = number + 1)
    (hs : m.kind = .start ↔ m.round = number + 1) {n : Nat} (h1 : 1 ≤ n) (hn : n ≤ m.round) :
    ∃ m' later, (marks ++ [m]).filter (·.round = n) = m' :: later ∧ m'.kind = .start ∧
      ∀ m'' ∈ later, m''.kind ≠ .start := by
  rw [List.filter_append]
  by_cases hlast : n = number + 1
  · have hm : m.round = n := by omega
    refine ⟨m, [], ?_, hs.2 (hm.trans hlast), fun m' hm' => by cases hm'⟩
    rw [h.filter_past (by omega)]
    simp [hm]
  · obtain ⟨m', later, hf, hk, hl⟩ := h.started n h1 (by omega)
    by_cases hm : m.round = n
    · have hns : m.kind ≠ .start := fun hk => hlast (hm.symm.trans (hs.1 hk))
      refine ⟨m', later ++ [m], by simp [hf, hm], hk, fun m'' hm'' => ?_⟩
      rcases List.mem_append.1 hm'' with h' | h'
      · exact hl m'' h'
      · rw [List.mem_singleton.1 h']
        exact hns
    · exact ⟨m', later, by simp [hf, hm], hk, hl⟩

/-- **A log takes the start of the next round, or another mark of the last one** that its end does not forbid. -/
theorem addMark (h : RoundLog marks number) (hpos : 1 ≤ m.round) (hr : m.round = number ∨ m.round = number + 1)
    (hs : m.kind = .start ↔ m.round = number + 1)
    (he : m.kind = .finish ∨ m.kind = .freezeEnd → ∀ m' ∈ marks, m'.round = m.round → m'.kind ≠ .finish)
    (hscore : ∀ team, m.score team = winsIn team (marks ++ [m])) : RoundLog (marks ++ [m]) m.round := by
  have hle : number ≤ m.round := by omega
  constructor
  · intro m' hm'
    rcases List.mem_append.1 hm' with h' | h'
    · have := h.range m' h'
      omega
    · rw [List.mem_singleton.1 h']
      exact ⟨hpos, Nat.le_refl _⟩
  · rw [List.pairwise_append]
    refine ⟨h.ordered, List.pairwise_singleton _ _, fun m' hm' m'' hm'' => ?_⟩
    rw [List.mem_singleton.1 hm'']
    exact Nat.le_trans (h.range m' hm').2 hle
  · exact fun n h1 hn => h.started_concat hr hs h1 hn
  · rw [List.pairwise_append]
    refine ⟨h.ended, List.pairwise_singleton _ _, fun m' hm' m'' hm'' hround hk => ?_⟩
    rw [List.mem_singleton.1 hm''] at hround ⊢
    exact ⟨fun hf => he (.inl hf) m' hm' hround hk, fun hf => he (.inr hf) m' hm' hround hk⟩
  · intro before m' hp
    rcases List.prefix_concat_iff.1 hp with heq | hp
    · obtain ⟨rfl, hm⟩ := List.append_inj' heq rfl
      cases hm
      exact hscore
    · exact h.scored before m' hp

end RoundLog

namespace Course

variable {k k' : Course}

def wins (k : Course) : Team → Nat
  | .a => k.winsA
  | .b => k.winsB

/-- The log of a match in progress.  A live round is not decided yet. -/
structure Logged (k : Course) : Prop extends Sound k where
  log : RoundLog k.marks k.number
  live : k.phase = .live → ∀ m ∈ k.marks, m.round = k.number → m.kind ≠ .finish
  score : ∀ team, k.wins team = winsIn team k.marks

theorem Logged.empty : Logged {} where
  toSound := .empty
  log := .empty
  live h := by cases h
  score team := by cases team <;> rfl

theorem Tells.score {kind : RoundMarkKind} {m : RoundMark} (h : k.Tells kind m) (team : Team) :
    m.score team = k.wins team := by
  cases team with
  | a => exact h.teamAScore
  | b => exact h.teamBScore

theorem wins_decided (k : Course) (winner : Option Side) (team : Team) :
    (k.decided winner).wins team = k.wins team + if winner.map k.onSide = some team then 1 else 0 := by
  cases team <;> simp only [decided, wins] <;> split <;> rfl

/-- **Every step of a match keeps its log.** -/
theorem Logged.step (h : Logged k) (hs : k.Step k') : Logged k' := by
  have hsound := h.toSound.step hs
  have quiet {m : RoundMark} (hm : m.kind ≠ .finish) (team : Team) :
      winsIn team (k.marks ++ [m]) = k.wins team := by
    rw [winsIn_append, if_neg (fun hf => hm hf.1), h.score]
    rfl
  cases hs with
  | stay => exact h
  | @start m hm =>
    have hr : m.round = k.number + 1 := hm.round
    have hk : m.kind ≠ .finish := by
      rw [hm.kind]
      exact RoundMarkKind.noConfusion
    have hscore (team : Team) : m.score team = winsIn team (k.marks ++ [m]) :=
      (hm.score team).trans (quiet hk team).symm
    have hlog := h.log.addMark (m := m) (by omega) (.inr hr) (by simp [hm.kind, hr]) (by simp [hm.kind]) hscore
    rw [hr] at hlog
    refine { hsound with log := hlog, live := fun _ m' hm' hround => ?_, score := fun team => (quiet hk team).symm }
    rcases List.mem_append.1 hm' with h' | h'
    · have hle := (h.range m' h').2
      have hround : m'.round = k.number + 1 := hround
      omega
    · rw [List.mem_singleton.1 h']
      exact hk
  | @finish m hl hm hw =>
    have hr : m.round = k.number := hm.round
    have hpos : 1 ≤ k.number := h.opened (by simp [hl])
    have hwins (team : Team) : (k.decided m.winnerSide).wins team = winsIn team (k.marks ++ [m]) := by
      rw [wins_decided, winsIn_append, h.score, ← hw]
      simp [hm.kind]
    have hlog := h.log.addMark (m := m) (by omega) (.inl hr) (by simp [hm.kind, hr])
      (fun _ m' hm' hround => h.live hl m' hm' (hround.trans hr)) (fun team => (hm.score team).trans (hwins team))
    rw [hr] at hlog
    exact { hsound with log := hlog, live := fun hp => (by cases hp), score := hwins }
  | @note m kind ho hm hs hf ht =>
    have hr : m.round = k.number := hm.round
    have hk : m.kind ≠ .finish := hm.kind ▸ hf
    have hstart : m.kind ≠ .start := hm.kind ▸ hs
    have hpos : 1 ≤ k.number := h.opened ho
    have hscore (team : Team) : m.score team = winsIn team (k.marks ++ [m]) :=
      (hm.score team).trans (quiet hk team).symm
    have hthaw : m.kind = .finish ∨ m.kind = .freezeEnd → ∀ m' ∈ k.marks, m'.round = m.round → m'.kind ≠ .finish := by
      rintro (hfin | hfreeze) m' hm' hround
      · exact absurd hfin hk
      · exact h.live (ht (hm.kind.symm.trans hfreeze)) m' hm' (hround.trans hr)
    have hlog := h.log.addMark (m := m) (by omega) (.inl hr) (by simp [hstart, hr]) hthaw hscore
    rw [hr] at hlog
    refine { hsound with log := hlog, live := fun hl m' hm' hround => ?_, score := fun team => (quiet hk team).symm }
    rcases List.mem_append.1 hm' with h' | h'
    · exact h.live hl m' h' hround
    · rw [List.mem_singleton.1 h']
      exact hk

/-- **The winner of a round in the past stays the winner.** -/
theorem winnerIn_step (hs : k.Step k') {n : Nat} (hn : n < k.number) :
    winnerIn k'.marks n = winnerIn k.marks n := by
  have later {m : RoundMark} (hm : k.number ≤ m.round) : winnerIn (k.marks ++ [m]) n = winnerIn k.marks n :=
    winnerIn_append (by omega)
  cases hs with
  | stay => rfl
  | @start m hm =>
    have hr : m.round = k.number + 1 := hm.round
    exact later (by omega)
  | finish hl hm hw => exact later (Nat.le_of_eq hm.round.symm)
  | note ho hm hs hf ht => exact later (Nat.le_of_eq hm.round.symm)

end Course

/-! ## Who won -/

/-- **A round is won once or not at all**, and by the team that its end names. -/
theorem RoundLog.countP_wins {marks : List RoundMark} {number : Nat} (h : RoundLog marks number) (team : Team)
    (n : Nat) :
    marks.countP (fun m => m.round = n && (m.kind = .finish && m.winnerTeam = some team)) =
      if winnerIn marks n = some team then 1 else 0 := by
  have hand : (fun m : RoundMark => m.round = n && (m.kind = .finish && m.winnerTeam = some team)) =
      fun m => (m.round = n && m.kind = .finish) && decide (m.winnerTeam = some team) := by
    funext m
    rw [Bool.and_assoc]
  rw [hand]
  cases hf : marks.reverse.find? (fun m => m.round = n && m.kind = .finish) with
  | none =>
    have hnone : winnerIn marks n = none := by rw [winnerIn, hf]; rfl
    rw [hnone, if_neg (by simp), List.countP_eq_zero]
    intro m hm hk
    rw [Bool.and_eq_true] at hk
    exact List.find?_eq_none.1 hf m (List.mem_reverse.2 hm) hk.1
  | some m =>
    have hm : m ∈ marks := List.mem_reverse.1 (List.mem_of_find?_eq_some hf)
    have hk := List.find?_some hf
    have hsome : winnerIn marks n = m.winnerTeam := by rw [winnerIn, hf]; rfl
    rw [hsome, countP_of_unique (fun m : RoundMark => decide (m.winnerTeam = some team)) ?_ hk h.ended hm]
    · simp
    · intro a b hab ha hb
      simp only [Bool.and_eq_true, decide_eq_true_eq] at ha hb
      exact (hab (ha.1.trans hb.1.symm) ha.2).1 hb.2

namespace MatchState

variable {s s' : MatchState}

/-- The records of rounds say who won as the log does. -/
def Verdicts (s : MatchState) : Prop :=
  ∀ x ∈ s.playerRounds, ∀ team, s.team? x.player = some team →
    (x.roundWon = true ↔ winnerIn s.marks x.round = some team)

structure Judged (s : MatchState) : Prop extends OnRoll s where
  verdicts : Verdicts s

theorem team?_opened (s : MatchState) (tick : Tick) (id : PlayerId) : (s.opened tick).team? id = s.team? id := by
  show s.teams.applySwap.label? id = s.teams.label? id
  rw [Teams.label?, Teams.label?, s.teams.labels_applySwap]

namespace Judged

theorem new (header : Header) (c : Config) : Judged (MatchState.new header c) where
  toOnRoll := .new header c
  verdicts x hx := by cases hx

/-- **The records that a closed round leaves say who won it.** -/
theorem settled (h : Judged s) (c : Config) : Verdicts (s.settled c) := by
  cases ho : s.round.isOpen with
  | false =>
    rw [MatchState.settled, ho, if_neg (by simp)]
    exact h.verdicts
  | true =>
    obtain ⟨gunfights, damages, grenades, hs⟩ := h.rolled.settled_of_open h.sound ho c
    rw [hs]
    intro x hx team ht
    rcases List.mem_append.1 hx with hx | hx
    · exact h.verdicts x hx team ht
    · obtain ⟨p, -, rfl⟩ := List.mem_map.1 hx
      have ht : s.team? p.id = some team := ht
      show ((s.team? p.id).isSome && decide (s.team? p.id = winnerIn s.marks s.round.number)) = true ↔
        winnerIn s.marks s.round.number = some team
      rw [ht]
      simp [eq_comm]

theorem restart (h : Verdicts s) : Verdicts s.restart := by
  unfold MatchState.restart
  split
  · exact h
  · intro x hx
    cases hx

/-- **Every answer of a match leaves the verdicts as they are**: the log of past rounds does not change. -/
theorem kept (c : Config) : Kept c Judged where
  clock s tick h := ⟨(OnRoll.kept c).clock s tick h.toOnRoll, h.verdicts⟩
  sights s sightings h := ⟨(OnRoll.kept c).sights s sightings h.toOnRoll, h.verdicts⟩
  answer {s tick e step} ha h := by
    have hroll := (OnRoll.kept c).answer ha h.toOnRoll
    refine ⟨hroll, ?_⟩
    rcases ha.keepsRoll h.registered with he | he | hk
    · rw [he]
      exact restart h.verdicts
    · have hrange := hroll.rolled.range
      rw [he] at hrange ⊢
      intro x hx team ht
      have hle : x.round ≤ (s.settled c).round.number := (hrange x hx).2
      rw [team?_opened] at ht
      have hwin : winnerIn ((s.settled c).opened tick).marks x.round = winnerIn (s.settled c).marks x.round :=
        winnerIn_append (Nat.ne_of_gt (Nat.lt_succ_of_le hle))
      rw [hwin]
      exact h.settled c x hx team ht
    · rcases ha.course with he | hs
      · rw [he]
        exact restart h.verdicts
      · intro x hx team ht
        rw [hk.records] at hx
        rw [hk.teams x.player (h.rolled.known x hx)] at ht
        have hpast := h.rolled.range x hx
        have hwin : winnerIn step.state.marks x.round = winnerIn s.marks x.round :=
          Course.winnerIn_step hs (by show x.round < s.round.number; omega)
        rw [hwin]
        exact h.verdicts x hx team ht

end Judged

/-! ## The report -/

theorem score_ofState (s : MatchState) (team : Team) : (Report.ofState s).summary.score team = s.course.wins team := by
  cases team <;> rfl

theorem logged_ofState (hl : s.course.Logged) (hs : s.course.Fits s.seats) : (Report.ofState s).Logged where
  log := hl.log
  gunfights _ hg := hs.range _ (mem_seats.2 (.fought hg List.mem_cons_self))
  damages _ hd := hs.range _ (mem_seats.2 (.hurt hd List.mem_cons_self))
  grenades _ hg := hs.range _ (mem_seats.2 (.detonated hg))
  score team := (score_ofState s team).trans (hl.score team)

/-- **A player with a record of every round has won as often as the team.** -/
theorem winsAgree_ofState (hl : s.course.Logged) (hr : Rolled s s.round.number) (hv : Verdicts s) :
    (Report.ofState s).WinsAgree := by
  intro q hq team ht hall
  have ht : s.team? q.player = some team := by
    obtain ⟨p, -, rfl⟩ := List.mem_map.1 hq
    exact ht
  have hlog : RoundLog s.marks s.round.number := hl.log
  -- both counts are sums over the rounds, and in each round there is one record of the player and at most one end
  have hrounds : (List.range' 1 s.round.number).Nodup := List.nodup_range'
  have hmem (n : Nat) : n ∈ List.range' 1 s.round.number ↔ 1 ≤ n ∧ n ≤ s.round.number := by
    rw [List.mem_range'_1]
    omega
  have hone (n : Nat) (hn : n ∈ List.range' 1 s.round.number) :
      s.playerRounds.countP (fun x => x.round = n && (x.player = q.player && x.roundWon)) =
        s.marks.countP (fun m => m.round = n && (m.kind = .finish && m.winnerTeam = some team)) := by
    obtain ⟨x, hx, hxp, hxn⟩ := hall n ((hmem n).1 hn).1 ((hmem n).1 hn).2
    have hand : (fun x : PlayerRound => x.round = n && (x.player = q.player && x.roundWon)) =
        fun x => (x.round = n && x.player = q.player) && x.roundWon := by
      funext x
      rw [Bool.and_assoc]
    have hverdict := hv x hx team (hxp.symm ▸ ht)
    rw [hlog.countP_wins, hand, countP_of_unique (·.roundWon) ?_ ?_ hr.ordered hx]
    · rw [hxn] at hverdict
      simp only [hverdict]
    · intro a b hab ha hb
      simp only [Bool.and_eq_true, decide_eq_true_eq] at ha hb
      rcases hab with hlt | ⟨-, hlt⟩
      · omega
      · have : a.player = b.player := ha.2.trans hb.2.symm
        exact absurd this (Nat.ne_of_lt hlt)
    · simp [hxn, hxp]
  calc s.playerRounds.countP (fun x => x.player = q.player && x.roundWon)
      = totalCount (fun n => s.playerRounds.countP (fun x => x.round = n && (x.player = q.player && x.roundWon)))
          (List.range' 1 s.round.number) :=
        (totalCount_countP_and hrounds (fun x hx _ => (hmem x.round).2 (hr.range x hx))).symm
    _ = totalCount (fun n => s.marks.countP (fun m => m.round = n && (m.kind = .finish && m.winnerTeam = some team)))
          (List.range' 1 s.round.number) := totalCount_congr hone
    _ = winsIn team s.marks := totalCount_countP_and hrounds (fun m hm _ => (hmem m.round).2 (hlog.range m hm))
    _ = s.course.wins team := (hl.score team).symm
    _ = (Report.ofState s).summary.score team := (score_ofState s team).symm

end MatchState

namespace Processor

variable {header : Header} {config : Config} {p : Processor}

theorem Fresh.logged (h : Fresh header config p) (events : List TimedEvent) : (p.after events).state.course.Logged :=
  h.keeps_after (MatchState.kept_of_course config .empty (fun hs hk => hk.step hs)) .empty events

/-- **The log and the score agree.**  In every state of a match and in its final report, the marks are a log of its
rounds, all records are of these rounds, and the score counts the rounds that the log says were won; and in the report,
a player with a team and a record of every round has won the rounds of the team. -/
theorem log_and_score_agree (h : Fresh header config p) (events : List TimedEvent) :
    (Report.ofState (p.after events).state).Logged ∧
      ∃ r, (p.run events).result = .ok r ∧ r.Logged ∧ r.WinsAgree := by
  have hlog := h.logged events
  have hseats := h.keeps_after (MatchState.Coherent.kept config) (.new header config) events
  have hjudged := h.keeps_after (MatchState.Judged.kept config) (.new header config) events
  refine ⟨MatchState.logged_ofState hlog hseats.seated, _, (h.run_ok events).1, ?_⟩
  generalize (p.after events).state = s at hlog hseats hjudged
  have hv := hjudged.settled config
  have hs := (hseats.settled config).seated
  have hc := MatchState.course_settled s config
  have hn : (s.settled config).round.number = s.round.number := congrArg Course.number hc
  obtain ⟨hrolled, -⟩ := hjudged.rolled.settled hjudged.registered hjudged.sound config
  obtain ⟨_, hclose⟩ := MatchState.closeState_eq s config
  rw [← hn] at hrolled
  rw [← hc] at hlog
  rw [hclose]
  exact ⟨MatchState.logged_ofState hlog hs, MatchState.winsAgree_ofState hlog
    (hrolled.keep (.of_eq rfl rfl (fun _ => rfl) rfl)) hv⟩

/-- A round that is ended twice, and the bomb explodes after its end: player 7 has won it once, as the player's team
has, and the other team has won the round after it. -/
theorem log_and_score_agree_after_repeated_end :
    ∃ r, (({ config := {}, state := MatchState.new { mapName := "de_dust2" } {} } : Processor).run
        [⟨0, .playerConnect { id := 7, allegiance := .terrorist }⟩, ⟨1, .roundStart⟩,
         ⟨64, .roundEnd { winner := some .t, reason := .terroristsWin }⟩,
         ⟨65, .roundEnd { winner := some .ct, reason := .ctWin }⟩, ⟨66, .bombExploded { player := none }⟩,
         ⟨70, .roundStart⟩, ⟨90, .roundEnd { winner := some .ct, reason := .ctWin }⟩]).result = .ok r ∧
      r.Logged ∧ r.WinsAgree ∧ r.summary.score .a = 1 ∧ r.summary.score .b = 1 ∧
      r.playerRounds.countP (fun x => x.player = 7 && x.roundWon) = 1 := by
  have h : Fresh { mapName := "de_dust2" } {} _ := .default rfl
  obtain ⟨-, r, hr, hlogged, hwins⟩ := log_and_score_agree h
    [⟨0, .playerConnect { id := 7, allegiance := .terrorist }⟩, ⟨1, .roundStart⟩,
     ⟨64, .roundEnd { winner := some .t, reason := .terroristsWin }⟩,
     ⟨65, .roundEnd { winner := some .ct, reason := .ctWin }⟩, ⟨66, .bombExploded { player := none }⟩,
     ⟨70, .roundStart⟩, ⟨90, .roundEnd { winner := some .ct, reason := .ctWin }⟩]
  refine ⟨r, hr, hlogged, hwins, ?_⟩
  rw [(h.run_ok _).1] at hr
  cases hr
  decide +kernel

end Processor

end Scorebook
