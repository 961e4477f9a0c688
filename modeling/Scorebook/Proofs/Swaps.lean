import Scorebook.Proofs.Course
/-!
# When sides swap

A swap is decided when the round before it ends and made when the next round starts.  Team A therefore has swapped
sides once for every swap round whose round before has ended (`Scheduled`), and a swap round after a round that
never ended is missed, from then on: the sides are those of the schedule exactly as long as an even number of
swaps were missed.
-/
namespace Scorebook

/-- Sides swap at round 13, and at rounds 28, 31, 34 and so on. -/
theorem isSwapRound_iff (round : Nat) : isSwapRound round = true ↔ round = 13 ∨ 28 ≤ round ∧ round % 3 = 1 := by
  have h1 : halftimeRound = 13 := rfl
  have h2 : regulationRounds = 24 := rfl
  have h3 : overtimeHalf = 3 := rfl
  unfold isSwapRound
  by_cases h : round = halftimeRound
  · rw [if_pos h]
    simp only [true_iff]
    omega
  · rw [if_neg h]
    by_cases h' : round ≤ regulationRounds
    · rw [if_pos h']
      simp only [Bool.false_eq_true, false_iff]
      omega
    · rw [if_neg h']
      simp only [Bool.and_eq_true, decide_eq_true_eq]
      rw [h3]
      omega

/-- Whether a round has an end among the marks. -/
def hasEnded (marks : List RoundMark) (round : Nat) : Bool :=
  marks.any (fun m => m.round = round && m.kind = .finish)

/-- The swap rounds up to a round. -/
def swapsDue (round : Nat) : Nat := (List.range (round + 1)).countP isSwapRound

/-- The swap rounds up to a round before which the round before ended. -/
def swapsMade (marks : List RoundMark) (round : Nat) : Nat :=
  (List.range (round + 1)).countP (fun r => isSwapRound r && hasEnded marks (r - 1))

/-- The swap rounds up to a round before which the round before did not end. -/
def swapsMissed (marks : List RoundMark) (round : Nat) : Nat :=
  (List.range (round + 1)).countP (fun r => isSwapRound r && !hasEnded marks (r - 1))

/-- **A swap that is due is made or missed.** -/
theorem swapsDue_eq (marks : List RoundMark) (round : Nat) :
    swapsDue round = swapsMade marks round + swapsMissed marks round := by
  unfold swapsDue swapsMade swapsMissed
  induction List.range (round + 1) with
  | nil => rfl
  | cons r l ih =>
    simp only [List.countP_cons, ih]
    cases isSwapRound r <;> cases hasEnded marks (r - 1) <;> simp <;> omega

theorem hasEnded_append (marks : List RoundMark) (m : RoundMark) (round : Nat) :
    hasEnded (marks ++ [m]) round = (hasEnded marks round || (m.round = round && m.kind = .finish)) := by
  simp [hasEnded]

theorem swapsMade_succ (marks : List RoundMark) (round : Nat) :
    swapsMade marks (round + 1) =
      swapsMade marks round + if isSwapRound (round + 1) && hasEnded marks round then 1 else 0 := by
  rw [swapsMade, List.range_succ, List.countP_append]
  simp only [List.countP_singleton, Nat.add_sub_cancel]
  rfl

/-- The swaps up to a round depend on the rounds before it. -/
theorem swapsMade_congr {marks marks' : List RoundMark} :
    ∀ {round : Nat}, (∀ r < round, hasEnded marks r = hasEnded marks' r) →
      swapsMade marks round = swapsMade marks' round
  | 0, _ => rfl
  | round + 1, h => by
    rw [swapsMade_succ, swapsMade_succ, h round (Nat.lt_succ_self _),
      swapsMade_congr (fun r hr => h r (Nat.lt_succ_of_lt hr))]

/-- A mark of a round says nothing of the swaps up to that round. -/
theorem swapsMade_append (marks : List RoundMark) {m : RoundMark} {round : Nat} (h : round ≤ m.round) :
    swapsMade (marks ++ [m]) round = swapsMade marks round := by
  refine swapsMade_congr (fun r hr => ?_)
  have hne : m.round ≠ r := by omega
  simp [hasEnded_append, hne]

namespace Course

/-- Team A has swapped sides once for every swap that was made, at every start of a round and now. -/
structure Sided (k : Course) : Prop where
  side : k.sideOfA = .ct ↔ swapsMade k.marks k.number % 2 = 0
  starts : ∀ m ∈ k.marks, m.kind = .start → (m.teamASide = .ct ↔ swapsMade k.marks m.round % 2 = 0)

/-- A swap is due when the round has ended and the next one is a swap round. -/
structure Scheduled (k : Course) : Prop extends Sound k, Sided k where
  due : k.swapDue = (isSwapRound (k.number + 1) && hasEnded k.marks k.number)

variable {k k' : Course}

theorem Sided.addMark (h : Sided k) {m : RoundMark} (hp : ∀ m' ∈ k.marks, m'.round ≤ k.number)
    (hr : m.round = k.number) (ha : m.teamASide = k.sideOfA) : Sided (k.addMark m) := by
  have hn : swapsMade (k.marks ++ [m]) k.number = swapsMade k.marks k.number :=
    swapsMade_append _ (Nat.le_of_eq hr.symm)
  refine ⟨?_, fun m' hm' hs => ?_⟩
  · rw [Course.addMark, hn]
    exact h.side
  · rw [Course.addMark]
    rcases List.mem_append.1 hm' with h' | h'
    · rw [swapsMade_append _ (hr ▸ hp m' h')]
      exact h.starts m' h' hs
    · rw [List.mem_singleton.1 h', ha, hr, hn]
      exact h.side

namespace Scheduled

theorem empty : Scheduled {} where
  toSound := .empty
  side := ⟨fun _ => rfl, fun _ => rfl⟩
  starts m hm := by cases hm
  due := rfl

theorem hasEnded_next (h : Scheduled k) : hasEnded k.marks (k.number + 1) = false := by
  rw [hasEnded, List.any_eq_false]
  intro m hm
  have := (h.range m hm).2
  simp only [Bool.and_eq_true, decide_eq_true_eq, not_and]
  omega

/-- **The sides of the next round follow the schedule.** -/
theorem side_begun (h : Scheduled k) : k.begun.sideOfA = .ct ↔ swapsMade k.marks (k.number + 1) % 2 = 0 := by
  have hs := h.side
  rw [swapsMade_succ, ← h.due]
  simp only [begun]
  cases hd : k.swapDue with
  | false => simpa using hs
  | true =>
    simp only [if_true]
    cases hk : k.sideOfA with
    | ct =>
      rw [hk] at hs
      have := hs.1 rfl
      simp [Side.opposite]
      omega
    | t =>
      rw [hk] at hs
      have : ¬ swapsMade k.marks k.number % 2 = 0 := fun h => nomatch hs.2 h
      simp [Side.opposite]
      omega

/-- **Every step of a match keeps the schedule.** -/
theorem step (h : Scheduled k) (hs : k.Step k') : Scheduled k' := by
  have hend {m : RoundMark} (hm : m.kind ≠ .finish) (marks : List RoundMark) (r : Nat) :
      hasEnded (marks ++ [m]) r = hasEnded marks r := by
    simp [hasEnded_append, hm]
  have hp : ∀ m ∈ k.marks, m.round ≤ k.number := fun m hm => (h.range m hm).2
  refine { h.toSound.step hs with toSided := ?_, due := ?_ }
  · cases hs with
    | stay => exact h.toSided
    | start hm =>
      have hb : Sided k.begun := ⟨h.side_begun, h.starts⟩
      exact hb.addMark (fun m hm => Nat.le_succ_of_le (hp m hm)) hm.round hm.teamASide
    | @finish m hl hm hw =>
      have hd : Sided (k.decided m.winnerSide) := ⟨h.side, h.starts⟩
      exact hd.addMark hp hm.round hm.teamASide
    | note ho hm hs hf => exact h.toSided.addMark hp hm.round hm.teamASide
  · cases hs with
    | stay => exact h.due
    | @start m hm =>
      have hk : m.kind ≠ .finish := by rw [hm.kind]; exact RoundMarkKind.noConfusion
      rw [Course.addMark, hend hk]
      show false = (isSwapRound (k.number + 2) && hasEnded k.marks (k.number + 1))
      rw [h.hasEnded_next, Bool.and_false]
    | @finish m hl hm hw =>
      show (isSwapRound (k.number + 1) || k.swapDue) =
        (isSwapRound (k.number + 1) && hasEnded (k.marks ++ [m]) k.number)
      have hr : m.round = k.number := hm.round
      rw [hasEnded_append, hm.kind, hr, h.due]
      cases isSwapRound (k.number + 1) <;> simp
    | @note m kind ho hm hs hf =>
      rw [Course.addMark, hend (hm.kind ▸ hf)]
      exact h.due

end Scheduled

end Course

namespace Processor

variable {header : Header} {config : Config} {p : Processor}

theorem Fresh.scheduled (h : Fresh header config p) (events : List TimedEvent) :
    (p.after events).state.course.Scheduled :=
  h.keeps_after (MatchState.kept_of_course config .empty (fun hs hk => hk.step hs)) .empty events

/-- **At the start of a round, team A has swapped sides once for every swap round up to it whose round before has
ended.**  These are the sides of the schedule if and only if an even number of swaps were missed. -/
theorem start_side_iff (h : Fresh header config p) {events : List TimedEvent} {r : Report}
    (hr : (p.run events).result = .ok r) {m : RoundMark} (hm : m ∈ r.marks) (hs : m.kind = .start) :
    (m.teamASide = .ct ↔ swapsMade r.marks m.round % 2 = 0) ∧
      ((m.teamASide = .ct ↔ swapsDue m.round % 2 = 0) ↔ swapsMissed r.marks m.round % 2 = 0) := by
  obtain ⟨hrun, -⟩ := h.run_ok events
  have hmarks : r.marks = (p.after events).state.marks := by
    rw [hrun] at hr
    obtain ⟨_, hc⟩ := MatchState.closeState_eq (p.after events).state config
    obtain ⟨_, _, _, _, hs, -⟩ := MatchState.settled_eq (p.after events).state config
    cases hr
    rw [hc, hs]
    rfl
  rw [hmarks] at hm ⊢
  have hside := (h.scheduled events).starts m hm hs
  refine ⟨hside, ?_⟩
  have hd := swapsDue_eq (p.after events).state.marks m.round
  have hside : m.teamASide = .ct ↔ swapsMade (p.after events).state.marks m.round % 2 = 0 := hside
  rw [hside, hd]
  omega

/-- Eleven rounds that end, and a twelfth that does not: the swap at halftime is missed, and team A starts round 13
on the side of the first half. -/
theorem start_side_after_unended_round :
    ∃ r, (({ config := {}, state := MatchState.new { mapName := "de_dust2" } {} } : Processor).run
        ((List.replicate 11 [⟨0, .roundStart⟩, ⟨0, .roundEnd { winner := some .ct, reason := .ctWin }⟩]).flatten ++
          [⟨0, .roundStart⟩, ⟨0, .roundStart⟩])).result = .ok r ∧
      ∃ m ∈ r.marks, m.kind = .start ∧ m.round = 13 ∧ m.teamASide = .ct ∧ swapsDue m.round = 1 ∧
        ¬ (m.teamASide = .ct ↔ swapsDue m.round % 2 = 0) := by
  have h : Fresh { mapName := "de_dust2" } {} _ := .default rfl
  obtain ⟨hrun, -⟩ := h.run_ok
    ((List.replicate 11 [⟨0, .roundStart⟩, ⟨0, .roundEnd { winner := some .ct, reason := .ctWin }⟩]).flatten ++
      [⟨0, .roundStart⟩, ⟨0, .roundStart⟩])
  refine ⟨_, hrun, ?_⟩
  generalize hr : Report.ofState _ = r at hrun ⊢
  have hlast : (r.marks[23]?).map (fun m => (m.kind, m.round)) = some (.start, 13) := by
    rw [← hr]
    decide +kernel
  have hmissed : swapsMissed r.marks 13 = 1 := by
    rw [← hr]
    decide +kernel
  obtain ⟨m, hm, he⟩ := Option.map_eq_some_iff.1 hlast
  obtain ⟨hk, hn⟩ := Prod.mk.inj he
  have hm := List.mem_of_getElem? hm
  obtain ⟨hside, hiff⟩ := start_side_iff h hrun hm hk
  have hdue : swapsDue 13 = 1 := by decide
  have hsum := swapsDue_eq r.marks 13
  rw [hn] at hside hiff
  refine ⟨m, hm, hk, hn, hside.2 (by omega), hn ▸ hdue, ?_⟩
  rw [hn, hiff]
  omega

end Processor

end Scorebook
