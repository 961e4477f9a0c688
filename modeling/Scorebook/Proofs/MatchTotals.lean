import Mathlib.Algebra.Order.BigOperators.Group.List
import Mathlib.Algebra.Order.Ring.Int
import Mathlib.Algebra.Order.Ring.Nat
import Scorebook.Proofs.Counting
/-!
# The totals of a match

A number of a match's record is made up from one field of the records of rounds (`Tally`): a sum of counts, a sum of
amounts, or the number of rounds with a flag.  The record of a match has them over the rounds in which the player had
a side, in whatever order these stand.
-/
namespace Scorebook

theorem totalCount_eq_sum {α : Type} (f : α → Nat) (l : List α) : totalCount f l = (l.map f).sum := by
  rw [totalCount, List.sum, List.foldr_map]

theorem total_eq_sum {α : Type} (f : α → Int) (l : List α) : total f l = (l.map f).sum := by
  rw [total, List.sum, List.foldr_map]

/-- A number of the record of a match, and what it is made up from in the records of rounds. -/
inductive Tally where
  | count (inMatch : PlayerMatch → Nat) (inRound : PlayerRound → Nat)
  | amount (inMatch : PlayerMatch → Int) (inRound : PlayerRound → Int)
  | flag (inMatch : PlayerMatch → Nat) (inRound : PlayerRound → Bool)

namespace Tally

/-- The number in the record of a match. -/
def inMatch : Tally → PlayerMatch → Int
  | .count f _, m => f m
  | .amount f _, m => f m
  | .flag f _, m => f m

/-- The number that records of rounds make up. -/
def inRounds : Tally → List PlayerRound → Int
  | .count _ f, rounds => (rounds.map f).sum
  | .amount _ f, rounds => (rounds.map f).sum
  | .flag _ f, rounds => rounds.countP f

/-- The counting fields of a match.  Of the kills of a round, two, three, four and five or more count once more. -/
def all : List Tally :=
  [.flag (·.roundsWon) (·.roundWon), .count (·.kills) (·.kills), .count (·.deaths) (·.deaths),
    .count (·.assists) (·.assists), .count (·.flashAssists) (·.flashAssists), .count (·.headshots) (·.headshots),
    .count (·.wallbangs) (·.wallbangs), .count (·.awpKills) (·.awpKills), .count (·.teamKills) (·.teamKills),
    .flag (·.firstKills) (·.firstKill), .flag (·.firstDeaths) (·.firstDeath), .amount (·.damage) (·.damage),
    .amount (·.utilityDamage) (·.utilityDamage), .count (·.shotsFired) (·.shotsFired),
    .count (·.shotsHit) (·.shotsHit), .count (·.flashesThrown) (·.flashesThrown),
    .count (·.smokesThrown) (·.smokesThrown), .count (·.heThrown) (·.heThrown), .count (·.fireThrown) (·.fireThrown),
    .count (·.enemiesFlashed) (·.enemiesFlashed), .count (·.teammatesFlashed) (·.teammatesFlashed),
    .count (·.tradeKills) (·.tradeKills), .flag (·.tradedDeaths) (·.tradedDeath),
    .flag (·.clutchAttempts) (·.clutchAttempt), .flag (·.clutchWins) (·.clutchWon), .count (·.ecoKills) (·.ecoKills),
    .count (·.forceBuyKills) (·.forceBuyKills), .count (·.fullBuyKills) (·.fullBuyKills),
    .flag (·.multiKills2) (·.kills = 2), .flag (·.multiKills3) (·.kills = 3), .flag (·.multiKills4) (·.kills = 4),
    .flag (·.multiKills5) (5 ≤ ·.kills), .count (·.bombPlants) (·.bombPlants),
    .count (·.bombDefuses) (·.bombDefuses), .flag (·.kastRounds) (·.kast), .flag (·.roundsPlayed) (fun _ => true)]

theorem inRounds_of_perm {rounds rounds' : List PlayerRound} (h : rounds'.Perm rounds) :
    ∀ t : Tally, t.inRounds rounds' = t.inRounds rounds
  | .count _ f => congrArg Int.ofNat (h.map f).sum_eq
  | .amount _ f => (h.map f).sum_eq
  | .flag _ _ => congrArg Int.ofNat (h.countP_eq _)

end Tally

namespace PlayerMatch

theorem inMatch_totals (p : Player) (team : Option Team) (rounds : List PlayerRound) :
    ∀ t ∈ Tally.all, t.inMatch (totals p team rounds) = t.inRounds rounds := by
  simp [Tally.all, Tally.inMatch, Tally.inRounds, totals, totalCount_eq_sum, total_eq_sum]

/-- What a record is rated does not touch its totals. -/
theorem inMatch_withRatings (m : PlayerMatch) (rounds : List PlayerRound) :
    ∀ t ∈ Tally.all, t.inMatch (m.withRates rounds).withRatings = t.inMatch m := by
  simp [Tally.all, Tally.inMatch, withRates, withRatings]

theorem inMatch_summarize (p : Player) (team : Option Team) (rounds : List PlayerRound) :
    ∀ t ∈ Tally.all, t.inMatch (summarize p team rounds) = t.inRounds (rounds.filter (·.side.isSome)) :=
  fun t ht => (inMatch_withRatings _ _ t ht).trans (inMatch_totals p team _ t ht)

/-- Rounds without a side are not in a record at all. -/
theorem summarize_without (p : Player) (team : Option Team) {r : PlayerRound} (hr : r.side = none)
    (before later : List PlayerRound) :
    summarize p team (before ++ r :: later) = summarize p team (before ++ later) := by
  have hplayed : (before ++ r :: later).filter (·.side.isSome) = (before ++ later).filter (·.side.isSome) := by
    rw [List.filter_append, List.filter_append, List.filter_cons_of_neg (by simp [hr])]
  unfold summarize
  rw [hplayed]

/-- The four numbers of kills in a round keep apart: together they count the rounds with two kills or more. -/
theorem multiKillRounds_totals (p : Player) (team : Option Team) (rounds : List PlayerRound) :
    (totals p team rounds).multiKillRounds = rounds.countP (2 ≤ ·.kills) := by
  show rounds.countP (·.kills = 2) + rounds.countP (·.kills = 3) + rounds.countP (·.kills = 4) +
    rounds.countP (5 ≤ ·.kills) = _
  induction rounds with
  | nil => rfl
  | cons r rounds ih =>
    simp only [List.countP_cons, decide_eq_true_iff]
    rw [← ih]
    split_ifs <;> omega

/-- How the totals of a match are bounded by one another. -/
structure Bounded (m : PlayerMatch) (rounds : List PlayerRound) : Prop where
  kastRounds : m.kastRounds ≤ m.roundsPlayed
  clutchAttempts : m.clutchAttempts ≤ m.roundsPlayed
  multiKills : m.multiKills2 + m.multiKills3 + m.multiKills4 + m.multiKills5 ≤ m.roundsPlayed
  clutchWins : (∀ r ∈ rounds, r.clutchWon = true → r.clutchAttempt = true) → m.clutchWins ≤ m.clutchAttempts
  headshots : (∀ r ∈ rounds, r.headshots ≤ r.kills) → m.headshots ≤ m.kills

theorem bounded_totals (p : Player) (team : Option Team) (rounds : List PlayerRound) :
    (totals p team rounds).Bounded rounds where
  kastRounds := List.countP_le_length
  clutchAttempts := List.countP_le_length
  multiKills := (multiKillRounds_totals p team rounds).trans_le List.countP_le_length
  clutchWins h := List.countP_mono_left h
  headshots h := by
    show totalCount (·.headshots) rounds ≤ totalCount (·.kills) rounds
    rw [totalCount_eq_sum, totalCount_eq_sum]
    exact List.sum_le_sum h

/-- **The totals of a match are those of the rounds in which the player had a side**: each counting field is made up
from its field of their records, in any order and whatever rounds without a side stand between them, and no total
exceeds the one that it is a part of. -/
theorem summarize_totals (p : Player) (team : Option Team) (rounds : List PlayerRound) :
    let m := summarize p team rounds
    (∀ t ∈ Tally.all, t.inMatch m = t.inRounds (rounds.filter (·.side.isSome))) ∧
    m.roundsPlayed = (rounds.filter (·.side.isSome)).length ∧
    (∀ rounds', rounds'.Perm rounds → ∀ t ∈ Tally.all, t.inMatch (summarize p team rounds') = t.inMatch m) ∧
    (∀ before r later, rounds = before ++ r :: later → r.side = none → summarize p team (before ++ later) = m) ∧
    m.Bounded rounds := by
  intro m
  have hbounded := bounded_totals p team (rounds.filter (·.side.isSome))
  refine ⟨inMatch_summarize p team rounds, rfl, fun rounds' hperm t ht => ?_, ?_, ?_⟩
  · rw [inMatch_summarize p team rounds' t ht, inMatch_summarize p team rounds t ht]
    exact t.inRounds_of_perm (hperm.filter _)
  · rintro before r later rfl hr
    exact (summarize_without p team hr before later).symm
  · exact { hbounded with
      clutchWins := fun h => hbounded.clutchWins (fun r hr => h r (List.mem_of_mem_filter hr))
      headshots := fun h => hbounded.headshots (fun r hr => h r (List.mem_of_mem_filter hr)) }

/-- Of three rounds a player sits one out. -/
theorem summarize_totals_of_three :
    let p : Player := { id := 1, name := "a" }
    let won : PlayerRound :=
      { round := 1, player := 1, name := "a", side := some .ct, kills := 2, headshots := 1, clutchAttempt := true,
        clutchWon := true }
    let away : PlayerRound := { round := 2, player := 1, name := "a", kills := 4 }
    let lost : PlayerRound := { round := 3, player := 1, name := "a", side := some .t, kills := 1 }
    let m := summarize p none [won, away, lost]
    m.kills = 3 ∧ m.multiKills2 = 1 ∧ m.roundsPlayed = 2 ∧ (summarize p none [lost, away, won]).kills = 3 ∧
      summarize p none [won, lost] = m ∧ m.clutchWins ≤ m.clutchAttempts ∧ m.headshots ≤ m.kills := by
  intro p won away lost m
  obtain ⟨htallies, hplayed, hperm, hwithout, hbounded⟩ := summarize_totals p none [won, away, lost]
  have hkills : Tally.count (·.kills) (·.kills) ∈ Tally.all := by simp [Tally.all]
  have hdouble : Tally.flag (·.multiKills2) (·.kills = 2) ∈ Tally.all := by simp [Tally.all]
  have hthree : m.kills = 3 := Int.ofNat_inj.1 (htallies _ hkills)
  refine ⟨hthree, Int.ofNat_inj.1 (htallies _ hdouble), hplayed, ?_, hwithout [won] away [lost] rfl rfl, ?_, ?_⟩
  · exact (Int.ofNat_inj.1 (hperm [lost, away, won] (List.reverse_perm [won, away, lost]) _ hkills)).trans hthree
  · refine hbounded.clutchWins ?_
    simp only [List.forall_mem_cons]
    exact ⟨fun _ => rfl, nofun, nofun, fun r hr => (List.not_mem_nil hr).elim⟩
  · refine hbounded.headshots ?_
    simp only [List.forall_mem_cons]
    exact ⟨by decide, by decide, by decide, fun r hr => (List.not_mem_nil hr).elim⟩

end PlayerMatch

end Scorebook
