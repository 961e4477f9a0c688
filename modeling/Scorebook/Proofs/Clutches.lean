import Scorebook.Proofs.Completeness
import Scorebook.Proofs.LastStanding
/-!
# The clutches of a round

The replay of a round starts at most one clutch for a player, and only for players on its roster.  So the records of a
round, which look a clutch up by its player, tell of a clutch what the clutches themselves tell.
-/
namespace Scorebook

namespace Clutch

variable {roster : Table PlayerId Side} {exits : List Exit}

theorem contains_of_mem_detect {k : Clutch} (hk : k ∈ detect roster exits) : roster.contains k.player = true := by
  obtain ⟨r, hr, he⟩ := detect_contested roster exits
  rw [he] at hk
  obtain ⟨a, ha, rfl⟩ := List.mem_map.1 hk
  exact Table.contains_iff.2 ⟨a.side, (hr.stands a ha).member⟩

/-- **A player has at most one clutch in a round.** -/
theorem pairwise_detect (roster : Table PlayerId Side) (exits : List Exit) :
    (detect roster exits).Pairwise (fun a b => a.player ≠ b.player) :=
  (pairwise_contested roster exits).imp (fun h heq => h.1 (congrArg roster.get? heq))

theorem any_find?_player (id : PlayerId) : ∀ {clutches : List Clutch},
    clutches.Pairwise (fun a b => a.player ≠ b.player) →
      (clutches.find? (·.player = id)).any (·.won) = clutches.any (fun k => k.player = id && k.won)
  | [], _ => rfl
  | k :: clutches, h => by
    obtain ⟨hne, hrest⟩ := List.pairwise_cons.1 h
    rw [List.find?_cons, List.any_cons]
    by_cases hk : k.player = id
    · -- the others are of other players
      have hnone : clutches.any (fun k => k.player = id && k.won) = false := by
        refine List.any_eq_false.2 (fun k' hk' => ?_)
        have hother : k'.player ≠ id := hk ▸ (hne k' hk').symm
        simp [hother]
      simp [hk, hnone]
    · simp [hk, any_find?_player id hrest]

end Clutch

namespace MatchState

/-- **The records of a round tell who won a clutch in it**, of everybody who did. -/
theorem exists_clutchWon {s : MatchState} (h : Registered s) (c : Config) (id : PlayerId) :
    (∃ x ∈ s.roundRecords c, x.player = id ∧ x.clutchWon = true) ↔
      s.clutches.any (fun k => k.player = id && k.won) = true := by
  have htold (p : Player) : (s.playerRound c (s.facts c s.round.number) p).clutchWon =
      s.clutches.any (fun k => k.player = p.id && k.won) :=
    Clutch.any_find?_player p.id (Clutch.pairwise_detect _ _)
  constructor
  · rintro ⟨x, hx, rfl, hwon⟩
    obtain ⟨p, -, rfl⟩ := List.mem_map.1 hx
    exact (htold p).symm.trans hwon
  · intro hwon
    obtain ⟨k, hk, hkey⟩ := List.any_eq_true.1 hwon
    simp only [Bool.and_eq_true, decide_eq_true_eq] at hkey
    -- who has a clutch is on the roster, so registered, so in the records
    obtain ⟨side, hside⟩ := Table.contains_iff.1 (Clutch.contains_of_mem_detect hk)
    obtain ⟨p, hp, hid⟩ := (exists_id_players h).2 (h.known hside)
    have hpid : p.id = id := hid.trans hkey.1
    refine ⟨_, List.mem_map_of_mem hp, hpid, ?_⟩
    rw [htold, hpid]
    exact hwon

end MatchState

end Scorebook
