import Scorebook.Proofs.Combat
import Scorebook.Proofs.GrenadeCredit
/-!
# Closing a round again

What is worked out when a round closes depends on nothing that is worked out then: assists and credits are found anew
from the hits and the throws, and the impact of a gunfight from how it was fought.  So closing a round again changes
nothing (`closing_again`), and closing it at all changes nothing but its own records (`WithinRound`).
-/
namespace Scorebook

/-! ## Gunfights -/

theorem damageTotals_asDealt (damages : List Damage) (round : Nat) (killer victim : PlayerId) (tick : Tick) :
    damageTotals (damages.map Damage.asDealt) round killer victim tick =
      damageTotals damages round killer victim tick :=
  List.foldl_map

/-- The damage assist of a kill does not depend on the grenades behind the damages. -/
theorem damageAssister?_congr {damages damages' : List Damage}
    (h : damages'.map Damage.asDealt = damages.map Damage.asDealt) (round : Nat) (killer victim : PlayerId)
    (tick : Tick) (threshold : Int) :
    damageAssister? damages' round killer victim tick threshold =
      damageAssister? damages round killer victim tick threshold := by
  unfold damageAssister?
  rw [← damageTotals_asDealt damages', h, damageTotals_asDealt]

theorem Impact.apply_apply (clutches : List Clutch) (c : ImpactConfig) (g : Gunfight) :
    Impact.apply clutches c (Impact.apply clutches c g) = Impact.apply clutches c g := by
  cases ht : g.isTeamKill with
  | true => simp [Impact.apply, ht]
  | false => simp [Impact.apply, ht]

namespace MatchState

variable {s t : MatchState} {round : Nat} {c : Config} {d : Damage} {i : Nat}

/-- A gunfight whose assister is known gets the same one again. -/
theorem withAssister_apply (h : t.damages.map Damage.asDealt = s.damages.map Damage.asDealt) (clutches : List Clutch)
    (k : ImpactConfig) (g : Gunfight) :
    t.withAssister c (Impact.apply clutches k (s.withAssister c g)) = Impact.apply clutches k (s.withAssister c g) := by
  have hfought := asFought_apply clutches k (s.withAssister c g)
  have hassister : damageAssister? t.damages (Impact.apply clutches k (s.withAssister c g)).round
      (Impact.apply clutches k (s.withAssister c g)).killer.id (Impact.apply clutches k (s.withAssister c g)).victim.id
      (Impact.apply clutches k (s.withAssister c g)).tick c.damageAssistThreshold =
        (Impact.apply clutches k (s.withAssister c g)).assister := by
    rw [assister_apply,
      show (Impact.apply clutches k (s.withAssister c g)).round = g.round from congrArg (·.round) hfought,
      show (Impact.apply clutches k (s.withAssister c g)).killer = g.killer from congrArg (·.killer) hfought,
      show (Impact.apply clutches k (s.withAssister c g)).victim = g.victim from congrArg (·.victim) hfought,
      show (Impact.apply clutches k (s.withAssister c g)).tick = g.tick from congrArg (·.tick) hfought]
    exact damageAssister?_congr h g.round g.killer.id g.victim.id g.tick c.damageAssistThreshold
  conv_lhs => rw [withAssister, hassister]

theorem settledGunfight_settledGunfight (hround : t.round = s.round)
    (h : t.damages.map Damage.asDealt = s.damages.map Damage.asDealt) (g : Gunfight) :
    t.settledGunfight c (s.settledGunfight c g) = s.settledGunfight c g := by
  have hclutches : t.clutches = s.clutches := by
    unfold clutches sortedExits
    rw [hround]
  by_cases hg : g.round = s.round.number
  · have hfought := asFought_settledGunfight s c g
    have hg' : (s.settledGunfight c g).round = t.round.number :=
      (congrArg (·.round) hfought).trans (hg.trans (congrArg Round.number hround).symm)
    have hteam : (s.settledGunfight c g).isTeamKill = g.isTeamKill := congrArg (·.isTeamKill) hfought
    conv_lhs => rw [settledGunfight, if_pos hg', hteam]
    rw [settledGunfight, if_pos hg, hclutches]
    cases g.isTeamKill with
    | true => exact Impact.apply_apply _ _ g
    | false =>
      simp only [Bool.false_eq_true, if_false]
      rw [withAssister_apply h, Impact.apply_apply]
  · have hg' : s.settledGunfight c g = g := if_neg hg
    rw [hg', settledGunfight, if_neg (fun h => hg (h.trans (congrArg Round.number hround)))]

/-! ## Grenades -/

theorem add_attributed (credit : Credit) : credit.add (s.attributed round c d) = credit.add d := by
  unfold Credit.add
  simp

theorem attributed_again :
    (s.creditGrenades round c).attributed round c (s.attributed round c d) = s.attributed round c d := by
  have hsource : (s.creditGrenades round c).damageSource? round c (s.attributed round c d) = s.damageSource? round c d :=
    damageSource?_congr map_uncredited_creditGrenades rfl asDealt_attributed
  have hentity (i : Nat) :
      ((s.creditGrenades round c).grenades[i]?).map (·.entity) = (s.grenades[i]?).map (·.entity) := by
    rw [getElem?_grenades_creditGrenades, Option.map_map]
    exact congrArg (Option.map · _) (funext (fun _ => entity_credited))
  conv_lhs => rw [attributed, hsource, round_attributed]
  simp only [hentity]
  unfold attributed
  split <;> rfl

theorem withCredit_withCredit (g : Grenade) (credit : Credit) :
    withCredit (withCredit g credit) credit = withCredit g credit := rfl

theorem credited_again (g : Grenade) :
    (s.creditGrenades round c).credited round c i (s.credited round c i g) = s.credited round c i g := by
  have hcredit : ((s.creditGrenades round c).dealtBy round c i).foldl Credit.add {} =
      (s.dealtBy round c i).foldl Credit.add {} := by
    rw [dealtBy_creditGrenades, List.foldl_map]
    simp only [add_attributed]
  by_cases hg : g.round = round
  · rw [credited, if_pos (round_credited.trans hg), hcredit, credited, if_pos hg, withCredit_withCredit]
  · rw [credited, if_neg (fun h => hg (round_credited.symm.trans h))]

/-- **Crediting the damage of a round again changes nothing.** -/
theorem creditGrenades_creditGrenades (s : MatchState) (round : Nat) (c : Config) :
    (s.creditGrenades round c).creditGrenades round c = s.creditGrenades round c := by
  have hdamages : ((s.creditGrenades round c).creditGrenades round c).damages = (s.creditGrenades round c).damages := by
    rw [damages_creditGrenades, damages_creditGrenades, List.map_map]
    exact List.map_congr_left (fun d _ => attributed_again)
  have hgrenades : ((s.creditGrenades round c).creditGrenades round c).grenades =
      (s.creditGrenades round c).grenades := by
    refine List.ext_getElem? (fun i => ?_)
    rw [getElem?_grenades_creditGrenades, getElem?_grenades_creditGrenades, Option.map_map]
    exact congrArg (Option.map · _) (funext credited_again)
  calc (s.creditGrenades round c).creditGrenades round c
      = { s.creditGrenades round c with
          damages := ((s.creditGrenades round c).creditGrenades round c).damages
          grenades := ((s.creditGrenades round c).creditGrenades round c).grenades } := rfl
    _ = s.creditGrenades round c := by rw [hdamages, hgrenades]

/-! ## Closing -/

theorem settleRecords_eq_credit (s : MatchState) (c : Config) :
    s.settleRecords c s.round.number =
      { s.creditGrenades s.round.number c with gunfights := s.gunfights.map (s.settledGunfight c) } := by
  rw [← gunfights_settleRecords]
  rfl

/-- **Settling the records of a round again changes nothing.** -/
theorem settleRecords_settleRecords (s : MatchState) (c : Config) :
    (s.settleRecords c s.round.number).settleRecords c s.round.number = s.settleRecords c s.round.number := by
  have hdealt : (s.settleRecords c s.round.number).damages.map Damage.asDealt = s.damages.map Damage.asDealt :=
    map_asDealt_creditGrenades
  have hgunfights : (s.settleRecords c s.round.number).gunfights.map
      ((s.settleRecords c s.round.number).settledGunfight c) = (s.settleRecords c s.round.number).gunfights := by
    rw [gunfights_settleRecords, List.map_map]
    exact List.map_congr_left
      (fun g _ => settledGunfight_settledGunfight (s := s) (t := s.settleRecords c s.round.number) rfl hdealt g)
  have hcredit : (s.settleRecords c s.round.number).creditGrenades s.round.number c =
      s.settleRecords c s.round.number := by
    rw [settleRecords_eq_credit]
    exact congrArg (fun t : MatchState => { t with gunfights := s.gunfights.map (s.settledGunfight c) })
      (creditGrenades_creditGrenades s s.round.number c)
  calc (s.settleRecords c s.round.number).settleRecords c s.round.number
      = { (s.settleRecords c s.round.number).creditGrenades s.round.number c with
          gunfights := (s.settleRecords c s.round.number).gunfights.map
            ((s.settleRecords c s.round.number).settledGunfight c) } :=
        settleRecords_eq_credit (s.settleRecords c s.round.number) c
    _ = s.settleRecords c s.round.number := by rw [hcredit, hgunfights]

theorem round_of_mem_roundRecords {r : PlayerRound} (h : r ∈ s.roundRecords c) : r.round = s.round.number := by
  obtain ⟨p, -, rfl⟩ := List.mem_map.1 h
  rfl

/-- **Closing a round again changes nothing**, also if nobody is registered whose record would tell that it is
closed. -/
theorem closeRound_closeRound (s : MatchState) (c : Config) : (s.closeRound c).closeRound c = s.closeRound c := by
  cases hs : s.isUnsettled with
  | false => simp [closeRound_eq, hs]
  | true =>
    have hclosed : s.closeRound c =
        { s.settleRecords c s.round.number with
          playerRounds := s.playerRounds ++ (s.settleRecords c s.round.number).roundRecords c } := by
      rw [closeRound_eq, if_pos hs]
    cases hagain : (s.closeRound c).isUnsettled with
    | false => rw [closeRound_eq, hagain, if_neg Bool.false_ne_true]
    | true =>
      -- the round has got no records, so that nobody is registered
      have hnone : (s.settleRecords c s.round.number).roundRecords c = [] := by
        refine List.eq_nil_iff_forall_not_mem.2 (fun r hr => ?_)
        have hround : r.round = (s.settleRecords c s.round.number).round.number := round_of_mem_roundRecords hr
        rw [hclosed] at hagain
        simp only [isUnsettled, Bool.not_eq_true', Bool.or_eq_false_iff, List.any_eq_false] at hagain
        exact hagain.2 r (List.mem_append_right _ hr) (decide_eq_true hround)
      have hplayers : s.players.values = [] := List.map_eq_nil_iff.1 hnone
      have hempty : ((s.closeRound c).settleRecords c (s.closeRound c).round.number).roundRecords c = [] := by
        rw [hclosed]
        exact List.map_eq_nil_iff.2 hplayers
      rw [hnone, List.append_nil] at hclosed
      rw [closeRound_eq, hagain, if_pos rfl, hempty, List.append_nil, hclosed]
      exact congrArg (fun t : MatchState => { t with playerRounds := s.playerRounds }) (settleRecords_settleRecords s c)

/-! ## What closing leaves alone -/

/-- Records of which those of one round may have changed, and of these nothing that was final. -/
def RevisedIn {α : Type} (round : Nat) (roundOf : α → Nat) (final : α → α) : List α → List α → Prop :=
  List.Forall₂ (fun a a' => final a' = final a ∧ (roundOf a ≠ round → a' = a))

theorem RevisedIn.refl {α : Type} (round : Nat) (roundOf : α → Nat) (final : α → α) (l : List α) :
    RevisedIn round roundOf final l l :=
  List.forall₂_same.2 (fun _ _ => ⟨rfl, fun _ => rfl⟩)

theorem RevisedIn.map {α : Type} {round : Nat} {roundOf : α → Nat} {final : α → α} {f : α → α}
    (hfinal : ∀ a, final (f a) = final a) (hother : ∀ a, roundOf a ≠ round → f a = a) (l : List α) :
    RevisedIn round roundOf final l (l.map f) :=
  List.forall₂_map_right_iff.2 (List.forall₂_same.2 (fun a _ => ⟨hfinal a, hother a⟩))

/-- **A match in which one round was worked on.**  Of its gunfights, damages and grenades only the assists and the
impact, the grenades behind the damages, and the damage and the ratings of the grenades may have changed, records of
players may have been added, and all of that in the round.  The rest of the match is as it was. -/
structure WithinRound (round : Nat) (s t : MatchState) : Prop where
  gunfights : RevisedIn round Gunfight.round Gunfight.asFought s.gunfights t.gunfights
  damages : RevisedIn round Damage.round Damage.asDealt s.damages t.damages
  grenades : RevisedIn round Grenade.round Grenade.uncredited s.grenades t.grenades
  playerRounds : ∃ added, t.playerRounds = s.playerRounds ++ added ∧ ∀ r ∈ added, r.round = round
  rest : { t with
      gunfights := s.gunfights, damages := s.damages, grenades := s.grenades, playerRounds := s.playerRounds } = s

theorem WithinRound.refl (round : Nat) (s : MatchState) : WithinRound round s s where
  gunfights := .refl _ _ _ _
  damages := .refl _ _ _ _
  grenades := .refl _ _ _ _
  playerRounds := ⟨[], (List.append_nil _).symm, fun _ hr => (List.not_mem_nil hr).elim⟩
  rest := rfl

theorem withinRound_creditGrenades (s : MatchState) (round : Nat) (c : Config) :
    WithinRound round s (s.creditGrenades round c) where
  gunfights := .refl _ _ _ _
  damages := .map (fun _ => asDealt_attributed) (fun _ hd => if_neg hd) s.damages
  grenades := by
    refine List.forall₂_iff_get.2 ⟨?_, fun i hi hi' => ?_⟩
    · simpa using congrArg List.length (map_uncredited_creditGrenades (s := s) (c := c)).symm
    · have hplace : (s.creditGrenades round c).grenades[i] = s.credited round c i s.grenades[i] := by
        have hentry : (s.creditGrenades round c).grenades[i]? = (s.grenades[i]?).map (s.credited round c i) :=
          getElem?_grenades_creditGrenades i
        rw [List.getElem?_eq_getElem hi, List.getElem?_eq_getElem hi'] at hentry
        exact Option.some.inj hentry
      rw [List.get_eq_getElem, List.get_eq_getElem, hplace]
      exact ⟨uncredited_credited, fun hg => if_neg hg⟩
  playerRounds := ⟨[], (List.append_nil _).symm, fun _ hr => (List.not_mem_nil hr).elim⟩
  rest := rfl

theorem withinRound_closeRound (s : MatchState) (c : Config) : WithinRound s.round.number s (s.closeRound c) := by
  rw [closeRound_eq]
  split
  · have hcredit := withinRound_creditGrenades s s.round.number c
    refine ⟨?_, hcredit.damages, hcredit.grenades, ⟨_, rfl, fun r hr => ?_⟩, rfl⟩
    · rw [show ({ s.settleRecords c s.round.number with
            playerRounds := s.playerRounds ++ (s.settleRecords c s.round.number).roundRecords c } :
          MatchState).gunfights = s.gunfights.map (s.settledGunfight c) from gunfights_settleRecords s c]
      exact .map (asFought_settledGunfight s c) (fun g hg => if_neg hg) s.gunfights
    · have hround : r.round = (s.settleRecords c s.round.number).round.number := round_of_mem_roundRecords hr
      exact hround
  · exact .refl _ s

/-- **Closing can be repeated, and stays in its round.**  Crediting the damage of a round twice, settling its records
twice and closing it twice is doing so once, and neither crediting nor closing changes anything outside the round. -/
theorem closing_again (s : MatchState) (round : Nat) (c : Config) :
    (s.creditGrenades round c).creditGrenades round c = s.creditGrenades round c ∧
      (s.settleRecords c s.round.number).settleRecords c s.round.number = s.settleRecords c s.round.number ∧
      (s.closeRound c).closeRound c = s.closeRound c ∧
      WithinRound round s (s.creditGrenades round c) ∧ WithinRound s.round.number s (s.closeRound c) :=
  ⟨creditGrenades_creditGrenades s round c, settleRecords_settleRecords s c, closeRound_closeRound s c,
    withinRound_creditGrenades s round c, withinRound_closeRound s c⟩

end MatchState

end Scorebook
