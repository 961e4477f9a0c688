import Mathlib.Data.List.Pairwise
import Scorebook.Proofs.Clutches
import Scorebook.Proofs.FightLog
import Scorebook.Proofs.Ongoing
import Scorebook.Proofs.Trades
/-!
# Records of a round that agree

The fields of a record are worked out apart: kills from the gunfights, buys from the equipment, clutches from a replay of
the exits, trades from a search.  They agree with each other all the same (`PlayerRound.Consistent`), and so do the
records of one round: what only one player of a round can have done, one record tells at most (`PlayerRound.Apart`).
-/
namespace Scorebook

/-! ## One record, and two of one round -/

/-- **The fields of a record agree with each other.** -/
structure PlayerRound.Consistent (x : PlayerRound) : Prop where
  buyKills : x.ecoKills + x.forceBuyKills + x.fullBuyKills = x.kills
  headshots : x.headshots ≤ x.kills
  wallbangs : x.wallbangs ≤ x.kills
  awpKills : x.awpKills ≤ x.kills
  firstKill : x.firstKill = true → 1 ≤ x.kills
  /-- Whoever has a side bought in one way, and whoever has none in no way. -/
  buy : [x.isEco, x.isForceBuy, x.isFullBuy].count true = if x.side.isSome then 1 else 0
  pistol : x.side.isSome = true → x.round = 1 ∨ x.round = 13 → x.isFullBuy = true
  clutchSide : x.clutchAttempt = true → x.side.isSome = true
  clutchWon : x.clutchWon = true → x.clutchAttempt = true
  opponents : if x.clutchAttempt then 1 ≤ x.clutchOpponents ∧ x.clutchOpponents ≤ 5 else x.clutchOpponents = 0
  survived : x.survived = true ↔ x.side.isSome = true ∧ x.deaths = 0
  trades : x.tradeKills ≤ x.tradeOpportunities

/-- What the records of two players of one round do not tell of both. -/
structure PlayerRound.Apart (x y : PlayerRound) : Prop where
  firstKill : ¬ (x.firstKill = true ∧ y.firstKill = true)
  firstDeath : ¬ (x.firstDeath = true ∧ y.firstDeath = true)
  clutchSides : x.clutchAttempt = true → y.clutchAttempt = true → x.side ≠ y.side
  clutchWon : ¬ (x.clutchWon = true ∧ y.clutchWon = true)

/-- **The records of the rounds agree.**  Each agrees with itself, and of the records of a round one at most tells of the
first kill, one of the first death, one of a clutch on a side and two of a clutch at all, and one of a clutch that was
won. -/
structure Report.RoundsAgree (r : Report) : Prop where
  consistent : ∀ x ∈ r.playerRounds, x.Consistent
  firstKills : ∀ n, r.playerRounds.countP (fun x => x.round = n && x.firstKill) ≤ 1
  firstDeaths : ∀ n, r.playerRounds.countP (fun x => x.round = n && x.firstDeath) ≤ 1
  clutchesOnSide : ∀ n side, r.playerRounds.countP (fun x => x.round = n && x.clutchAttempt && x.side = some side) ≤ 1
  clutches : ∀ n, r.playerRounds.countP (fun x => x.round = n && x.clutchAttempt) ≤ 2
  clutchesWon : ∀ n, r.playerRounds.countP (fun x => x.round = n && x.clutchWon) ≤ 1

/-! ## Counting what only one of several does -/

theorem countP_le_one {α : Type} {p : α → Bool} : ∀ {l : List α},
    l.Pairwise (fun a b => ¬ (p a = true ∧ p b = true)) → l.countP p ≤ 1
  | [], _ => Nat.zero_le 1
  | a :: l, h => by
    obtain ⟨ha, hrest⟩ := List.pairwise_cons.1 h
    rw [List.countP_cons]
    cases hp : p a with
    | false => exact countP_le_one hrest
    | true =>
      have hnone : l.countP p = 0 := List.countP_eq_zero.2 (fun b hb hpb => ha b hb ⟨hp, hpb⟩)
      simp [hnone]

theorem countP_le_add {α : Type} {p q q' : α → Bool} : ∀ {l : List α},
    (∀ a ∈ l, p a = true → q a = true ∨ q' a = true) → l.countP p ≤ l.countP q + l.countP q'
  | [], _ => Nat.le_refl 0
  | a :: l, h => by
    have hrest := countP_le_add (fun b hb => h b (List.mem_cons_of_mem _ hb))
    have ha := h a List.mem_cons_self
    rw [List.countP_cons, List.countP_cons, List.countP_cons]
    cases hp : p a with
    | false =>
      simp only [Bool.false_eq_true, if_false]
      omega
    | true =>
      rcases ha hp with hq | hq <;> simp only [hq, if_true] <;> omega

/-! ## Gunfights that opened their round -/

/-- **A round has one first kill.** -/
theorem FirstKills.eq {fights : List Gunfight} (h : FirstKills fights) {g g' : Gunfight} (hg : g ∈ fights)
    (hg' : g' ∈ fights) (hround : g.round = g'.round) (hfirst : g.isFirstKill = true)
    (hfirst' : g'.isFirstKill = true) : g = g' := by
  obtain ⟨before, later, rfl⟩ := List.append_of_mem hg
  have hbefore := (h before g later rfl).1 hfirst
  rcases List.mem_append.1 hg' with hm | hm
  · exact absurd hround.symm (hbefore g' hm)
  · rcases List.mem_cons.1 hm with heq | hm
    · exact heq.symm
    · obtain ⟨between, last, rfl⟩ := List.append_of_mem hm
      have hbefore' := (h (before ++ g :: between) g' last (by simp)).1 hfirst'
      exact absurd hround (hbefore' g (List.mem_append_right _ List.mem_cons_self))

theorem Gunfight.victim_of_hasRole {g : Gunfight} {id : PlayerId} (h : g.hasRole id .victim = true) :
    g.victim.id = id := by
  unfold hasRole role? at h
  by_cases hk : g.killer.id = id
  · simp [hk] at h
  · by_cases hv : g.victim.id = id
    · exact hv
    · rw [if_neg hk, if_neg hv] at h
      split at h
      · simp at h
      · split at h <;> simp at h

namespace MatchState

variable {s : MatchState} {c : Config}

theorem mem_fights {round : Nat} {g : Gunfight} (h : g ∈ (s.facts c round).fights) :
    g ∈ s.gunfights ∧ g.round = round := by
  obtain ⟨hmem, hround⟩ := List.mem_filter.1 (List.mem_mergeSort.1 h)
  exact ⟨hmem, of_decide_eq_true hround⟩

/-- The gunfight behind a record that tells of the first kill, and behind one that tells of the first death. -/
theorem exists_firstKill {round : Nat} {p : Player} (h : (s.playerRound c (s.facts c round) p).firstKill = true) :
    ∃ g ∈ s.gunfights, g.round = round ∧ g.isFirstKill = true ∧ g.killer.id = p.id := by
  obtain ⟨g, hg, hfirst⟩ := List.any_eq_true.1 h
  obtain ⟨hfight, hrole⟩ := List.mem_filter.1 (List.mem_filter.1 hg).1
  obtain ⟨hmem, hround⟩ := mem_fights hfight
  rw [Counter.hasRole_killer, decide_eq_true_eq] at hrole
  exact ⟨g, hmem, hround, hfirst, hrole⟩

theorem exists_firstDeath {round : Nat} {p : Player} (h : (s.playerRound c (s.facts c round) p).firstDeath = true) :
    ∃ g ∈ s.gunfights, g.round = round ∧ g.isFirstKill = true ∧ g.victim.id = p.id := by
  obtain ⟨g, hg, hfirst⟩ := List.any_eq_true.1 h
  obtain ⟨hfight, hrole⟩ := List.mem_filter.1 hg
  obtain ⟨hmem, hround⟩ := mem_fights hfight
  exact ⟨g, hmem, hround, hfirst, Gunfight.victim_of_hasRole hrole⟩

/-! ## What a clutch leaves in a record -/

/-- Two clutches of a round are on different sides, and one of them is won at most. -/
theorem contested {k k' : Clutch} (hk : k ∈ s.clutches) (hk' : k' ∈ s.clutches) (hne : k.player ≠ k'.player) :
    s.round.roster.get? k.player ≠ s.round.roster.get? k'.player ∧ ¬ (k.won = true ∧ k'.won = true) := by
  have hsymm : Std.Symm (fun a b : Clutch =>
      s.round.roster.get? a.player ≠ s.round.roster.get? b.player ∧ ¬ (a.won = true ∧ b.won = true)) :=
    ⟨fun a b hab => ⟨hab.1.symm, fun hboth => hab.2 hboth.symm⟩⟩
  exact (Clutch.pairwise_contested s.round.roster s.sortedExits).forall hk hk' (fun heq => hne (heq ▸ rfl))

/-- The clutch behind a record that tells of one. -/
theorem exists_clutch {round : Nat} {p : Player}
    (h : (s.playerRound c (s.facts c round) p).clutchAttempt = true) :
    ∃ k ∈ s.clutches, k.player = p.id ∧ (s.playerRound c (s.facts c round) p).clutchWon = k.won ∧
      (s.playerRound c (s.facts c round) p).clutchOpponents = k.opponents := by
  obtain ⟨k, hk⟩ := Option.isSome_iff_exists.1 h
  have hfound : s.clutches.find? (·.player = p.id) = some k := hk
  refine ⟨k, List.mem_of_find?_eq_some hfound, by simpa using List.find?_some hfound, ?_, ?_⟩
  · show (s.clutches.find? (·.player = p.id)).any (·.won) = k.won
    rw [hfound]
    rfl
  · show ((s.clutches.find? (·.player = p.id)).map (·.opponents)).getD 0 = k.opponents
    rw [hfound]
    rfl

/-! ## The records of one round -/

theorem count_bought (present : Bool) (b : BuyType) :
    [present && decide (b = .eco), present && decide (b = .forceBuy), present && decide (b = .fullBuy)].count true =
      if present then 1 else 0 := by
  cases present <;> cases b <;> rfl

/-- **A record agrees with itself.** -/
theorem consistent_playerRound (s : MatchState) (c : Config) (round : Nat) (p : Player) :
    (s.playerRound c (s.facts c round) p).Consistent where
  buyKills := by
    have hkinds : [BuyType.eco, .forceBuy, .fullBuy].Nodup := by decide
    have hall := totalCount_countP hkinds (l := (s.facts c round).kills p.id)
      (f := fun g => BuyType.classify round g.victim.equipmentValue c) (fun g _ => by
        cases BuyType.classify round g.victim.equipmentValue c <;> simp)
    simp only [totalCount, List.foldr_cons, List.foldr_nil, Nat.add_zero, ← Nat.add_assoc] at hall
    exact hall
  headshots := List.countP_le_length
  wallbangs := List.countP_le_length
  awpKills := List.countP_le_length
  firstKill h := by
    obtain ⟨g, hg, -⟩ := List.any_eq_true.1 h
    exact List.length_pos_of_mem hg
  buy := count_bought _ _
  pistol hside hround := by
    have hround : round = 1 ∨ round = 13 := hround
    have hclass (value : Int) : BuyType.classify round value c = .fullBuy := by
      unfold BuyType.classify halftimeRound
      exact if_pos (by simpa using hround)
    exact Bool.and_eq_true_iff.2 ⟨hside, decide_eq_true (hclass _)⟩
  clutchSide h := by
    obtain ⟨k, hk, hid, -⟩ := exists_clutch h
    have hmember := Clutch.contains_of_mem_detect hk
    rw [hid] at hmember
    exact hmember
  clutchWon h := by
    obtain ⟨hattempt, -⟩ := (Option.any_eq_true_iff_get _ _).1 h
    exact hattempt
  opponents := by
    split
    · next h =>
      obtain ⟨k, hk, -, -, hopponents⟩ := exists_clutch h
      rw [hopponents]
      exact Clutch.opponents_of_mem_detect hk
    · next h =>
      have hnone : (s.facts c round).clutches.find? (·.player = p.id) = none := Option.not_isSome_iff_eq_none.1 h
      show (((s.facts c round).clutches.find? (·.player = p.id)).map (·.opponents)).getD 0 = 0
      rw [hnone]
      rfl
  survived := by
    show ((s.round.roster.get? p.id).isSome && decide (_ = 0)) = true ↔ _
    rw [Bool.and_eq_true, decide_eq_true_eq]
    exact Iff.rfl
  trades := Trade.kills_le_opportunities _ _ _ _ p.id

/-- **The records of two players of a round do not both tell what one of them did.** -/
theorem apart_playerRound (h : FirstKills s.gunfights) {p q : Player} (hne : p.id ≠ q.id) (c : Config) (round : Nat) :
    (s.playerRound c (s.facts c round) p).Apart (s.playerRound c (s.facts c round) q) where
  firstKill := by
    rintro ⟨hp, hq⟩
    obtain ⟨g, hg, hround, hfirst, hid⟩ := exists_firstKill hp
    obtain ⟨g', hg', hround', hfirst', hid'⟩ := exists_firstKill hq
    have heq := h.eq hg hg' (hround.trans hround'.symm) hfirst hfirst'
    exact hne (hid.symm.trans (heq ▸ hid'))
  firstDeath := by
    rintro ⟨hp, hq⟩
    obtain ⟨g, hg, hround, hfirst, hid⟩ := exists_firstDeath hp
    obtain ⟨g', hg', hround', hfirst', hid'⟩ := exists_firstDeath hq
    have heq := h.eq hg hg' (hround.trans hround'.symm) hfirst hfirst'
    exact hne (hid.symm.trans (heq ▸ hid'))
  clutchSides := by
    intro hp hq
    obtain ⟨k, hk, hid, -⟩ := exists_clutch hp
    obtain ⟨k', hk', hid', -⟩ := exists_clutch hq
    have hsides := (contested hk hk' (fun heq => hne (hid.symm.trans (heq ▸ hid')))).1
    rw [hid, hid'] at hsides
    exact hsides
  clutchWon := by
    rintro ⟨hp, hq⟩
    have hattempt (p : Player) := (consistent_playerRound s c round p).clutchWon
    obtain ⟨k, hk, hid, hwon, -⟩ := exists_clutch (hattempt p hp)
    obtain ⟨k', hk', hid', hwon', -⟩ := exists_clutch (hattempt q hq)
    have hwins := (contested hk hk' (fun heq => hne (hid.symm.trans (heq ▸ hid')))).2
    exact hwins ⟨hwon.symm.trans hp, hwon'.symm.trans hq⟩

/-- The records of a round agree with themselves and with each other. -/
theorem pairwise_roundRecords (hr : Registered s) (h : FirstKills s.gunfights) (c : Config) :
    (s.roundRecords c).Pairwise (·.Apart ·) := by
  rw [roundRecords, List.pairwise_map]
  exact (pairwise_id_players hr).imp (fun hlt => apart_playerRound h (Nat.ne_of_lt hlt) c s.round.number)

/-! ## The records of all rounds -/

/-- The records so far agree with themselves, and those of one round with each other. -/
structure RecordsAgree (s : MatchState) : Prop where
  consistent : ∀ x ∈ s.playerRounds, x.Consistent
  apart : s.playerRounds.Pairwise (fun x y => x.round = y.round → x.Apart y)

namespace RecordsAgree

variable {s' : MatchState}

theorem of_eq (h : RecordsAgree s) (he : s'.playerRounds = s.playerRounds) : RecordsAgree s' :=
  ⟨he ▸ h.consistent, he ▸ h.apart⟩

theorem of_nil (h : s.playerRounds = []) : RecordsAgree s := by
  constructor
  · rw [h]
    exact fun x hx => by cases hx
  · rw [h]
    exact .nil

/-- **A round without records is closed with records that agree.** -/
theorem close (h : RecordsAgree s) (hr : Registered s) (hf : FirstKills s.gunfights) (hnew : s.isUnsettled = true)
    (c : Config) : RecordsAgree { s with playerRounds := s.playerRounds ++ s.roundRecords c } where
  consistent x hx := by
    rcases List.mem_append.1 hx with hx | hx
    · exact h.consistent x hx
    · obtain ⟨p, -, rfl⟩ := List.mem_map.1 hx
      exact consistent_playerRound _ c _ p
  apart := by
    have hapart := (pairwise_roundRecords hr hf c).imp (fun {x y} hxy (_ : x.round = y.round) => hxy)
    refine List.pairwise_append.2 ⟨h.apart, hapart, fun x hx y hy heq => ?_⟩
    obtain ⟨p, -, rfl⟩ := List.mem_map.1 hy
    have hold : ∀ x ∈ s.playerRounds, x.round ≠ s.round.number := by
      simp only [isUnsettled, Bool.not_eq_true', Bool.or_eq_false_iff, List.any_eq_false, decide_eq_true_eq] at hnew
      exact hnew.2
    exact absurd heq (hold x hx)

theorem settled (h : RecordsAgree s) (hr : Registered s) (hf : FirstKills s.gunfights) (c : Config) :
    RecordsAgree (s.settled c) := by
  unfold MatchState.settled
  rw [closeRound_eq]
  split
  · split
    · next hnew =>
      obtain ⟨gunfights, damages, grenades, hs, hfought, -⟩ := settleRecords_eq s c s.round.number
      rw [hs]
      have hworked : RecordsAgree { s with gunfights, damages, grenades } := h.of_eq rfl
      have hregistered : Registered { s with gunfights, damages, grenades } :=
        hr.frame (fun _ => rfl) (fun _ => rfl) rfl rfl rfl
      exact hworked.close hregistered (hf.of_asFought hfought) hnew c
    · exact h
  · exact h

theorem answer {tick : Tick} {e : Event} {step : Step MatchState} (h : RecordsAgree s) (hr : Registered s)
    (hf : FirstKills s.gunfights) (ha : Answer c s tick e step) : RecordsAgree step.state := by
  rcases ha.keepsRoll hr with he | he | hk
  · rw [he]
    unfold restart
    split
    · exact h
    · exact .of_nil rfl
  · rw [he]
    exact (h.settled hr hf c).of_eq rfl
  · exact h.of_eq hk.records

/-- What no two records of a round tell, one record of a round tells at most. -/
theorem countP_round_le_one (h : RecordsAgree s) {test : PlayerRound → Bool}
    (htest : ∀ {x y}, x.Apart y → ¬ (test x = true ∧ test y = true)) (n : Nat) :
    s.playerRounds.countP (fun x => x.round = n && test x) ≤ 1 := by
  refine countP_le_one (h.apart.imp (fun {x y} hxy hboth => ?_))
  simp only [Bool.and_eq_true, decide_eq_true_eq] at hboth
  exact htest (hxy (hboth.1.1.trans hboth.2.1.symm)) ⟨hboth.1.2, hboth.2.2⟩

theorem countP_clutches_le_one (h : RecordsAgree s) (n : Nat) (side : Side) :
    s.playerRounds.countP (fun x => x.round = n && x.clutchAttempt && x.side = some side) ≤ 1 := by
  have hapart {x y : PlayerRound} (hxy : x.Apart y) :
      ¬ ((x.clutchAttempt && decide (x.side = some side)) = true ∧
        (y.clutchAttempt && decide (y.side = some side)) = true) := by
    simp only [Bool.and_eq_true, decide_eq_true_eq]
    rintro ⟨⟨hx, hxside⟩, hy, hyside⟩
    exact hxy.clutchSides hx hy (hxside.trans hyside.symm)
  have hone := h.countP_round_le_one hapart n
  simp only [← Bool.and_assoc] at hone
  exact hone

/-- **Of the records of a round two tell of a clutch at most**, since each of them has a side. -/
theorem countP_clutches_le_two (h : RecordsAgree s) (n : Nat) :
    s.playerRounds.countP (fun x => x.round = n && x.clutchAttempt) ≤ 2 := by
  have hsplit : ∀ x ∈ s.playerRounds, (decide (x.round = n) && x.clutchAttempt) = true →
      (decide (x.round = n) && x.clutchAttempt && decide (x.side = some .ct)) = true ∨
        (decide (x.round = n) && x.clutchAttempt && decide (x.side = some .t)) = true := by
    intro x hx hn
    obtain ⟨side, hs⟩ := Option.isSome_iff_exists.1
      ((h.consistent x hx).clutchSide (Bool.and_eq_true_iff.1 hn).2)
    rw [hn, hs]
    cases side <;> simp
  have hone := h.countP_clutches_le_one n
  exact Nat.le_trans (countP_le_add hsplit) (Nat.add_le_add (hone .ct) (hone .t))

/-- **Records that agree are counted so.** -/
theorem report (h : RecordsAgree s) : (Report.ofState s).RoundsAgree where
  consistent := h.consistent
  firstKills := h.countP_round_le_one (·.firstKill)
  firstDeaths := h.countP_round_le_one (·.firstDeath)
  clutchesOnSide := h.countP_clutches_le_one
  clutches := h.countP_clutches_le_two
  clutchesWon := h.countP_round_le_one (·.clutchWon)

end RecordsAgree

end MatchState

/-! ## Whole matches -/

namespace Processor

open MatchState

variable {header : Header} {config : Config} {p : Processor}

theorem Fresh.recordsAgree (h : Fresh header config p) (events : List TimedEvent) :
    (p.after events).state.RecordsAgree := by
  refine h.traces (P := fun _ s => s.RecordsAgree) (.of_nil rfl) (fun events e hs => ?_) events
  have hr : Registered ((p.after events).state.advance e.tick) :=
    (Registered.kept config).clock _ _ (h.registered events)
  have hlog := h.fightLog (follows_after p events)
  have hadvanced : RecordsAgree ((p.after events).state.advance e.tick) := hs.of_eq rfl
  exact (hadvanced.answer hr hlog.first (answer_respond config _ e.tick e.event)).of_eq rfl

/-- **The records of the rounds agree with themselves and with each other**, whatever the stream. -/
theorem rounds_agree (h : Fresh header config p) (events : List TimedEvent) :
    ∃ r, (p.run events).result = .ok r ∧ r.RoundsAgree := by
  have hsettled := (h.recordsAgree events).settled (h.registered events)
    (h.fightLog (follows_after p events)).first config
  obtain ⟨_, hclose⟩ := closeState_eq (p.after events).state config
  refine ⟨_, (h.run_ok events).1, RecordsAgree.report ?_⟩
  rw [hclose]
  exact hsettled.of_eq rfl

/-- Player 2 kills one of two opponents: he has the first kill, and from then on both sides have a last player. -/
theorem rounds_agree_with_clutches :
    ∃ r, (({ config := {}, state := MatchState.new { mapName := "de_dust2" } {} } : Processor).run
        [⟨0, .playerConnect { id := 1, allegiance := .counterTerrorist }⟩,
         ⟨0, .playerConnect { id := 2, allegiance := .terrorist }⟩,
         ⟨0, .playerConnect { id := 3, allegiance := .counterTerrorist }⟩, ⟨1, .roundStart⟩,
         ⟨64, .kill { killer := some { id := 2, allegiance := .terrorist }
                      victim := some { id := 3, allegiance := .counterTerrorist }, weapon := some .ak47 }⟩]).result =
        .ok r ∧
      r.RoundsAgree ∧
      r.playerRounds.map (fun x => (x.player, x.kills, x.firstKill, x.firstDeath, x.survived)) =
        [(1, 0, false, false, true), (2, 1, true, false, true), (3, 0, false, true, false)] ∧
      r.playerRounds.map (fun x => (x.clutchAttempt, x.clutchOpponents)) = [(true, 1), (true, 1), (false, 0)] := by
  have h : Fresh { mapName := "de_dust2" } {} _ := .default rfl
  obtain ⟨r, hr, hagree⟩ := rounds_agree h
    [⟨0, .playerConnect { id := 1, allegiance := .counterTerrorist }⟩,
     ⟨0, .playerConnect { id := 2, allegiance := .terrorist }⟩,
     ⟨0, .playerConnect { id := 3, allegiance := .counterTerrorist }⟩, ⟨1, .roundStart⟩,
     ⟨64, .kill { killer := some { id := 2, allegiance := .terrorist }
                  victim := some { id := 3, allegiance := .counterTerrorist }, weapon := some .ak47 }⟩]
  refine ⟨r, hr, hagree, ?_⟩
  rw [(h.run_ok _).1] at hr
  cases hr
  constructor <;> decide +kernel

end Processor

end Scorebook
