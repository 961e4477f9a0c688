import Scorebook.Proofs.Lookup
import Scorebook.Proofs.Effects
/-!
# Counting the kills of a player

Five numbers of a player's record count gunfights that the player won, each those that pass a test (`Counter`).
The record of a round counts the gunfights of the round (`inRound_playerRound`), and the record of a match adds up
the rounds in which the player had a side (`tallies_closeMatch`).
-/
namespace Scorebook

/-! ## Totals -/

theorem totalCount_append {α : Type} (f : α → Nat) :
    ∀ l l' : List α, totalCount f (l ++ l') = totalCount f l + totalCount f l'
  | [], l' => by simp [totalCount]
  | a :: l, l' => by
    show f a + totalCount f (l ++ l') = f a + totalCount f l + totalCount f l'
    rw [totalCount_append f l l', Nat.add_assoc]

theorem totalCount_add {α : Type} (f g : α → Nat) :
    ∀ l : List α, totalCount (fun a => f a + g a) l = totalCount f l + totalCount g l
  | [] => rfl
  | a :: l => by
    show f a + g a + totalCount (fun a => f a + g a) l = f a + totalCount f l + (g a + totalCount g l)
    rw [totalCount_add f g l]
    omega

theorem totalCount_congr {α : Type} {f g : α → Nat} :
    ∀ {l : List α}, (∀ a ∈ l, f a = g a) → totalCount f l = totalCount g l
  | [], _ => rfl
  | a :: l, h => by
    show f a + totalCount f l = g a + totalCount g l
    rw [h a List.mem_cons_self, totalCount_congr (fun b hb => h b (List.mem_cons_of_mem _ hb))]

theorem totalCount_map {α β : Type} (f : β → Nat) (g : α → β) (l : List α) :
    totalCount f (l.map g) = totalCount (fun a => f (g a)) l := by
  rw [totalCount, totalCount, List.foldr_map]

theorem totalCount_indicator {α : Type} (p : α → Bool) :
    ∀ l : List α, totalCount (fun a => if p a then 1 else 0) l = l.countP p
  | [] => rfl
  | a :: l => by
    show (if p a then 1 else 0) + totalCount _ l = _
    rw [totalCount_indicator p l, List.countP_cons, Nat.add_comm]

theorem totalCount_zero {α : Type} : ∀ l : List α, totalCount (fun _ => 0) l = 0
  | [] => rfl
  | _ :: l => (Nat.zero_add _).trans (totalCount_zero l)

theorem totalCount_eq_zero_iff {α : Type} {f : α → Nat} : ∀ {l : List α}, totalCount f l = 0 ↔ ∀ a ∈ l, f a = 0
  | [] => by simp [totalCount]
  | a :: l => by
    have hcons : totalCount f (a :: l) = f a + totalCount f l := rfl
    rw [hcons, Nat.add_eq_zero_iff, totalCount_eq_zero_iff, List.forall_mem_cons]

theorem total_congr {α : Type} {f g : α → Int} {l : List α} (h : ∀ a ∈ l, f a = g a) : total f l = total g l :=
  List.foldr_ext _ _ _ (fun a ha n => congrArg (· + n) (h a ha))

theorem total_map {α β : Type} (f : β → Int) (g : α → β) (l : List α) :
    total f (l.map g) = total (fun a => f (g a)) l := by
  rw [total, total, List.foldr_map]

theorem total_concat {α : Type} (f : α → Int) (a : α) : ∀ l : List α, total f (l ++ [a]) = total f l + f a
  | [] => Int.add_comm _ _
  | b :: l => by
    show f b + total f (l ++ [a]) = f b + total f l + f a
    rw [total_concat f a l, Int.add_assoc]

theorem total_filter_add {α : Type} (f : α → Int) (test : α → Bool) :
    ∀ l : List α, total f (l.filter test) + total f (l.filter (!test ·)) = total f l
  | [] => rfl
  | a :: l => by
    have hrest := total_filter_add f test l
    have hcons (l : List α) : total f (a :: l) = f a + total f l := rfl
    rw [List.filter_cons, List.filter_cons, hcons]
    cases test a <;> simp [hcons] <;> omega

theorem total_perm {α : Type} (f : α → Int) {l l' : List α} (h : l'.Perm l) : total f l' = total f l := by
  induction h with
  | nil => rfl
  | cons a _ ih => exact congrArg (f a + ·) ih
  | swap a b l => exact Int.add_left_comm (f b) (f a) (total f l)
  | trans _ _ ih ih' => exact ih.trans ih'

theorem foldl_add_total {α : Type} (f : α → Int) : ∀ (l : List α) (n : Int), l.foldl (fun n a => n + f a) n = n + total f l
  | [], n => (Int.add_zero n).symm
  | a :: l, n => by
    rw [List.foldl_cons, foldl_add_total f l, Int.add_assoc]
    rfl

/-- **What is of one kind each is counted once over all kinds.** -/
theorem totalCount_countP {α κ : Type} [DecidableEq κ] {f : α → κ} {kinds : List κ} (hk : kinds.Nodup) :
    ∀ {l : List α}, (∀ a ∈ l, f a ∈ kinds) →
      totalCount (fun k => l.countP (fun a => f a = k)) kinds = l.length
  | [], _ => totalCount_zero kinds
  | a :: l, h => by
    have hone : totalCount (fun k => if f a = k then 1 else 0) kinds = 1 := by
      have hc : kinds.count (f a) = 1 := by
        rw [List.Nodup.count hk, if_pos (h a List.mem_cons_self)]
      have hi := totalCount_indicator (fun k => k == f a) kinds
      rw [show kinds.countP (fun k => k == f a) = 1 from hc] at hi
      exact (totalCount_congr (fun k _ => by simp only [beq_iff_eq, @eq_comm κ (f a)])).trans hi
    have hrest := totalCount_countP hk (fun b hb => h b (List.mem_cons_of_mem _ hb))
    calc totalCount (fun k => (a :: l).countP (fun a => f a = k)) kinds
        = totalCount (fun k => l.countP (fun a => f a = k) + if f a = k then 1 else 0) kinds :=
          totalCount_congr (fun k _ => by rw [List.countP_cons]; simp)
      _ = totalCount (fun k => l.countP (fun a => f a = k)) kinds +
            totalCount (fun k => if f a = k then 1 else 0) kinds := totalCount_add _ _ kinds
      _ = (a :: l).length := by rw [hrest, hone, List.length_cons]

/-- What passes a test is counted once over all kinds that pass it. -/
theorem totalCount_countP_and {α κ : Type} [DecidableEq κ] {f : α → κ} {kinds : List κ} (hk : kinds.Nodup)
    {test : α → Bool} {l : List α} (h : ∀ a ∈ l, test a = true → f a ∈ kinds) :
    totalCount (fun k => l.countP (fun a => f a = k && test a)) kinds = l.countP test := by
  have hmem : ∀ a ∈ l.filter test, f a ∈ kinds := by
    intro a ha
    obtain ⟨hl, ht⟩ := List.mem_filter.1 ha
    exact h a hl ht
  rw [List.countP_eq_length_filter, ← totalCount_countP hk hmem]
  exact totalCount_congr (fun k _ => List.countP_filter.symm)

/-- Of items that keep apart, the only one of its kind is counted alone. -/
theorem countP_of_unique {α : Type} {R : α → α → Prop} {kind : α → Bool} {a : α} (test : α → Bool)
    (hR : ∀ a b, R a b → kind a = true → kind b = true → False) (ha : kind a = true) :
    ∀ {l : List α}, l.Pairwise R → a ∈ l → l.countP (fun b => kind b && test b) = if test a then 1 else 0
  | b :: l, hl, hm => by
    obtain ⟨hb, hrest⟩ := List.pairwise_cons.1 hl
    rw [List.countP_cons]
    rcases List.mem_cons.1 hm with rfl | hm
    · have hnone : l.countP (fun b => kind b && test b) = 0 := by
        refine List.countP_eq_zero.2 (fun b hb' hk => ?_)
        rw [Bool.and_eq_true] at hk
        exact hR a b (hb b hb') ha hk.1
      simp [hnone, ha]
    · have hkind : kind b = false := by
        rw [Bool.eq_false_iff]
        exact fun hk => hR b a (hb a hm) hk ha
      simp [countP_of_unique test hR ha hrest hm, hkind]

/-! ## Counters -/

/-- A number of a player's record that counts gunfights which the player won. -/
inductive Counter where
  | kills
  | teamKills
  | headshots
  | wallbangs
  | awpKills

namespace Counter

def counts : Counter → Gunfight → Bool
  | .kills, g => !g.isTeamKill
  | .teamKills, g => g.isTeamKill
  | .headshots, g => !g.isTeamKill && g.isHeadshot
  | .wallbangs, g => !g.isTeamKill && g.isWallbang
  | .awpKills, g => !g.isTeamKill && decide (g.weapon = .awp)

def inRound : Counter → PlayerRound → Nat
  | .kills => (·.kills)
  | .teamKills => (·.teamKills)
  | .headshots => (·.headshots)
  | .wallbangs => (·.wallbangs)
  | .awpKills => (·.awpKills)

def inMatch : Counter → PlayerMatch → Nat
  | .kills => (·.kills)
  | .teamKills => (·.teamKills)
  | .headshots => (·.headshots)
  | .wallbangs => (·.wallbangs)
  | .awpKills => (·.awpKills)

/-- The gunfights that a player won and that are counted. -/
def among (k : Counter) (fights : List Gunfight) (id : PlayerId) : Nat :=
  fights.countP (fun g => g.killer.id = id && k.counts g)

theorem hasRole_killer (g : Gunfight) (id : PlayerId) : g.hasRole id .killer = decide (g.killer.id = id) := by
  unfold Gunfight.hasRole Gunfight.role?
  by_cases h : g.killer.id = id
  · simp [h]
  · rw [if_neg h]
    split
    · simp [h]
    · split
      · simp [h]
      · split <;> simp [h]

/-- **The record of a round counts the gunfights of the round.** -/
theorem inRound_playerRound (k : Counter) (s : MatchState) (c : Config) (f : RoundFacts) (p : Player) :
    k.inRound (s.playerRound c f p) = k.among f.fights p.id := by
  have hkills (test : Gunfight → Bool) : (f.kills p.id).countP test =
      f.fights.countP (fun g => g.killer.id = p.id && (!g.isTeamKill && test g)) := by
    rw [RoundFacts.kills, RoundFacts.fightsAs, List.countP_filter, List.countP_filter]
    refine List.countP_congr (fun g _ => ?_)
    rw [hasRole_killer]
    cases test g <;> cases g.isTeamKill <;> cases decide (g.killer.id = p.id) <;> simp
  cases k with
  | kills =>
    show (f.kills p.id).length = _
    rw [← List.countP_true, hkills]
    exact List.countP_congr (fun g _ => by simp [counts])
  | teamKills =>
    show (f.fightsAs p.id .killer).countP (·.isTeamKill) = _
    rw [RoundFacts.fightsAs, List.countP_filter]
    exact List.countP_congr (fun g _ => by simp [counts, hasRole_killer, and_comm])
  | headshots => exact hkills _
  | wallbangs => exact hkills _
  | awpKills => exact hkills _

theorem counts_asFought (k : Counter) (g : Gunfight) : k.counts g.asFought = k.counts g := by
  cases k <;> rfl

theorem among_of_asFought (k : Counter) {fights fights' : List Gunfight}
    (h : fights'.map Gunfight.asFought = fights.map Gunfight.asFought) (id : PlayerId) :
    k.among fights' id = k.among fights id :=
  countP_of_map_eq (fun g => g.killer.id = id && k.counts g) (fun g => by rw [counts_asFought]; rfl) h

theorem among_append (k : Counter) (fights : List Gunfight) (g : Gunfight) (id : PlayerId) :
    k.among (fights ++ [g]) id = k.among fights id + if g.killer.id = id && k.counts g then 1 else 0 := by
  rw [among, List.countP_append, List.countP_singleton]
  rfl

theorem countP_killer (fights : List Gunfight) (id : PlayerId) :
    fights.countP (fun g => g.killer.id = id) = Counter.kills.among fights id + Counter.teamKills.among fights id := by
  rw [List.countP_eq_countP_filter_add fights _ (fun g => !g.isTeamKill), List.countP_filter, List.countP_filter]
  simp only [among, counts, Bool.not_not]

end Counter

/-! ## Records -/

/-- The rounds of a player in which the player had a side. -/
def played (rounds : List PlayerRound) (id : PlayerId) : List PlayerRound :=
  rounds.filter (fun r => r.player = id && r.side.isSome)

theorem played_append (rounds rounds' : List PlayerRound) (id : PlayerId) :
    played (rounds ++ rounds') id = played rounds id ++ played rounds' id :=
  List.filter_append _ _

namespace MatchState

/-- **Of the records of a round, a player with a side has one.** -/
theorem played_roundRecords {s : MatchState} (hown : ∀ id p, s.players.get? id = some p → p.id = id) (c : Config)
    (id : PlayerId) :
    played (s.roundRecords c) id =
      if (s.round.roster.get? id).isSome then
        (s.players.get? id).toList.map (s.playerRound c (s.facts c s.round.number))
      else [] := by
  have hf : (fun r : PlayerRound => r.player = id && r.side.isSome) ∘ s.playerRound c (s.facts c s.round.number) =
      fun p => decide (p.id = id) && (s.round.roster.get? p.id).isSome := rfl
  rw [played, roundRecords, List.filter_map, hf]
  cases hs : (s.round.roster.get? id).isSome with
  | true =>
    rw [if_pos rfl, ← Table.filter_values hown id]
    refine congrArg (List.map _) (List.filter_congr (fun p _ => ?_))
    by_cases hp : p.id = id <;> simp [hp, hs]
  | false =>
    rw [if_neg (by simp)]
    refine List.map_eq_nil_iff.2 (List.filter_eq_nil_iff.2 (fun p _ => ?_))
    by_cases hp : p.id = id <;> simp [hp, hs]

end MatchState

structure PlayerMatch.Tallies where
  player : PlayerId
  kills : Nat
  teamKills : Nat
  headshots : Nat
  wallbangs : Nat
  awpKills : Nat
  deaths : Nat

namespace PlayerMatch

def tallies (r : PlayerMatch) : Tallies :=
  ⟨r.player, r.kills, r.teamKills, r.headshots, r.wallbangs, r.awpKills, r.deaths⟩

/-! ### What comparing players leaves alone -/

section Frame

variable {β : Type} (g : PlayerMatch → β)

theorem map_shareImpact (hg : ∀ r x, g { r with matchSwingPercentage := x } = g r) (records : List PlayerMatch) :
    (shareImpact records).map g = records.map g := by
  unfold shareImpact
  rw [List.map_map]
  exact List.map_congr_left (fun r _ => hg r _)

theorem map_award (hg : ∀ r as, g { r with achievements := as } = g r) (records : List PlayerMatch) (a : Achievement) :
    (award records a).map g = records.map g := by
  unfold award
  split
  · exact map_modify_of_fixed g _ (fun r => hg r _) _ _
  · rfl

theorem map_foldl_award (hg : ∀ r as, g { r with achievements := as } = g r) :
    ∀ (as : List Achievement) (records : List PlayerMatch), (as.foldl award records).map g = records.map g
  | [], _ => rfl
  | a :: as, records => (map_foldl_award hg as (award records a)).trans (map_award g hg records a)

theorem map_rankAll (hg : ∀ r n, g { r with rank := n } = g r) (records : List PlayerMatch) :
    (rankAll records).map g = records.map g := by
  unfold rankAll
  rw [List.map_map]
  calc records.zipIdx.map _ = (records.zipIdx.map (·.1)).map g := by
        rw [List.map_map]
        exact List.map_congr_left (fun e _ => hg e.1 _)
    _ = records.map g := by rw [List.zipIdx_map_fst]

end Frame

def Tallies.total (id : PlayerId) (rounds : List PlayerRound) : Tallies where
  player := id
  kills := totalCount (·.kills) rounds
  teamKills := totalCount (·.teamKills) rounds
  headshots := totalCount (·.headshots) rounds
  wallbangs := totalCount (·.wallbangs) rounds
  awpKills := totalCount (·.awpKills) rounds
  deaths := totalCount (·.deaths) rounds

end PlayerMatch

/-- **The records of a match add up the rounds in which the player had a side.** -/
theorem MatchState.tallies_closeMatch (s : MatchState) :
    s.closeMatch.playerMatches.map PlayerMatch.tallies =
      s.players.values.map (fun p => PlayerMatch.Tallies.total p.id (played s.playerRounds p.id)) := by
  have hsum (p : Player) :
      (PlayerMatch.summarize p (s.team? p.id) (s.playerRounds.filter (·.player = p.id))).tallies =
        PlayerMatch.Tallies.total p.id (played s.playerRounds p.id) := by
    have hp : (s.playerRounds.filter (·.player = p.id)).filter (·.side.isSome) = played s.playerRounds p.id := by
      rw [List.filter_filter]
      exact List.filter_congr (fun r _ => Bool.and_comm _ _)
    unfold PlayerMatch.summarize
    simp only [hp]
    rfl
  unfold closeMatch
  rw [PlayerMatch.map_rankAll _ (fun _ _ => rfl), PlayerMatch.map_foldl_award _ (fun _ _ => rfl),
    PlayerMatch.map_shareImpact _ (fun _ _ => rfl), List.map_map]
  exact List.map_congr_left (fun p _ => hsum p)

theorem MatchState.map_player_closeMatch (s : MatchState) :
    s.closeMatch.playerMatches.map (·.player) = s.players.values.map (·.id) :=
  calc s.closeMatch.playerMatches.map (·.player)
      = (s.closeMatch.playerMatches.map PlayerMatch.tallies).map (·.player) := by rw [List.map_map]; rfl
    _ = s.players.values.map (·.id) := by rw [tallies_closeMatch, List.map_map]; rfl

end Scorebook
