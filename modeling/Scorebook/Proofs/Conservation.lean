import Scorebook.Proofs.Counting
import Scorebook.Proofs.Course
import Scorebook.Proofs.Registry
/-!
# No kill and no death is lost

A kill is counted in the running tallies of the killer, in the list of gunfights, in the record of the round and in
that of the match.  The running tallies always agree with the gunfights (`Tallied`), the records of closed rounds
with the gunfights of these rounds (`Balanced`), and when the last round is closed, all with each other (`Settled`).
-/
namespace Scorebook

/-- The killer and the victim of a kill. -/
def Event.combatants : Event → List Actor
  | .kill n => n.killer.toList ++ n.victim.toList
  | _ => []

def Player.tallies (p : Player) : Nat × Nat × Nat × Nat := (p.kills, p.headshots, p.wallbangs, p.deaths)

/-- **What a report says of kills and deaths is one account**: the records of the players, their running tallies, the
gunfights and the deaths that were told agree. -/
structure Report.Accounts (r : Report) (players : List Player) (told : PlayerId → Nat) : Prop where
  everyone : r.playerMatches.map (·.player) = r.players.map (·.player)
  won : ∀ m ∈ r.playerMatches, ∀ k : Counter, k.inMatch m = k.among r.gunfights m.player
  died : ∀ m ∈ r.playerMatches, m.deaths = told m.player
  running : ∀ q ∈ players, q.kills = Counter.kills.among r.gunfights q.id ∧
    q.headshots = Counter.headshots.among r.gunfights q.id ∧
    q.wallbangs = Counter.wallbangs.among r.gunfights q.id ∧ q.deaths = told q.id
  /-- Every gunfight is a kill or a team kill of one player. -/
  total : totalCount (fun m => m.kills + m.teamKills) r.playerMatches = r.gunfights.length

namespace MatchState

/-- No round was started since the match began: starting it over changes nothing. -/
def isUntouched (s : MatchState) : Bool := s.round.number = 0 && s.gunfights.isEmpty

def tellDeaths (s : MatchState) (told : PlayerId → Nat) (e : Event) (id : PlayerId) : Nat :=
  match e with
  | .matchStart => if s.isUntouched then told id else 0
  | e => told id + if s.round.isOpen && e.victim? = some id then 1 else 0

/-- **The deaths that a stream tells of each player**: the kills in an open round of which the player is the victim,
since the match last started over.  `told` are those told before. -/
def deathsTold (c : Config) : MatchState → (PlayerId → Nat) → List TimedEvent → PlayerId → Nat
  | _, told, [] => told
  | s, told, e :: events => deathsTold c (s.next c e) (s.tellDeaths told e.event) events

def deathsIn (s : MatchState) (id : PlayerId) : Nat := ((s.conditions.get? id).map (·.deaths)).getD 0

def tallyOf (s : MatchState) (told : PlayerId → Nat) (id : PlayerId) : Nat × Nat × Nat × Nat :=
  (Counter.kills.among s.gunfights id, Counter.headshots.among s.gunfights id,
    Counter.wallbangs.among s.gunfights id, told id)

/-- The gunfights of the rounds before the one in progress. -/
def pastFights (s : MatchState) : List Gunfight := s.gunfights.filter (fun g => g.round < s.round.number)

/-- The running tallies agree with the gunfights and with the deaths told. -/
structure Tallied (s : MatchState) (told : PlayerId → Nat) : Prop where
  range : ∀ g ∈ s.gunfights, 1 ≤ g.round ∧ g.round ≤ s.round.number
  killer : ∀ g ∈ s.gunfights, s.players.contains g.killer.id = true
  tally : ∀ {id : PlayerId} {p : Player}, s.players.get? id = some p → p.tallies = s.tallyOf told id
  stranger : ∀ {id : PlayerId}, s.players.contains id = false → told id = 0

/-- The records of the rounds before the one in progress agree with the gunfights of these rounds; with the deaths of
the round in progress they give the deaths told. -/
structure Balanced (s : MatchState) (told : PlayerId → Nat) : Prop extends Tallied s told where
  rounds : ∀ r ∈ s.playerRounds, r.round < s.round.number
  kills : ∀ (k : Counter) (id : PlayerId),
    totalCount k.inRound (played s.playerRounds id) = k.among s.pastFights id
  deaths : ∀ id : PlayerId,
    totalCount (·.deaths) (played s.playerRounds id) + (if s.round.isOpen then s.deathsIn id else 0) = told id
  /-- Whoever killed in the round is on its roster, -/
  fighter : ∀ g ∈ s.gunfights, g.round = s.round.number → (s.round.roster.get? g.killer.id).isSome = true
  /-- and so is whoever died in it. -/
  dead : s.round.isOpen = true → ∀ {id : PlayerId}, s.deathsIn id ≠ 0 → (s.round.roster.get? id).isSome = true

/-- All rounds have their records, and these agree with all gunfights and all deaths. -/
structure Settled (s : MatchState) (told : PlayerId → Nat) : Prop extends Tallied s told where
  rounds : ∀ r ∈ s.playerRounds, r.round ≤ s.round.number
  kills : ∀ (k : Counter) (id : PlayerId),
    totalCount k.inRound (played s.playerRounds id) = k.among s.gunfights id
  deaths : ∀ id : PlayerId, totalCount (·.deaths) (played s.playerRounds id) = told id

variable {s s' : MatchState} {told : PlayerId → Nat}

theorem Tallied.among_stranger (h : Tallied s told) {id : PlayerId} (hk : s.players.contains id = false)
    (k : Counter) : k.among s.gunfights id = 0 := by
  refine List.countP_eq_zero.2 (fun g hg hc => ?_)
  simp only [Bool.and_eq_true, decide_eq_true_eq] at hc
  have := h.killer g hg
  rw [hc.1, hk] at this
  cases this

theorem Tallied.tallyOf_stranger (h : Tallied s told) {id : PlayerId} (hk : s.players.contains id = false) :
    s.tallyOf told id = (0, 0, 0, 0) := by
  simp only [tallyOf, h.among_stranger hk, h.stranger hk]

namespace Balanced

/-- **The balance is kept** when no kill is entered and no round closed, and the deaths told, tallied and counted in
the round grow alike. -/
theorem grow (h : Balanced s told) (d : PlayerId → Nat) (hg : s'.gunfights = s.gunfights)
    (hr : s'.playerRounds = s.playerRounds) (hn : s'.round.number = s.round.number)
    (ho : s'.round.isOpen = s.round.isOpen)
    (hroster : ∀ id, (s.round.roster.get? id).isSome = true → (s'.round.roster.get? id).isSome = true)
    (hp : ∀ id, s.players.contains id = true → s'.players.contains id = true)
    (ht : ∀ id p, s'.players.get? id = some p → p.tallies = s.tallyOf (fun i => told i + d i) id)
    (hd : ∀ id, s'.deathsIn id = s.deathsIn id + d id)
    (hin : ∀ id, d id ≠ 0 → s.round.isOpen = true ∧ s.players.contains id = true ∧
      (s.round.roster.get? id).isSome = true) : Balanced s' (fun i => told i + d i) where
  range g hm := by
    rw [hg] at hm
    rw [hn]
    exact h.range g hm
  killer g hm := hp _ (h.killer g (hg ▸ hm))
  tally {id p} hi := by
    rw [tallyOf, hg]
    exact ht id p hi
  stranger {id} hi := by
    have hs : s.players.contains id = false := by
      refine Bool.eq_false_iff.2 (fun hc => ?_)
      rw [hp id hc] at hi
      cases hi
    have hz : d id = 0 := by
      refine Decidable.byContradiction (fun hne => ?_)
      rw [(hin id hne).2.1] at hs
      cases hs
    show told id + d id = 0
    rw [h.stranger hs, hz]
  rounds r hm := by
    rw [hn]
    exact h.rounds r (hr ▸ hm)
  kills k id := by
    rw [hr, pastFights, hg, hn]
    exact h.kills k id
  deaths id := by
    have hb := h.deaths id
    show _ = told id + d id
    rw [hr, ho, hd, ← hb]
    by_cases hz : d id = 0
    · rw [hz, Nat.add_zero, Nat.add_zero]
    · rw [(hin id hz).1, if_pos rfl, if_pos rfl, Nat.add_assoc]
  fighter g hm he := hroster _ (h.fighter g (hg ▸ hm) (hn ▸ he))
  dead ho' {id} hi := by
    refine hroster id ?_
    by_cases hz : d id = 0
    · rw [hd, hz, Nat.add_zero] at hi
      exact h.dead (ho ▸ ho') hi
    · exact (hin id hz).2.2

theorem frame (h : Balanced s told) (hg : s'.gunfights = s.gunfights) (hr : s'.playerRounds = s.playerRounds)
    (hn : s'.round.number = s.round.number) (ho : s'.round.isOpen = s.round.isOpen)
    (hroster : ∀ id, (s.round.roster.get? id).isSome = true → (s'.round.roster.get? id).isSome = true)
    (hp : ∀ id, s.players.contains id = true → s'.players.contains id = true)
    (ht : ∀ id p, s'.players.get? id = some p → p.tallies = s.tallyOf told id)
    (hd : ∀ id, s'.deathsIn id = s.deathsIn id) : Balanced s' told :=
  h.grow (fun _ => 0) hg hr hn ho hroster hp ht hd (fun _ hne => absurd rfl hne)

theorem same (h : Balanced s told) (hg : s'.gunfights = s.gunfights) (hr : s'.playerRounds = s.playerRounds)
    (hn : s'.round.number = s.round.number) (ho : s'.round.isOpen = s.round.isOpen)
    (hroster : s'.round.roster = s.round.roster)
    (hp : ∀ id, (s'.players.get? id).map Player.tallies = (s.players.get? id).map Player.tallies)
    (hc : ∀ id, (s'.conditions.get? id).map (·.deaths) = (s.conditions.get? id).map (·.deaths)) :
    Balanced s' told := by
  refine h.frame hg hr hn ho (fun id hi => by rw [hroster]; exact hi) (fun id hi => ?_) (fun id p hi => ?_)
    (fun id => by rw [deathsIn, hc, deathsIn])
  · have := congrArg Option.isSome (hp id)
    rw [Option.isSome_map, Option.isSome_map] at this
    exact this.trans hi
  · have hpi := hp id
    rw [hi] at hpi
    obtain ⟨q, hq, hqp⟩ := Option.map_eq_some_iff.1 hpi.symm
    rw [← hqp]
    exact h.tally hq

/-- **Seeing a player keeps the balance**: the tallies of a player who is registered now are empty, and the books
know nothing of the player. -/
theorem observe (h : Balanced s told) (a : Actor) : Balanced (s.observe a) told := by
  cases hs : a.allegiance.side? with
  | none =>
    rw [observe_spectator s hs]
    exact h.same rfl rfl rfl rfl rfl (fun _ => rfl) (fun _ => Table.map_get?_modify _ _ _ _ (fun _ => rfl))
  | some side =>
    refine h.frame (by simp) (by simp) (by simp) (by simp) (fun id hi => ?_) (fun id hi => ?_) (fun id p hi => ?_)
      (fun id => ?_)
    · rw [get?_roster_observe hs]
      split
      · rfl
      · exact hi
    · exact (contains_players_observe hs id).2 (.inr hi)
    · rw [get?_players_observe hs] at hi
      split at hi
      · next hid =>
        subst hid
        cases hp : s.players.get? a.id with
        | none =>
          rw [hp] at hi
          cases hi
          exact (h.tallyOf_stranger (by rw [Table.contains, hp]; rfl)).symm
        | some q =>
          rw [hp] at hi
          cases hi
          show q.tallies = s.tallyOf told a.id
          exact h.tally hp
      · exact h.tally hi
    · rw [deathsIn, get?_conditions_observe hs, deathsIn]
      split
      · next hid =>
        subst hid
        cases s.conditions.get? a.id <;> rfl
      · rfl

theorem observeOptional (h : Balanced s told) (a : Option Actor) : Balanced (s.observeOptional a) told := by
  cases a with
  | none => exact h
  | some a => exact h.observe a

theorem aside (h : Balanced s told) (hw : Aside s s') : Balanced s' told := by
  obtain ⟨_, _, _, _, _, rfl⟩ := hw
  exact h.same rfl rfl rfl rfl rfl (fun _ => rfl) (fun _ => rfl)

theorem recordLeave (h : Balanced s told) (id : PlayerId) (tick : Tick) :
    Balanced (s.recordExit id .disconnect tick) told :=
  h.same rfl rfl rfl rfl rfl (fun _ => Table.map_get?_modify _ _ _ _ (fun _ => rfl))
    (fun _ => Table.map_get?_modify _ _ _ _ (fun _ => rfl))

/-- **A death is told, tallied and counted in the round once.** -/
theorem recordDeath (h : Balanced s told) (hreg : Registered s) (ho : s.round.isOpen = true) {id : PlayerId}
    (hk : s.players.contains id = true) (hroster : (s.round.roster.get? id).isSome = true) {cause : ExitCause}
    (hc : cause.isDeath = true) (tick : Tick) :
    Balanced (s.recordExit id cause tick) (fun i => told i + if id = i then 1 else 0) := by
  refine h.grow (fun i => if id = i then 1 else 0) rfl rfl rfl rfl (fun _ hi => hi) (fun i hi => ?_)
    (fun i p hi => ?_) (fun i => ?_) (fun i hi => ?_)
  · rw [MatchState.recordExit, Table.contains_modify]
    exact hi
  · simp only [MatchState.recordExit, hc, if_true, Table.get?_modify] at hi
    split at hi
    · next hid =>
      obtain ⟨q, hq, hqp⟩ := Option.map_eq_some_iff.1 hi
      have ht := h.tally hq
      simp only [Player.tallies, tallyOf, Prod.mk.injEq] at ht
      rw [← hqp]
      simp [Player.tallies, tallyOf, hid, ht]
    · next hid =>
      rw [h.tally hi]
      simp [tallyOf, hid]
  · simp only [deathsIn, MatchState.recordExit, hc, if_true, Table.get?_modify]
    split
    · next hid =>
      obtain ⟨v, hv⟩ := Table.contains_iff.1 (hreg.present hk)
      rw [← hid, hv]
      rfl
    · rfl
  · have hid : id = i := by
      refine Decidable.byContradiction (fun hne => hi ?_)
      exact if_neg hne
    subst hid
    exact ⟨ho, hk, hroster⟩

theorem addGunfight (h : Balanced s told) (hs : s.course.Sound) (ho : s.round.isOpen = true) {g : Gunfight}
    (hround : g.round = s.round.number) (hk : s.players.contains g.killer.id = true)
    (hroster : (s.round.roster.get? g.killer.id).isSome = true) {players : Table PlayerId Player}
    {conditions : Table PlayerId Condition} (hp : ∀ id, players.contains id = s.players.contains id)
    (ht : ∀ id p, players.get? id = some p → p.tallies = (s.addGunfight g).tallyOf told id)
    (hc : ∀ id, (conditions.get? id).map (·.deaths) = (s.conditions.get? id).map (·.deaths)) :
    Balanced { s.addGunfight g with players, conditions } told := by
  have hd (id : PlayerId) : ({ s.addGunfight g with players, conditions } : MatchState).deathsIn id = s.deathsIn id := by
    rw [deathsIn, deathsIn]
    exact congrArg (Option.getD · 0) (hc id)
  have hmem {g' : Gunfight} (hm : g' ∈ s.gunfights ++ [g]) : g' ∈ s.gunfights ∨ g' = g :=
    (List.mem_append.1 hm).imp_right List.mem_singleton.1
  refine { range := fun g' hm => ?_, killer := fun g' hm => ?_, tally := fun {id p} hi => ht id p hi,
           stranger := fun {id} hi => h.stranger ((hp id).symm.trans hi), rounds := h.rounds,
           kills := fun k id => ?_, deaths := fun id => ?_, fighter := fun g' hm he => ?_,
           dead := fun ho' {id} hi => h.dead ho (hd id ▸ hi) }
  · rcases hmem hm with hm | rfl
    · exact h.range g' hm
    · exact ⟨hround.symm ▸ hs.opened (phase_of_isOpen s ho), Nat.le_of_eq hround⟩
  · rw [show ({ s.addGunfight g with players, conditions } : MatchState).players = players from rfl, hp]
    rcases hmem hm with hm | rfl
    · exact h.killer g' hm
    · exact hk
  · -- The gunfight is of the round in progress, and so not among those of the past.
    have hpast : ({ s.addGunfight g with players, conditions } : MatchState).pastFights = s.pastFights := by
      show (s.gunfights ++ [g]).filter (fun g' => g'.round < s.round.number) = _
      rw [List.filter_append, List.filter_cons_of_neg (by simp [hround]), List.filter_nil, List.append_nil]
      rfl
    rw [hpast]
    exact h.kills k id
  · rw [hd]
    exact h.deaths id
  · rcases hmem hm with hm | rfl
    · exact h.fighter g' hm he
    · exact hroster

/-- **A kill keeps the balance.**  Only the kill of an enemy is tallied, and only that of a teammate is a team
kill. -/
theorem enterGunfight (h : Balanced s told) (hs : s.course.Sound) (ho : s.round.isOpen = true) {killer : Actor}
    (hk : s.players.contains killer.id = true) (hroster : (s.round.roster.get? killer.id).isSome = true)
    (before : MatchState) (c : Config) (n : KillNotice) (victim : Actor) (weapon : Weapon) (tick : Tick) :
    Balanced (s.enterGunfight before c n killer victim weapon tick) told := by
  rcases enterGunfight_cases s before c n killer victim weapon tick with
    ⟨hteam, hg⟩ | ⟨hteam, s', flashAssister, hw, hg⟩ <;> rw [hg]
  · refine h.addGunfight (g := s.gunfightOf before c n killer victim weapon tick none) hs ho rfl hk hroster
      (fun _ => rfl) (fun id p hi => ?_) (fun _ => rfl)
    rw [h.tally hi]
    simp [tallyOf, MatchState.addGunfight, Counter.among_append, Counter.counts, gunfightOf, hteam]
  · have hb := h.aside hw.aside
    obtain ⟨flashes, pending, grenades, strayed, rfl, -⟩ := hw
    refine hb.addGunfight (g := gunfightOf _ before c n killer victim weapon tick flashAssister) hs ho rfl hk hroster
      (fun _ => Table.contains_modify _ _ _ _) (fun id p hi => ?_)
      (fun _ => Table.map_get?_modify _ _ _ _ (fun _ => rfl))
    rw [Table.get?_modify] at hi
    split at hi
    · next hid =>
      obtain ⟨q, hq, hqp⟩ := Option.map_eq_some_iff.1 hi
      have ht := h.tally hq
      simp only [Player.tallies, tallyOf, Prod.mk.injEq] at ht
      rw [← hqp]
      simp [Player.tallies, tallyOf, MatchState.addGunfight, Counter.among_append, Counter.counts, gunfightOf, hteam,
        hid, ht, combatant]
    · next hid =>
      rw [h.tally hi]
      simp [tallyOf, MatchState.addGunfight, Counter.among_append, gunfightOf, combatant, hid]

end Balanced

/-! ## Closing a round -/

theorem Tallied.asFought (h : Tallied s told)
    (hg : s'.gunfights.map Gunfight.asFought = s.gunfights.map Gunfight.asFought)
    (hn : s'.round.number = s.round.number) (hp : s'.players = s.players) : Tallied s' told where
  range g hm := by
    obtain ⟨b, hb, hbg⟩ := mem_of_map_eq hg hm
    have hr : b.round = g.round := congrArg (·.round) hbg
    rw [← hr, hn]
    exact h.range b hb
  killer g hm := by
    obtain ⟨b, hb, hbg⟩ := mem_of_map_eq hg hm
    have hk : b.killer = g.killer := congrArg (·.killer) hbg
    rw [← hk, hp]
    exact h.killer b hb
  tally {id p} hi := by
    rw [h.tally (hp ▸ hi)]
    simp only [tallyOf, Counter.among_of_asFought _ hg]
  stranger hi := h.stranger (hp ▸ hi)

theorem Tallied.among_gunfights (h : Tallied s told) (k : Counter) (id : PlayerId) :
    k.among s.gunfights id = k.among s.pastFights id + k.among (s.gunfightsIn s.round.number) id := by
  have hround : s.gunfightsIn s.round.number = s.gunfights.filter (fun g => !decide (g.round < s.round.number)) := by
    refine List.filter_congr (fun g hg => ?_)
    have := (h.range g hg).2
    simp only [← decide_not, decide_eq_decide]
    omega
  rw [hround]
  exact List.countP_eq_countP_filter_add _ _ _

/-- **The new records of a round add to those of a player what the round was for the player**: nothing for whoever
was not on its roster. -/
theorem total_roundRecords (hreg : Registered s) (c : Config) {id : PlayerId} (f : PlayerRound → Nat) {n : Nat}
    (hin : ∀ p, p.id = id → f (s.playerRound c (s.facts c s.round.number) p) = n)
    (hout : s.round.roster.get? id = none → n = 0) : totalCount f (played (s.roundRecords c) id) = n := by
  rw [played_roundRecords (fun _ _ => hreg.own)]
  cases hr : s.round.roster.get? id with
  | none => exact (hout hr).symm
  | some side =>
    obtain ⟨p, hp⟩ := Table.contains_iff.1 (hreg.known hr)
    rw [hp]
    exact hin p (hreg.own hp)

namespace Balanced

theorem asFought (h : Balanced s told) (hg : s'.gunfights.map Gunfight.asFought = s.gunfights.map Gunfight.asFought)
    (hr : s'.playerRounds = s.playerRounds) (hround : s'.round = s.round) (hp : s'.players = s.players)
    (hc : s'.conditions = s.conditions) : Balanced s' told := by
  have hd (id : PlayerId) : s'.deathsIn id = s.deathsIn id := by rw [deathsIn, deathsIn, hc]
  have hpast : s'.pastFights.map Gunfight.asFought = s.pastFights.map Gunfight.asFought := by
    have hf (l : List Gunfight) : (l.filter (fun g => g.round < s.round.number)).map Gunfight.asFought =
        (l.map Gunfight.asFought).filter (fun g => g.round < s.round.number) := by
      rw [List.filter_map]
      rfl
    rw [pastFights, pastFights, hround, hf, hf, hg]
  refine { h.toTallied.asFought hg (by rw [hround]) hp with
           rounds := fun r hm => ?_, kills := fun k id => ?_, deaths := fun id => ?_, fighter := fun g hm he => ?_,
           dead := fun ho {id} hi => ?_ }
  · rw [hround]
    exact h.rounds r (hr ▸ hm)
  · rw [hr, Counter.among_of_asFought k hpast]
    exact h.kills k id
  · rw [hr, hround, hd]
    exact h.deaths id
  · obtain ⟨b, hb, hbg⟩ := mem_of_map_eq hg hm
    have hbr : b.round = g.round := congrArg (·.round) hbg
    have hbk : b.killer = g.killer := congrArg (·.killer) hbg
    rw [hround] at he ⊢
    rw [← hbk]
    exact h.fighter b hb (hbr.trans he)
  · rw [hround] at ho ⊢
    exact h.dead ho (hd id ▸ hi)

/-- **Closing a round brings its gunfights and its deaths into the records.** -/
theorem close (h : Balanced s told) (hreg : Registered s) (ho : s.round.isOpen = true) (c : Config) :
    Settled { s with playerRounds := s.playerRounds ++ s.roundRecords c } told := by
  refine { range := h.range, killer := h.killer, tally := h.tally, stranger := h.stranger, rounds := fun r hm => ?_,
           kills := fun k id => ?_, deaths := fun id => ?_ }
  · rcases List.mem_append.1 hm with hm | hm
    · exact Nat.le_of_lt (h.rounds r hm)
    · obtain ⟨p, -, rfl⟩ := List.mem_map.1 hm
      exact Nat.le_refl _
  · have hnew : totalCount k.inRound (played (s.roundRecords c) id) = k.among (s.gunfightsIn s.round.number) id := by
      refine total_roundRecords hreg c k.inRound (fun p hp => ?_) (fun hr => ?_)
      · rw [Counter.inRound_playerRound, hp]
        exact (List.mergeSort_perm _ _).countP_eq _
      · refine List.countP_eq_zero.2 (fun g hg hk => ?_)
        simp only [gunfightsIn, List.mem_filter, decide_eq_true_eq] at hg
        simp only [Bool.and_eq_true, decide_eq_true_eq] at hk
        have := h.fighter g hg.1 hg.2
        rw [hk.1, hr] at this
        cases this
    rw [played_append, totalCount_append, h.kills, hnew]
    exact (h.toTallied.among_gunfights k id).symm
  · have hnew : totalCount (·.deaths) (played (s.roundRecords c) id) = s.deathsIn id := by
      refine total_roundRecords hreg c (·.deaths) (fun p hp => ?_) (fun hr => ?_)
      · show ((s.conditions.get? p.id).getD {}).deaths = s.deathsIn id
        rw [hp, deathsIn]
        cases s.conditions.get? id <;> rfl
      · refine Decidable.byContradiction (fun hne => ?_)
        have := h.dead ho hne
        rw [hr] at this
        cases this
    have hb := h.deaths id
    rw [ho, if_pos rfl] at hb
    rw [played_append, totalCount_append, hnew]
    exact hb

theorem settled (h : Balanced s told) (hreg : Registered s) (hs : s.course.Sound) (c : Config) :
    Settled (s.settled c) told := by
  unfold MatchState.settled
  cases ho : s.round.isOpen with
  | false =>
    have hnumber := number_of_isOpen_eq_false s hs ho
    refine { h with rounds := fun r hr => Nat.le_of_lt (h.rounds r hr), kills := fun k id => ?_, deaths := fun id => ?_ }
    · have hnone : s.gunfightsIn s.round.number = [] := by
        refine List.filter_eq_nil_iff.2 (fun g hg => ?_)
        have := h.range g hg
        omega
      rw [if_neg (by simp), h.toTallied.among_gunfights, hnone]
      exact h.kills k id
    · have := h.deaths id
      rw [ho] at this
      exact this
  | true =>
    have hu : s.isUnsettled = true := by
      have hnumber := hs.opened (phase_of_isOpen s ho)
      have hnone : s.playerRounds.any (·.round = s.round.number) = false := by
        refine List.any_eq_false.2 (fun r hr he => ?_)
        have := h.rounds r hr
        simp only [decide_eq_true_eq] at he
        omega
      have hne : s.round.number ≠ 0 := Nat.ne_of_gt hnumber
      simp [isUnsettled, hne, hnone]
    rw [if_pos rfl, closeRound_eq, if_pos hu]
    obtain ⟨gunfights, damages, grenades, hsettle, hg, -⟩ := settleRecords_eq s c s.round.number
    rw [hsettle]
    have hb : Balanced { s with gunfights, damages, grenades } told := h.asFought hg rfl rfl rfl rfl
    exact hb.close (hreg.frame (fun _ => rfl) (fun _ => rfl) rfl rfl rfl) ho c

end Balanced

/-! ## Starting a round, and starting over -/

theorem Settled.opened (h : Settled s told) (tick : Tick) : Balanced (s.opened tick) told := by
  have hd (id : PlayerId) : (s.opened tick).deathsIn id = 0 := by
    show (((s.conditions.mapValues (fun _ c => c.atRoundStart)).get? id).map (·.deaths)).getD 0 = 0
    rw [Table.get?_mapValues]
    cases s.conditions.get? id <;> rfl
  have hpast : (s.opened tick).pastFights = s.gunfights := by
    refine List.filter_eq_self.2 (fun g hg => ?_)
    exact decide_eq_true (Nat.lt_succ_of_le (h.range g hg).2)
  refine { range := fun g hg => ⟨(h.range g hg).1, Nat.le_succ_of_le (h.range g hg).2⟩, killer := h.killer,
           tally := h.tally, stranger := h.stranger, rounds := fun r hr => Nat.lt_succ_of_le (h.rounds r hr),
           kills := fun k id => ?_, deaths := fun id => ?_, fighter := fun g hg he => ?_,
           dead := fun _ {id} hi => absurd (hd id) hi }
  · rw [hpast]
    exact h.kills k id
  · rw [hd, ite_self, Nat.add_zero]
    exact h.deaths id
  · have hle := (h.range g hg).2
    have he : g.round = s.round.number + 1 := he
    omega

theorem Balanced.new (header : Header) (c : Config) : Balanced (MatchState.new header c) (fun _ => 0) where
  range g hg := by cases hg
  killer g hg := by cases hg
  tally h := by cases h
  stranger _ := rfl
  rounds r hr := by cases hr
  kills k id := rfl
  deaths id := rfl
  fighter g hg := by cases hg
  dead _ _ hi := absurd rfl hi

theorem Balanced.restart (h : Balanced s told) :
    Balanced s.restart (fun id => if s.isUntouched then told id else 0) := by
  unfold MatchState.restart isUntouched
  split
  · exact h
  · refine { range := fun g hg => (by cases hg), killer := fun g hg => (by cases hg), tally := fun {id p} hi => ?_,
             stranger := fun _ => rfl, rounds := fun r hr => (by cases hr), kills := fun _ _ => rfl,
             deaths := fun _ => rfl, fighter := fun g hg => (by cases hg), dead := fun ho => (by cases ho) }
    rw [Table.get?_mapValues] at hi
    obtain ⟨q, -, rfl⟩ := Option.map_eq_some_iff.1 hi
    rfl

/-! ## Events and streams -/

theorem tellDeaths_of_none {e : Event} (hv : e.victim? = none ∨ s.round.isOpen = false) (hm : e ≠ .matchStart) :
    s.tellDeaths told e = told := by
  funext id
  cases e with
  | matchStart => exact absurd rfl hm
  | kill n => rcases hv with hv | ho <;> simp [tellDeaths, *]
  | _ => simp [tellDeaths, Event.victim?]

theorem tellDeaths_kill (ho : s.round.isOpen = true) {n : KillNotice} {victim : Actor} (hv : n.victim = some victim) :
    s.tellDeaths told (.kill n) = fun id => told id + if victim.id = id then 1 else 0 := by
  funext id
  simp [tellDeaths, ho, Event.victim?, hv]

/-- What the books of a match keep. -/
structure Booked (s : MatchState) (told : PlayerId → Nat) : Prop where
  registered : Registered s
  sound : s.course.Sound
  balanced : Balanced s told

theorem Booked.recordDeath (h : Booked s told) (ho : s.round.isOpen = true) {n : KillNotice} {victim : Actor}
    (hv : n.victim = some victim) (hside : victim.allegiance.side?.isSome = true) {cause : ExitCause}
    (hc : cause.isDeath = true) (tick : Tick) :
    Balanced (s.recordDeath victim cause tick) (s.tellDeaths told (.kill n)) := by
  obtain ⟨side, hside⟩ := Option.isSome_iff_exists.1 hside
  have hk : (s.observe victim).players.contains victim.id = true :=
    (contains_players_observe hside victim.id).2 (.inl rfl)
  have hroster : ((s.observe victim).round.roster.get? victim.id).isSome = true := by
    rw [get?_roster_observe hside, if_pos ⟨ho, rfl⟩]
    rfl
  rw [tellDeaths_kill ho hv]
  exact (h.balanced.observe victim).recordDeath (h.registered.observe victim) ((observe_isOpen s victim).trans ho) hk
    hroster hc tick

/-- **Every answer of a match to a kill between players, and to anything else, keeps the balance.** -/
theorem Answer.balanced {c : Config} {tick : Tick} {e : Event} {step : Step MatchState} (ha : Answer c s tick e step)
    (h : Booked s told) (hside : ∀ a ∈ e.combatants, a.allegiance.side?.isSome = true) (hm : e ≠ .matchStart) :
    Balanced step.state (s.tellDeaths told e) := by
  have hb := h.balanced
  have quiet {s' : MatchState} (hb : Balanced s' told) (hv : e.victim? = none) :
      Balanced s' (s.tellDeaths told e) := by
    rw [tellDeaths_of_none (.inl hv) hm]
    exact hb
  cases ha with
  | passed _ hv =>
    rw [tellDeaths_of_none hv hm]
    exact hb
  | idle hv => exact quiet hb hv
  | restarted => exact absurd rfl hm
  | begun => exact quiet ((hb.settled h.registered h.sound c).opened tick) rfl
  | thawed hl =>
    refine quiet ?_ rfl
    unfold recordFreezeEnd
    rw [if_pos hl]
    exact hb.same rfl rfl rfl rfl rfl (fun _ => rfl) (fun _ => rfl)
  | decided hl =>
    refine quiet ?_ rfl
    rw [decideRound_eq]
    have ho : s.round.isOpen = true := by rw [Round.isOpen, hl]; rfl
    exact hb.same rfl rfl rfl ho.symm rfl (fun _ => rfl) (fun _ => rfl)
  | @died n victim cause _ ho hv _ hc =>
    refine h.recordDeath ho hv (hside victim ?_) ?_ tick
    · simp [Event.combatants, hv]
    · rcases hc with rfl | rfl <;> rfl
  | @weaponless n killer victim ho _ hv =>
    exact h.recordDeath ho hv (hside victim (by simp [Event.combatants, hv])) rfl tick
  | @killed n killer victim weapon ho hk hv =>
    obtain ⟨side, hkiller⟩ := Option.isSome_iff_exists.1 (hside killer (by simp [Event.combatants, hk]))
    have hd : Balanced (s.recordDeath victim (.killed killer.id) tick) (s.tellDeaths told (.kill n)) :=
      h.recordDeath ho hv (hside victim (by simp [Event.combatants, hv])) rfl tick
    have ho' : (s.recordDeath victim (.killed killer.id) tick).round.isOpen = true :=
      (observe_isOpen s victim).trans ho
    refine (hd.observe killer).enterGunfight ?_ ((observe_isOpen _ killer).trans ho') ?_ ?_ s c n victim weapon tick
    · rw [course_observe]
      exact (course_observe s victim).symm ▸ h.sound
    · exact (contains_players_observe hkiller killer.id).2 (.inl rfl)
    · rw [get?_roster_observe hkiller, if_pos ⟨ho', rfl⟩]
      rfl
  | hit => exact quiet (((hb.observe _).observeOptional _).aside (aside_enterDamage _ _ _ _ _ _)) rfl
  | fired => exact quiet ((hb.aside (aside_fire s _ _ tick)).observe _) rfl
  | thrown => exact quiet (hb.aside (aside_bindThrow s _ _ _ _)) rfl
  | unseen _ he => exact quiet (hb.aside (aside_noteThrower s _ tick)) (Event.victim_of_detonation he)
  | detonated _ he => exact quiet (hb.aside (aside_recordGrenade s _ _ tick)) (Event.victim_of_detonation he)
  | flashMoved => exact quiet (hb.aside (flashWork_moveFlash s _ _ _).aside) rfl
  | flashUnseen =>
    exact quiet (hb.aside ((aside_noteThrower s _ tick).trans (flashWork_startFlash _ _ _ _ _ _).aside)) rfl
  | flashStarted =>
    exact quiet (hb.aside ((aside_recordGrenade s _ _ tick).trans (flashWork_startFlash _ _ _ _ _ _).aside)) rfl
  | @blinded n player =>
    have hn : Balanced (s.noteBlinded player.id) told :=
      hb.same rfl rfl rfl rfl rfl (fun _ => rfl) (fun _ => Table.map_get?_modify _ _ _ _ (fun _ => rfl))
    exact quiet (hn.aside (flashWork_placeBlinding _ _ _ _ _ _).aside) rfl
  | bombed _ he =>
    exact quiet ((hb.observeOptional _).same rfl rfl rfl rfl rfl (fun _ => rfl) (fun _ => rfl)) (Event.victim_of_bomb he)
  | shown he => exact quiet (hb.observe _) (Event.victim_of_shown he)
  | @left a =>
    have hl : Balanced (s.setConnected a.id false) told :=
      hb.same rfl rfl rfl rfl rfl (fun _ => Table.map_get?_modify _ _ _ _ (fun _ => rfl)) (fun _ => rfl)
    exact quiet (hl.recordLeave a.id tick) rfl
  | gone =>
    exact quiet (hb.same rfl rfl rfl rfl rfl (fun _ => Table.map_get?_modify _ _ _ _ (fun _ => rfl))
      (fun _ => Table.map_get?_modify _ _ _ _ (fun _ => rfl))) rfl

namespace Booked

theorem new (header : Header) (c : Config) : Booked (MatchState.new header c) (fun _ => 0) where
  registered := .new header c
  sound := .empty
  balanced := .new header c

theorem next (h : Booked s told) (c : Config) {e : TimedEvent}
    (hside : ∀ a ∈ e.event.combatants, a.allegiance.side?.isSome = true) :
    Booked (s.next c e) (s.tellDeaths told e.event) := by
  have hb : Balanced (respond c (s.advance e.tick) e.tick e.event).state (s.tellDeaths told e.event) := by
    have ha : Booked (s.advance e.tick) told :=
      ⟨h.registered.frame (fun _ => rfl) (fun _ => rfl) rfl rfl rfl, h.sound,
        h.balanced.same rfl rfl rfl rfl rfl (fun _ => rfl) (fun _ => rfl)⟩
    by_cases hm : e.event = .matchStart
    · rw [hm]
      exact ha.balanced.restart
    · exact (answer_respond c (s.advance e.tick) e.tick e.event).balanced ha hside hm
  exact ⟨(Registered.kept c).next h.registered e,
    (kept_of_course c .empty (fun hs hk => hk.step hs)).next h.sound e,
    hb.same rfl rfl rfl rfl rfl (fun _ => rfl) (fun _ => rfl)⟩

/-- **Every stream keeps the books**, with the deaths that it tells. -/
theorem foldl (c : Config) : ∀ (events : List TimedEvent) {s : MatchState} {told : PlayerId → Nat}, Booked s told →
    (∀ e ∈ events, ∀ a ∈ e.event.combatants, a.allegiance.side?.isSome = true) →
      Booked (events.foldl (MatchState.next c) s) (deathsTold c s told events)
  | [], _, _, h, _ => h
  | e :: events, _, _, h, hside =>
    foldl c events (h.next c (hside e List.mem_cons_self)) (fun e he => hside e (List.mem_cons_of_mem _ he))

end Booked

/-! ## The records of a match -/

namespace Settled

theorem tallies_closeMatch (h : Settled s told) :
    s.closeMatch.playerMatches.map PlayerMatch.tallies = s.players.values.map (fun p =>
      { player := p.id
        kills := Counter.kills.among s.gunfights p.id
        teamKills := Counter.teamKills.among s.gunfights p.id
        headshots := Counter.headshots.among s.gunfights p.id
        wallbangs := Counter.wallbangs.among s.gunfights p.id
        awpKills := Counter.awpKills.among s.gunfights p.id
        deaths := told p.id }) := by
  rw [MatchState.tallies_closeMatch]
  refine List.map_congr_left (fun p _ => ?_)
  have hk := fun k => h.kills k p.id
  rw [PlayerMatch.Tallies.total, ← hk .kills, ← hk .teamKills, ← hk .headshots, ← hk .wallbangs, ← hk .awpKills,
    ← h.deaths]
  rfl

theorem of_mem_closeMatch (h : Settled s told) {m : PlayerMatch} (hm : m ∈ s.closeMatch.playerMatches) :
    (∀ k : Counter, k.inMatch m = k.among s.gunfights m.player) ∧ m.deaths = told m.player := by
  have ht := List.mem_map_of_mem (f := PlayerMatch.tallies) hm
  rw [h.tallies_closeMatch] at ht
  obtain ⟨p, -, hp⟩ := List.mem_map.1 ht
  simp only [PlayerMatch.tallies, PlayerMatch.Tallies.mk.injEq] at hp
  obtain ⟨hid, hk, htk, hh, hw, ha, hd⟩ := hp
  rw [hid] at hk htk hh hw ha hd
  refine ⟨fun k => ?_, hd.symm⟩
  cases k with
  | kills => exact hk.symm
  | teamKills => exact htk.symm
  | headshots => exact hh.symm
  | wallbangs => exact hw.symm
  | awpKills => exact ha.symm

theorem of_mem_players (h : Settled s told) (hreg : Registered s) {q : Player} (hq : q ∈ s.players.values) :
    q.kills = Counter.kills.among s.gunfights q.id ∧ q.headshots = Counter.headshots.among s.gunfights q.id ∧
      q.wallbangs = Counter.wallbangs.among s.gunfights q.id ∧ q.deaths = told q.id := by
  obtain ⟨id, hi⟩ := Table.mem_values_iff.1 hq
  have ht := h.tally hi
  rw [← hreg.own hi] at ht
  simpa only [Player.tallies, tallyOf, Prod.mk.injEq] using ht

/-- **Every gunfight is a kill or a team kill of one player.** -/
theorem totalCount_closeMatch (h : Settled s told) (hreg : Registered s) :
    totalCount (fun m => m.kills + m.teamKills) s.closeMatch.playerMatches = s.gunfights.length := by
  have hids : s.players.values.map (·.id) = s.players.keys := by
    rw [Table.values, Table.keys, List.map_map]
    exact List.map_congr_left (fun e he => hreg.own (Table.mem_entries_iff.1 he))
  have hone (m : PlayerMatch) (hm : m ∈ s.closeMatch.playerMatches) :
      m.kills + m.teamKills = s.gunfights.countP (fun g => g.killer.id = m.player) := by
    have hk := (h.of_mem_closeMatch hm).1
    rw [Counter.countP_killer, ← hk .kills, ← hk .teamKills]
    rfl
  calc totalCount (fun m => m.kills + m.teamKills) s.closeMatch.playerMatches
      = totalCount (fun m => s.gunfights.countP (fun g => g.killer.id = m.player)) s.closeMatch.playerMatches :=
        totalCount_congr hone
    _ = totalCount (fun id => s.gunfights.countP (fun g => g.killer.id = id)) s.players.keys := by
        rw [← hids, ← map_player_closeMatch, totalCount_map]
    _ = s.gunfights.length := by
        refine totalCount_countP (Table.keys_nodup _) (fun g hg => ?_)
        refine Decidable.byContradiction (fun hn => ?_)
        have hk := h.killer g hg
        rw [Table.contains, Table.get?_eq_none_iff.2 hn] at hk
        cases hk

end Settled

/-- **The report of a match whose books are settled is one account.** -/
theorem Settled.accounts (h : Settled s told) (hreg : Registered s) (hm : s'.playerMatches = s.closeMatch.playerMatches)
    (hg : s'.gunfights = s.gunfights) (hp : s'.players = s.players) :
    (Report.ofState s').Accounts s'.players.values told where
  everyone := by
    show s'.playerMatches.map (·.player) = (s'.players.values.map _).map PlayerEntry.player
    rw [hm, hp, List.map_map]
    exact s.map_player_closeMatch
  won m hmem := by
    have hmem : m ∈ s'.playerMatches := hmem
    show ∀ k : Counter, k.inMatch m = k.among s'.gunfights m.player
    rw [hg]
    exact (h.of_mem_closeMatch (hm ▸ hmem)).1
  died m hmem := by
    have hmem : m ∈ s'.playerMatches := hmem
    exact (h.of_mem_closeMatch (hm ▸ hmem)).2
  running q hq := by
    show q.kills = Counter.kills.among s'.gunfights q.id ∧ q.headshots = Counter.headshots.among s'.gunfights q.id ∧
      q.wallbangs = Counter.wallbangs.among s'.gunfights q.id ∧ q.deaths = told q.id
    rw [hg]
    exact h.of_mem_players hreg (hp ▸ hq)
  total := by
    show totalCount _ s'.playerMatches = s'.gunfights.length
    rw [hm, hg]
    exact h.totalCount_closeMatch hreg

theorem records_closeState (s : MatchState) (c : Config) :
    (Processor.closeState s c).playerMatches = (s.settled c).closeMatch.playerMatches ∧
      (Processor.closeState s c).gunfights = (s.settled c).gunfights ∧
      (Processor.closeState s c).players = (s.settled c).players := by
  obtain ⟨_, hc⟩ := closeState_eq s c
  refine ⟨by simp only [Processor.closeState, settled], ?_, ?_⟩ <;> rw [hc]

end MatchState

namespace Processor

variable {header : Header} {config : Config} {p : Processor}

/-- **No kill and no death is lost.**  If everybody who kills or is killed in a stream is on a side, its report is one
account, and the deaths in it are those that the stream tells. -/
theorem kills_and_deaths_conserved (h : Fresh header config p) {events : List TimedEvent}
    (hside : ∀ e ∈ events, ∀ a ∈ e.event.combatants, a.allegiance.side?.isSome = true) :
    ∃ r, (p.run events).result = .ok r ∧ (p.after events).finalize.result = .ok r ∧
      r.Accounts (p.after events).finalize.processor.state.players.values
        (MatchState.deathsTold config (.new header config) (fun _ => 0) events) := by
  have hb := MatchState.Booked.foldl config events (.new header config) hside
  rw [← h.after_state] at hb
  have hs := hb.balanced.settled hb.registered hb.sound config
  obtain ⟨_, hf, -⟩ := finalize_ok (h.after_reports events) (h.after_finalized events)
  rw [h.after_config] at hf
  obtain ⟨hm, hg, hp⟩ := MatchState.records_closeState (p.after events).state config
  refine ⟨_, (h.run_ok events).1, by rw [hf], ?_⟩
  rw [hf]
  exact hs.accounts (hb.registered.settled config) hm hg hp

/-- Two kills, one of them after the end of its round, and a fall. -/
theorem kills_and_deaths_conserved_after_fall :
    ∃ r, (({ config := {}, state := MatchState.new { mapName := "de_dust2" } {} } : Processor).run
        [⟨0, .roundStart⟩,
         ⟨64, .kill { killer := some { id := 1, allegiance := .counterTerrorist }
                      victim := some { id := 2, allegiance := .terrorist }, weapon := some .awp }⟩,
         ⟨90, .roundEnd { winner := some .ct, reason := .ctWin }⟩,
         ⟨99, .kill { killer := some { id := 1, allegiance := .counterTerrorist }
                      victim := some { id := 3, allegiance := .terrorist }, weapon := some .awp }⟩,
         ⟨110, .kill { killer := none
                       victim := some { id := 1, allegiance := .counterTerrorist }, weapon := none }⟩]).result =
          .ok r ∧
      ∃ players told, r.Accounts players told ∧ told 1 = 1 ∧ told 2 = 1 ∧ told 3 = 1 := by
  have h : Fresh { mapName := "de_dust2" } {} _ := .default rfl
  refine (kills_and_deaths_conserved h ?_).imp (fun r hr => ⟨hr.1, _, _, hr.2.2, ?_, ?_, ?_⟩)
  · decide
  all_goals decide +kernel

end Processor

end Scorebook
