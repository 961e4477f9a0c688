import Scorebook.Proofs.Lookup
import Scorebook.Proofs.Stream
/-!
# Who the players are

A player is registered, labelled and known to the round in one go, when first seen on a side.  So whoever is
registered without a team came when nobody was labelled any more, and never gets one; and whoever is on the roster of
the round is there on the side of the player's team (`Registered`).
-/
namespace Scorebook

namespace Teams

/-- **Labelling a player changes nothing, or labels a player who had no label.** -/
theorem assign_cases (t : Teams) (id : PlayerId) (side : Side) :
    ((t.label? id = none → t.isFull = true) ∧ t.assign id side = t) ∨
      (t.label? id = none ∧ t.isFull = false ∧
        t.assign id side = { t with labels := t.labels.insert id (t.onSide side) }) := by
  unfold assign label? Table.contains
  cases hl : t.labels.get? id with
  | some team => exact .inl ⟨fun h => (by cases h), rfl⟩
  | none =>
    cases hf : t.isFull with
    | true => exact .inl ⟨fun _ => rfl, rfl⟩
    | false => exact .inr ⟨rfl, rfl, rfl⟩

theorem labels_applySwap (t : Teams) : t.applySwap.labels = t.labels := by
  unfold applySwap
  split <;> rfl

end Teams

theorem Player.id_seen {a : Actor} {p : Option Player} (h : ∀ q ∈ p, q.id = a.id) : (Player.seen a p).id = a.id := by
  cases p with
  | none => rfl
  | some q => exact h q rfl

namespace MatchState

/-! ## What seeing a player does -/

section Seen

variable {s : MatchState} {a : Actor} {side : Side}

theorem get?_players_observe (h : a.allegiance.side? = some side) (id : PlayerId) :
    (s.observe a).players.get? id =
      if a.id = id then some (Player.seen a (s.players.get? a.id)) else s.players.get? id := by
  rw [observe_player s h]
  exact Table.get?_update _ _ _ _

theorem contains_players_observe (h : a.allegiance.side? = some side) (id : PlayerId) :
    (s.observe a).players.contains id = true ↔ a.id = id ∨ s.players.contains id = true := by
  rw [Table.contains, get?_players_observe h, Table.contains]
  split
  · next hid => simp [hid]
  · next hid => simp [hid]

theorem get?_conditions_observe (h : a.allegiance.side? = some side) (id : PlayerId) :
    (s.observe a).conditions.get? id =
      if a.id = id then some (((s.conditions.get? a.id).getD (s.newcomer a)).refresh a)
      else s.conditions.get? id := by
  rw [observe_player s h]
  exact Table.get?_insert _ _ _ _

theorem get?_roster_observe (h : a.allegiance.side? = some side) (id : PlayerId) :
    (s.observe a).round.roster.get? id =
      if s.round.isOpen = true ∧ a.id = id then
        some ((s.round.roster.get? a.id).getD (entrySide (s.observe a).teams a.id side))
      else s.round.roster.get? id := by
  rw [observe_player s h]
  cases ho : s.round.isOpen with
  | true =>
    simp only [true_and, if_true]
    exact Table.get?_insertNew _ _ _ _
  | false => simp

theorem teams_observe (h : a.allegiance.side? = some side) :
    (s.observe a).teams = s.teams.assign a.id side := by
  rw [observe_player s h]

theorem sideOf_observe (s : MatchState) (a : Actor) (team : Team) :
    (s.observe a).teams.sideOf team = s.teams.sideOf team := by
  cases team <;> simp [Teams.sideOf]

theorem contains_conditions_observe (h : a.allegiance.side? = some side) (id : PlayerId) :
    (s.observe a).conditions.contains id = true ↔ a.id = id ∨ s.conditions.contains id = true := by
  rw [Table.contains, get?_conditions_observe h, Table.contains]
  split
  · next hid => simp [hid]
  · next hid => simp [hid]

/-- **Seeing a player changes no label**, and gives one only to a player who has none while there are labels left. -/
theorem team?_observe_of_full {id : PlayerId} (h : s.team? id = none → s.teams.isFull = true) (a : Actor) :
    (s.observe a).team? id = s.team? id := by
  cases hs : a.allegiance.side? with
  | none =>
    rw [observe_spectator s hs]
    rfl
  | some side =>
    rw [team?, teams_observe hs, team?]
    rcases s.teams.assign_cases a.id side with ⟨-, ht⟩ | ⟨hn, hfull, ht⟩ <;> rw [ht]
    rw [Teams.label?, Table.get?_insert]
    split
    · next hid =>
      have := h (hid ▸ hn)
      rw [hfull] at this
      cases this
    · rfl

end Seen

/-! ## Sides and teams -/

theorem side?_of_team {s : MatchState} {id : PlayerId} {team : Team} (h : s.team? id = some team) :
    s.side? id = some (s.teams.sideOf team) := by
  rw [side?, h]

theorem of_mem_startingRoster {s : MatchState} {id : PlayerId} {side : Side}
    (h : s.startingRoster.get? id = some side) : s.players.contains id = true ∧ s.side? id = some side := by
  obtain ⟨⟨id', p⟩, he, hs⟩ := List.mem_filterMap.1 (Table.mem_of_get?_ofList h)
  split at hs
  · obtain ⟨sd, hsd, heq⟩ := Option.map_eq_some_iff.1 hs
    cases heq
    exact ⟨Table.contains_iff.2 ⟨p, Table.mem_entries_iff.1 he⟩, hsd⟩
  · cases hs

/-! ## The registry -/

/-- What holds of the players of a match. -/
structure Registered (s : MatchState) : Prop where
  /-- A player stands in the registry under the player's own id. -/
  own : ∀ {id : PlayerId} {p : Player}, s.players.get? id = some p → p.id = id
  present : ∀ {id : PlayerId}, s.players.contains id = true → s.conditions.contains id = true
  /-- A player without a team came when all were labelled. -/
  labelled : ∀ {id : PlayerId}, s.players.contains id = true → s.team? id = none → s.teams.isFull = true
  known : ∀ {id : PlayerId} {side : Side}, s.round.roster.get? id = some side → s.players.contains id = true
  /-- The side of a player in the round is that of the player's team. -/
  side : ∀ {id : PlayerId} {side : Side} {team : Team}, s.round.roster.get? id = some side →
    s.team? id = some team → side = s.teams.sideOf team

namespace Registered

variable {s s' : MatchState}

theorem new (header : Header) (c : Config) : Registered (MatchState.new header c) where
  own h := by cases h
  present h := by cases h
  labelled h := by cases h
  known h := by cases h
  side h := by cases h

theorem mono (h : Registered s)
    (hp : ∀ id, (s'.players.get? id).map Player.id = (s.players.get? id).map Player.id)
    (hc : ∀ id, s'.conditions.contains id = s.conditions.contains id) (hl : s'.teams.labels = s.teams.labels)
    (hr : ∀ id side, s'.round.roster.get? id = some side → s.players.contains id = true ∧
      ∀ team ∈ s.team? id, side = s'.teams.sideOf team) : Registered s' := by
  have hpc (id : PlayerId) : s'.players.contains id = s.players.contains id := by
    have := congrArg Option.isSome (hp id)
    rwa [Option.isSome_map, Option.isSome_map] at this
  have ht (id : PlayerId) : s'.team? id = s.team? id := by rw [team?, team?, Teams.label?, Teams.label?, hl]
  constructor
  · intro id p hg
    have hi := hp id
    rw [hg] at hi
    obtain ⟨q, hq, hqp⟩ := Option.map_eq_some_iff.1 hi.symm
    rw [← hqp]
    exact h.own hq
  · intro id hi
    rw [hpc] at hi
    rw [hc]
    exact h.present hi
  · intro id hi hn
    rw [hpc] at hi
    rw [ht] at hn
    rw [Teams.isFull, hl]
    exact h.labelled hi hn
  · intro id side hg
    rw [hpc]
    exact (hr id side hg).1
  · intro id side team hg hi
    rw [ht] at hi
    exact (hr id side hg).2 team hi

theorem frame (h : Registered s)
    (hp : ∀ id, (s'.players.get? id).map Player.id = (s.players.get? id).map Player.id)
    (hc : ∀ id, s'.conditions.contains id = s.conditions.contains id) (hl : s'.teams.labels = s.teams.labels)
    (ha : s'.teams.sideOfA = s.teams.sideOfA) (hr : s'.round.roster = s.round.roster) : Registered s' := by
  refine h.mono hp hc hl (fun id side hg => ?_)
  rw [hr] at hg
  refine ⟨h.known hg, fun team ht => (h.side hg ht).trans ?_⟩
  cases team <;> simp [Teams.sideOf, ha]

theorem team?_observe (h : Registered s) {id : PlayerId} (hk : s.players.contains id = true) (a : Actor) :
    (s.observe a).team? id = s.team? id :=
  team?_observe_of_full (h.labelled hk) a

/-- **A player who is seen is registered, labelled while there are labels, and on the roster of an open round.** -/
theorem observe (h : Registered s) (a : Actor) : Registered (s.observe a) := by
  cases hs : a.allegiance.side? with
  | none =>
    rw [observe_spectator s hs]
    exact h.frame (fun _ => rfl) (fun id => by simp) rfl rfl rfl
  | some side =>
    have hside {id : PlayerId} {sd : Side} {team : Team} (hg : s.round.roster.get? id = some sd)
        (ht : (s.observe a).team? id = some team) : sd = (s.observe a).teams.sideOf team := by
      rw [h.team?_observe (h.known hg)] at ht
      rw [sideOf_observe]
      exact h.side hg ht
    constructor
    · intro id p hg
      rw [get?_players_observe hs] at hg
      split at hg
      · next hid =>
        cases hg
        rw [← hid]
        exact Player.id_seen (fun q hq => h.own hq)
      · exact h.own hg
    · intro id hi
      rw [contains_players_observe hs] at hi
      rw [contains_conditions_observe hs]
      exact hi.imp_right h.present
    · intro id hi hn
      rw [contains_players_observe hs] at hi
      rw [team?, teams_observe hs] at hn
      rw [teams_observe hs]
      rcases s.teams.assign_cases a.id side with ⟨hfull, ht⟩ | ⟨-, hfull, ht⟩ <;> rw [ht] at hn ⊢
      · rcases hi with hid | hk
        · exact hfull (hid ▸ hn)
        · exact h.labelled hk hn
      · rw [Teams.label?, Table.get?_insert] at hn
        split at hn
        · cases hn
        · next hid =>
          have := h.labelled (hi.resolve_left hid) hn
          rw [hfull] at this
          cases this
    · intro id sd hg
      rw [contains_players_observe hs]
      rw [get?_roster_observe hs] at hg
      split at hg
      · next hid => exact .inl hid.2
      · exact .inr (h.known hg)
    · intro id sd team hg ht
      rw [get?_roster_observe hs] at hg
      split at hg
      · next hid =>
        cases hold : s.round.roster.get? a.id with
        | some old =>
          rw [hold] at hg
          cases hg
          exact hside hold (hid.2 ▸ ht)
        | none =>
          rw [hold] at hg
          cases hg
          rw [entrySide, hid.2, show (s.observe a).teams.label? id = some team from ht]
          rfl
      · exact hside hg ht

theorem observeOptional (h : Registered s) (a : Option Actor) : Registered (s.observeOptional a) := by
  cases a with
  | none => exact h
  | some a => exact h.observe a

theorem recordExit (h : Registered s) (id : PlayerId) (cause : ExitCause) (tick : Tick) :
    Registered (s.recordExit id cause tick) :=
  h.frame (fun _ => Table.map_get?_modify _ _ _ _ (fun _ => rfl)) (fun _ => Table.contains_modify _ _ _ _)
    rfl rfl rfl

theorem aside (h : Registered s) (hw : Aside s s') : Registered s' := by
  obtain ⟨_, _, _, _, _, rfl⟩ := hw
  exact h.frame (fun _ => rfl) (fun _ => rfl) rfl rfl rfl

theorem enterGunfight (h : Registered s) (before : MatchState) (c : Config) (n : KillNotice) (killer victim : Actor)
    (weapon : Weapon) (tick : Tick) : Registered (s.enterGunfight before c n killer victim weapon tick) := by
  rcases enterGunfight_cases s before c n killer victim weapon tick with ⟨-, hg⟩ | ⟨-, s', flashAssister, hw, hg⟩ <;>
    rw [hg]
  · exact h.frame (fun _ => rfl) (fun _ => rfl) rfl rfl rfl
  · exact (h.aside hw.aside).frame (fun _ => Table.map_get?_modify _ _ _ _ (fun _ => rfl))
      (fun _ => Table.contains_modify _ _ _ _) rfl rfl rfl

theorem opened (h : Registered s) (tick : Tick) : Registered (s.opened tick) := by
  have hl : s.teams.applySwap.labels = s.teams.labels := s.teams.labels_applySwap
  refine h.mono (fun _ => rfl) (fun id => ?_) hl (fun id side hg => ?_)
  · rw [Table.contains, Table.contains]
    simp [MatchState.opened, beginRound, addMark]
  · obtain ⟨hk, hs⟩ := of_mem_startingRoster hg
    have hside {s' : MatchState} (hts : s'.teams = s.teams.applySwap) (hs' : s'.side? id = some side) :
        ∀ team ∈ s.team? id, side = s.teams.applySwap.sideOf team := by
      intro team ht
      have ht' : s'.team? id = some team := by
        rw [team?, hts, Teams.label?, hl]
        exact ht
      rw [side?_of_team ht', hts] at hs'
      exact (Option.some.inj hs').symm
    exact ⟨hk, hside rfl hs⟩

theorem restart (h : Registered s) : Registered s.restart := by
  unfold MatchState.restart
  split
  · exact h
  · refine h.mono (fun id => ?_) (fun _ => rfl) rfl (fun id side hg => (by cases hg))
    simp [Option.map_map, Function.comp_def]

theorem settled (h : Registered s) (c : Config) : Registered (s.settled c) := by
  obtain ⟨_, _, _, _, hs, -⟩ := settled_eq s c
  rw [hs]
  exact h.frame (fun _ => rfl) (fun _ => rfl) rfl rfl rfl

theorem closeState (h : Registered s) (c : Config) : Registered (Processor.closeState s c) := by
  obtain ⟨_, hs⟩ := closeState_eq s c
  rw [hs]
  exact (h.settled c).frame (fun _ => rfl) (fun _ => rfl) rfl rfl rfl

theorem answer {c : Config} {tick : Tick} {e : Event} {step : Step MatchState} (h : Registered s)
    (ha : Answer c s tick e step) : Registered step.state := by
  have same {t t' : MatchState} (h : Registered t) (hp : t'.players = t.players)
      (hc : t'.conditions = t.conditions) (hl : t'.teams.labels = t.teams.labels)
      (hA : t'.teams.sideOfA = t.teams.sideOfA) (hr : t'.round.roster = t.round.roster) : Registered t' :=
    h.frame (fun _ => by rw [hp]) (fun _ => by rw [hc]) hl hA hr
  cases ha with
  | passed | idle => exact h
  | restarted => exact h.restart
  | begun => exact (h.settled c).opened tick
  | thawed hl =>
    unfold recordFreezeEnd
    rw [if_pos hl]
    exact same h rfl rfl rfl rfl rfl
  | @decided n =>
    obtain ⟨hl, hA⟩ := scored_keeps s n
    rw [decideRound_eq]
    exact same h rfl rfl hl hA rfl
  | died => exact (h.observe _).recordExit _ _ tick
  | weaponless => exact (h.observe _).recordExit _ _ tick
  | killed => exact (((h.observe _).recordExit _ _ tick).observe _).enterGunfight _ c _ _ _ _ tick
  | hit => exact ((h.observe _).observeOptional _).aside (aside_enterDamage _ _ _ _ _ _)
  | fired => exact (h.aside (aside_fire s _ _ tick)).observe _
  | thrown => exact h.aside (aside_bindThrow s _ _ _ _)
  | unseen => exact h.aside (aside_noteThrower s _ tick)
  | detonated => exact h.aside (aside_recordGrenade s _ _ tick)
  | flashMoved => exact h.aside (flashWork_moveFlash s _ _ _).aside
  | flashUnseen => exact h.aside ((aside_noteThrower s _ tick).trans (flashWork_startFlash _ _ _ _ _ _).aside)
  | flashStarted => exact h.aside ((aside_recordGrenade s _ _ tick).trans (flashWork_startFlash _ _ _ _ _ _).aside)
  | @blinded n player =>
    have hb : Registered (s.noteBlinded player.id) :=
      h.frame (fun _ => rfl) (fun _ => Table.contains_modify _ _ _ _) rfl rfl rfl
    exact hb.aside (flashWork_placeBlinding _ _ _ _ _ _).aside
  | bombed => exact same (h.observeOptional _) rfl rfl rfl rfl rfl
  | shown => exact h.observe _
  | @left a =>
    have hl : Registered (s.setConnected a.id false) :=
      h.frame (fun _ => Table.map_get?_modify _ _ _ _ (fun _ => rfl)) (fun _ => rfl) rfl rfl rfl
    exact hl.recordExit _ _ tick
  | gone =>
    exact h.frame (fun _ => Table.map_get?_modify _ _ _ _ (fun _ => rfl)) (fun _ => Table.contains_modify _ _ _ _)
      rfl rfl rfl

theorem kept (c : Config) : Kept c Registered where
  clock _ _ h := h.frame (fun _ => rfl) (fun _ => rfl) rfl rfl rfl
  sights _ _ h := h.frame (fun _ => rfl) (fun _ => rfl) rfl rfl rfl
  answer ha h := h.answer ha

end Registered

end MatchState

end Scorebook
