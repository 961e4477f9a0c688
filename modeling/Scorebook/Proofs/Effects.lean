import Scorebook.Proofs.Response
/-!
# What each operation leaves alone

An operation of a match changes a few of its parts.  Seeing a player changes the registry: who is known, labelled
and on the roster.  Flashes change their table and the grenade records, and of a record never the throw
(`FlashWork`).  Closing a round works out what is open of its records, and of a record never what was known
before (`closeRound_eq`).
-/
namespace Scorebook

/-! ## What of a record is final -/

def Grenade.thrown (g : Grenade) : Throw where
  thrower := g.thrower
  throwerName := g.throwerName
  throwerTeam := g.throwerTeam
  throwerSide := g.throwerSide
  kind := g.kind
  round := g.round
  tick := g.throwTick
  roundTime := g.roundTime
  position := g.throwPosition
  aim := g.aim
  movement := g.movement

/-- What of a grenade record is final when it is entered: the projectile and the throw. -/
def Grenade.origin (g : Grenade) : EntityId × Throw := (g.entity, g.thrown)

/-- A gunfight without what is worked out when its round closes: the damage assist and the impact. -/
def Gunfight.asFought (g : Gunfight) : Gunfight :=
  { g with
    assister := none
    impactContext := .standard
    killerImpact := 0
    victimImpact := 0
    assistImpact := 0
    flashAssistImpact := 0 }

/-- A damage without the grenade behind it, which is found when its round closes. -/
def Damage.asDealt (d : Damage) : Damage := { d with grenade := none }

theorem map_modify_of_fixed {α β : Type} (h : α → β) (f : α → α) (hf : ∀ a, h (f a) = h a) :
    ∀ (l : List α) (i : Nat), (l.modify i f).map h = l.map h
  | [], i => by cases i <;> rfl
  | a :: l, 0 => by rw [List.modify_zero_cons, List.map_cons, List.map_cons, hf]
  | a :: l, i + 1 => by
    rw [List.modify_succ_cons, List.map_cons, List.map_cons, map_modify_of_fixed h f hf l i]

theorem mem_of_map_eq {α β : Type} {h : α → β} {l l' : List α} (he : l'.map h = l.map h) {a : α} (ha : a ∈ l') :
    ∃ b ∈ l, h b = h a := by
  have : h a ∈ l.map h := he ▸ List.mem_map_of_mem ha
  obtain ⟨b, hb, hba⟩ := List.mem_map.1 this
  exact ⟨b, hb, hba⟩

theorem countP_of_map_eq {α β : Type} {h : α → β} {p : α → Bool} (q : β → Bool) (hq : ∀ a, p a = q (h a))
    {l l' : List α} (he : l'.map h = l.map h) : l'.countP p = l.countP p := by
  have hc : p = q ∘ h := funext hq
  rw [hc, ← List.countP_map, ← List.countP_map, he]

namespace MatchState

variable (s : MatchState)

/-! ## Seeing a player -/

theorem observe_spectator {a : Actor} (h : a.allegiance.side? = none) :
    s.observe a =
      { s with conditions := s.conditions.modify a.id (fun c => { c with allegiance := a.allegiance }) } := by
  unfold observe
  rw [h]

def entrySide (t : Teams) (id : PlayerId) (side : Side) : Side := ((t.label? id).map t.sideOf).getD side

theorem observe_player {a : Actor} {side : Side} (h : a.allegiance.side? = some side) :
    s.observe a =
      { s with
        players := s.players.update a.id (Player.seen a)
        teams := s.teams.assign a.id side
        conditions := s.conditions.insert a.id (((s.conditions.get? a.id).getD (s.newcomer a)).refresh a)
        round := { s.round with
          roster :=
            if s.round.isOpen then
              s.round.roster.insertNew a.id (entrySide (s.teams.assign a.id side) a.id side)
            else s.round.roster } } := by
  unfold observe enroll
  rw [h]
  simp only
  split <;> rfl

theorem assign_eq (t : Teams) (id : PlayerId) (side : Side) :
    t.assign id side = { t with labels := (t.assign id side).labels } := by
  unfold Teams.assign
  split <;> rfl

/-- **Seeing a player changes the registry and the roster only.** -/
theorem observe_eq (a : Actor) :
    s.observe a =
      { s with
        players := (s.observe a).players
        conditions := (s.observe a).conditions
        teams := { s.teams with labels := (s.observe a).teams.labels }
        round := { s.round with roster := (s.observe a).round.roster } } := by
  cases h : a.allegiance.side? with
  | none => rw [observe_spectator s h]
  | some side =>
    rw [observe_player s h]
    congr 1
    exact assign_eq s.teams a.id side

variable (a : Actor)

@[simp] theorem observe_number : (s.observe a).round.number = s.round.number := by rw [observe_eq]
@[simp] theorem observe_phase : (s.observe a).round.phase = s.round.phase := by rw [observe_eq]
@[simp] theorem observe_exits : (s.observe a).round.exits = s.round.exits := by rw [observe_eq]
@[simp] theorem observe_isOpen : (s.observe a).round.isOpen = s.round.isOpen := by rw [observe_eq]; rfl
@[simp] theorem observe_sideOfA : (s.observe a).teams.sideOfA = s.teams.sideOfA := by rw [observe_eq]
@[simp] theorem observe_gunfights : (s.observe a).gunfights = s.gunfights := by rw [observe_eq]
@[simp] theorem observe_grenades : (s.observe a).grenades = s.grenades := by rw [observe_eq]
@[simp] theorem observe_playerRounds : (s.observe a).playerRounds = s.playerRounds := by rw [observe_eq]
@[simp] theorem observe_tables : (s.observe a).tables = s.tables := by rw [observe_eq]
@[simp] theorem observe_strayed : (s.observe a).strayed = s.strayed := by rw [observe_eq]

/-! ## Flashes -/

/-- What flashes do to a match: their table changes, and the blindings that wait, and of the grenade records
everything but the throws. -/
def FlashWork (s s' : MatchState) : Prop :=
  ∃ flashes pending grenades strayed,
    s' = { s with tables := { s.tables with flashes, pendingBlindings := pending }, grenades, strayed } ∧
      grenades.map Grenade.origin = s.grenades.map Grenade.origin

theorem FlashWork.refl (s : MatchState) : FlashWork s s := ⟨_, _, _, _, rfl, rfl⟩

theorem FlashWork.trans {s s' s'' : MatchState} (h : FlashWork s s') (h' : FlashWork s' s'') : FlashWork s s'' := by
  obtain ⟨_, _, _, _, rfl, hg⟩ := h
  obtain ⟨flashes, pending, grenades, strayed, rfl, hg'⟩ := h'
  exact ⟨flashes, pending, grenades, strayed, rfl, hg'.trans hg⟩

theorem FlashWork.foldl {α : Type} {f : MatchState → α → MatchState} (hf : ∀ s a, FlashWork s (f s a)) :
    ∀ (l : List α) (s : MatchState), FlashWork s (l.foldl f s)
  | [], s => .refl s
  | a :: l, s => (hf s a).trans (FlashWork.foldl hf l (f s a))

theorem flashWork_modifyGrenade (place : Option Nat) {f : Grenade → Grenade} (hf : ∀ g, (f g).origin = g.origin) :
    FlashWork s (s.modifyGrenade place f) := by
  unfold modifyGrenade
  split
  · split
    · exact ⟨_, _, _, _, rfl, map_modify_of_fixed _ f hf _ _⟩
    · exact ⟨_, _, _, _, rfl, rfl⟩
  · exact .refl s

theorem flashWork_setFlash (effect : FlashEffect) : FlashWork s (s.setFlash effect) := ⟨_, _, _, _, rfl, rfl⟩

theorem origin_addBlinding (g : Grenade) (isEnemy : Bool) (duration : Float) :
    (g.addBlinding isEnemy duration).origin = g.origin := by
  unfold Grenade.addBlinding
  split <;> rfl

theorem flashWork_attachBlinding (entity : EntityId) (player : PlayerId) (duration : Float) :
    FlashWork s (s.attachBlinding entity player duration) := by
  unfold attachBlinding
  split
  · exact .refl s
  · split
    · exact .refl s
    · exact (flashWork_setFlash s _).trans
        (flashWork_modifyGrenade _ _ (fun g => origin_addBlinding g _ _))

theorem flashWork_placeBlinding (m : FlashMatching) (player thrower : PlayerId) (tick : Tick) (duration : Float) :
    FlashWork s (s.placeBlinding m player thrower tick duration) := by
  unfold placeBlinding
  split
  · exact flashWork_attachBlinding s _ _ _
  · exact ⟨_, _, _, _, rfl, rfl⟩

theorem flashWork_moveFlash (effect : FlashEffect) (tick : Tick) (position : Vector3) :
    FlashWork s (s.moveFlash effect tick position) :=
  (flashWork_setFlash s _).trans (flashWork_modifyGrenade _ _ (fun _ => rfl))

theorem flashWork_startFlash (c : Config) (n : ProjectileNotice) (thrower : PlayerId) (tick : Tick)
    (place : Option Nat) : FlashWork s (s.startFlash c n thrower tick place) := by
  have hw (s : MatchState) (waiting : List PendingBlinding) :
      FlashWork s { s with tables := { s.tables with pendingBlindings := waiting } } := ⟨_, _, _, _, rfl, rfl⟩
  exact (flashWork_setFlash s _).trans ((hw _ _).trans
    (FlashWork.foldl (fun s p => flashWork_attachBlinding s _ _ _) _ _))

theorem flashWork_markFlashes (c : Config) (killer victim : PlayerId) (tick : Tick) :
    FlashWork s (s.markFlashes c killer victim tick) := by
  refine FlashWork.foldl (fun s h => flashWork_modifyGrenade s _ (fun g => ?_)) _ s
  split <;> rfl

/-! ## Grenades, shots and hits -/

theorem noteThrower_eq (n : ProjectileNotice) (tick : Tick) :
    s.noteThrower n tick =
      { s with tables := { s.tables with detonations := (s.noteThrower n tick).tables.detonations } } := by
  unfold noteThrower
  split <;> rfl

/-- What touches neither a player nor the round nor a kill: only damages, grenades and shots are entered, and only the
tables of the round change. -/
def Aside (s s' : MatchState) : Prop :=
  ∃ damages grenades shotsFired tables strayed, s' = { s with damages, grenades, shotsFired, tables, strayed }

theorem Aside.trans {s s' s'' : MatchState} (h : Aside s s') (h' : Aside s' s'') : Aside s s'' := by
  obtain ⟨_, _, _, _, _, rfl⟩ := h
  obtain ⟨damages, grenades, shotsFired, tables, strayed, rfl⟩ := h'
  exact ⟨damages, grenades, shotsFired, tables, strayed, rfl⟩

theorem FlashWork.aside {s s' : MatchState} (h : FlashWork s s') : Aside s s' := by
  obtain ⟨_, _, _, _, rfl, -⟩ := h
  exact ⟨_, _, _, _, _, rfl⟩

theorem aside_noteThrower (n : ProjectileNotice) (tick : Tick) : Aside s (s.noteThrower n tick) := by
  rw [noteThrower_eq]
  exact ⟨_, _, _, _, _, rfl⟩

theorem aside_recordGrenade (n : ProjectileNotice) (thrown : Throw) (tick : Tick) :
    Aside s (s.recordGrenade n thrown tick) := by
  unfold recordGrenade
  rw [noteThrower_eq]
  exact ⟨_, _, _, _, _, rfl⟩

theorem aside_fire (a : Actor) (w : Weapon) (tick : Tick) : Aside s (s.fire a w tick) := by
  unfold fire
  split
  · exact ⟨_, _, _, _, _, rfl⟩
  · split
    · exact ⟨_, _, _, _, _, rfl⟩
    · exact ⟨_, _, _, _, _, rfl⟩

theorem aside_bindThrow (entity : EntityId) (a : Actor) (kind : GrenadeKind) (tick : Tick) :
    Aside s (s.bindThrow entity a kind tick) := ⟨_, _, _, _, _, rfl⟩

theorem aside_enterDamage (n : HurtNotice) (victim : Actor) (weapon : Weapon) (taken : Int) (tick : Tick) :
    Aside s (s.enterDamage n victim weapon taken tick) := ⟨_, _, _, _, _, rfl⟩

/-! ## Gunfights -/

/-- **A kill marks flashes, enters its gunfight, and is tallied unless both players are on one side.** -/
theorem enterGunfight_cases (before : MatchState) (c : Config) (n : KillNotice) (killer victim : Actor)
    (weapon : Weapon) (tick : Tick) :
    (before.onOneSide killer victim = true ∧
      s.enterGunfight before c n killer victim weapon tick =
        s.addGunfight (s.gunfightOf before c n killer victim weapon tick none)) ∨
    (before.onOneSide killer victim = false ∧ ∃ (s' : MatchState) (flashAssister : Option PlayerId),
      FlashWork s s' ∧
        s.enterGunfight before c n killer victim weapon tick =
          (s'.addGunfight (s'.gunfightOf before c n killer victim weapon tick flashAssister)).tallyKill
            killer.id n.isHeadshot (0 < n.penetratedObjects)) := by
  unfold enterGunfight
  cases before.onOneSide killer victim with
  | true => exact .inl ⟨rfl, rfl⟩
  | false => exact .inr ⟨rfl, _, _, flashWork_markFlashes s c killer.id victim.id tick, rfl⟩

/-! ## Closing a round -/

theorem asFought_apply (clutches : List Clutch) (c : ImpactConfig) (g : Gunfight) :
    (Impact.apply clutches c g).asFought = g.asFought := by
  unfold Impact.apply
  split <;> rfl

theorem map_origin_creditGrenades (round : Nat) (c : Config) :
    (s.creditGrenades round c).grenades.map Grenade.origin = s.grenades.map Grenade.origin := by
  have hf (e : Grenade × Nat) :
      (if e.1.round = round then withCredit e.1 (((s.credits round c).get? e.2).getD {}) else e.1).origin =
        e.1.origin := by
    split <;> rfl
  calc (s.creditGrenades round c).grenades.map Grenade.origin
      = s.grenades.zipIdx.map (fun e => e.1.origin) := by
        simp only [creditGrenades, List.map_map, Function.comp_def, hf]
    _ = (s.grenades.zipIdx.map (·.1)).map Grenade.origin := by rw [List.map_map]; rfl
    _ = s.grenades.map Grenade.origin := by rw [List.zipIdx_map_fst]

/-- **Settling a round works out what is open of its records**, and changes nothing that was known of them. -/
theorem settleRecords_eq (c : Config) (round : Nat) :
    ∃ gunfights damages grenades,
      s.settleRecords c round = { s with gunfights, damages, grenades } ∧
        gunfights.map Gunfight.asFought = s.gunfights.map Gunfight.asFought ∧
        damages.map Damage.asDealt = s.damages.map Damage.asDealt ∧
        grenades.map Grenade.origin = s.grenades.map Grenade.origin := by
  refine ⟨_, _, _, rfl, ?_, ?_, ?_⟩
  · simp only [creditGrenades, List.map_map]
    refine List.map_congr_left (fun g _ => ?_)
    simp only [Function.comp_apply]
    split <;> split <;> first | rfl | exact asFought_apply _ _ _
  · simp only [creditGrenades, List.map_map]
    refine List.map_congr_left (fun d _ => ?_)
    simp only [Function.comp_apply]
    split <;> rfl
  · exact map_origin_creditGrenades _ round c

/-- Whether a round that ends now gets records. -/
def isUnsettled (s : MatchState) : Bool :=
  !(s.round.number = 0 || s.playerRounds.any (·.round = s.round.number))

def roundRecords (s : MatchState) (c : Config) : List PlayerRound :=
  s.players.values.map (s.playerRound c (s.facts c s.round.number))

theorem closeRound_eq (c : Config) :
    s.closeRound c =
      if s.isUnsettled then
        { s.settleRecords c s.round.number with
          playerRounds := s.playerRounds ++ (s.settleRecords c s.round.number).roundRecords c }
      else s := by
  obtain ⟨gunfights, damages, grenades, hs, -⟩ := settleRecords_eq s c s.round.number
  unfold closeRound isUnsettled roundRecords
  simp only [hs]
  cases decide (s.round.number = 0) || s.playerRounds.any (·.round = s.round.number) <;> rfl

def settled (s : MatchState) (c : Config) : MatchState := if s.round.isOpen then s.closeRound c else s

/-- **Closing what is in progress adds records for the players, and fills in what the other records left
open.** -/
theorem settled_eq (c : Config) :
    ∃ gunfights damages grenades playerRounds,
      s.settled c = { s with gunfights, damages, grenades, playerRounds } ∧
        gunfights.map Gunfight.asFought = s.gunfights.map Gunfight.asFought ∧
        damages.map Damage.asDealt = s.damages.map Damage.asDealt ∧
        grenades.map Grenade.origin = s.grenades.map Grenade.origin := by
  unfold settled
  rw [closeRound_eq]
  split
  · split
    · obtain ⟨gunfights, damages, grenades, hs, hg⟩ := settleRecords_eq s c s.round.number
      rw [hs]
      exact ⟨gunfights, damages, grenades, _, rfl, hg⟩
    · exact ⟨_, _, _, _, rfl, rfl, rfl, rfl⟩
  · exact ⟨_, _, _, _, rfl, rfl, rfl, rfl⟩

/-! ## Deciding and starting a round -/

def scored (s : MatchState) (n : RoundEndNotice) : Teams :=
  match n.winner with
  | some side => s.teams.addWin side
  | none => s.teams

theorem scored_keeps (n : RoundEndNotice) :
    (s.scored n).labels = s.teams.labels ∧ (s.scored n).sideOfA = s.teams.sideOfA := by
  unfold scored Teams.addWin
  split
  · split <;> exact ⟨rfl, rfl⟩
  · exact ⟨rfl, rfl⟩

def endMark (s : MatchState) (n : RoundEndNotice) (tick : Tick) : RoundMark :=
  { { s with teams := s.scored n }.mark .finish tick with
    winnerSide := n.winner, winnerTeam := n.winner.map s.teams.onSide, endReason := some n.reason }

theorem decideRound_eq (n : RoundEndNotice) (tick : Tick) :
    s.decideRound n tick =
      { s with
        teams := { s.scored n with swapDue := isSwapRound (s.round.number + 1) || (s.scored n).swapDue }
        round := { s.round with phase := .ended }
        marks := s.marks ++ [s.endMark n tick] } := by
  unfold decideRound
  cases hw : n.winner <;> cases h : isSwapRound (s.round.number + 1) <;>
    simp only [addMark, endMark, scored, hw, h, if_true, Bool.false_eq_true, if_false] <;> rfl

/-- The match with its next round started, whatever became of the round before. -/
def opened (s : MatchState) (tick : Tick) : MatchState :=
  let begun := ({ s with teams := s.teams.applySwap }.beginRound tick).state
  begun.addMark (begun.mark .start tick)

theorem startRound_state (c : Config) (tick : Tick) :
    (Processor.startRound s c tick).state = (s.settled c).opened tick := rfl

theorem closeState_settled (c : Config) :
    Processor.closeState s c =
      { s.settled c with playerMatches := (s.settled c).closeMatch.playerMatches, finalized := true } := by
  unfold Processor.closeState closeMatch settled
  rfl

theorem closeState_eq (c : Config) :
    ∃ playerMatches, Processor.closeState s c = { s.settled c with playerMatches, finalized := true } :=
  ⟨_, closeState_settled s c⟩

end MatchState

end Scorebook
