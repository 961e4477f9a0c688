import Scorebook.Proofs.Assists
import Scorebook.Proofs.Combat
import Scorebook.Proofs.Registry
/-!
# The log of the gunfights

A gunfight is entered with the kill that it is about, and its assist by damage is worked out again when its round
closes.  What the log says stays in order all along: who is in which role of a gunfight, which gunfight opened its
round, and how many there were in the round in progress (`FightLog`).  Nobody who is dead comes back before the next
round.
-/
namespace Scorebook

/-! ## One gunfight, and all of a round -/

/-- **Nobody has two roles in a gunfight**, the killer wins it, and no flash has a part in a team kill. -/
structure Gunfight.Fair (g : Gunfight) : Prop where
  apart : g.killer.id ≠ g.victim.id
  victor : g.victor = g.killer.id
  assister : ∀ id, g.assister = some id → id ≠ g.killer.id ∧ id ≠ g.victim.id
  flashAssister : ∀ id, g.flashAssister = some id → id ≠ g.killer.id ∧ id ≠ g.victim.id
  teamKill : g.isTeamKill = true → g.flashAssister = none

/-- Of the gunfights of a round the first is its first kill, and no other. -/
def FirstKills (fights : List Gunfight) : Prop :=
  ∀ before g later, fights = before ++ g :: later → (g.isFirstKill = true ↔ ∀ x ∈ before, x.round ≠ g.round)

section FirstKills

variable {fights fights' : List Gunfight} {g : Gunfight}

theorem FirstKills.concat (h : FirstKills fights) (hg : g.isFirstKill = true ↔ ∀ x ∈ fights, x.round ≠ g.round) :
    FirstKills (fights ++ [g]) := by
  intro before x later he
  rcases List.eq_nil_or_concat later with rfl | ⟨later, y, rfl⟩
  · obtain ⟨rfl, hlast⟩ := List.append_inj' he rfl
    cases hlast
    exact hg
  · rw [List.concat_eq_append, ← List.cons_append, ← List.append_assoc] at he
    obtain ⟨rfl, -⟩ := List.append_inj' he rfl
    exact h before x later rfl

theorem FirstKills.of_asFought (h : FirstKills fights)
    (hf : fights'.map Gunfight.asFought = fights.map Gunfight.asFought) : FirstKills fights' := by
  rintro before g later rfl
  rw [List.map_append, List.map_cons] at hf
  obtain ⟨before₀, rest, rfl, hbefore, hrest⟩ := List.map_eq_append_iff.1 hf.symm
  obtain ⟨g₀, later₀, rfl, hg, -⟩ := List.map_eq_cons_iff.1 hrest
  have hround : g₀.round = g.round := (congrArg Gunfight.round hg :)
  have hfirst : g₀.isFirstKill = g.isFirstKill := (congrArg Gunfight.isFirstKill hg :)
  have hiff := h before₀ g₀ later₀ rfl
  rw [hround, hfirst] at hiff
  rw [hiff]
  constructor
  · intro hall x hx
    obtain ⟨y, hy, hyx⟩ := mem_of_map_eq hbefore.symm hx
    have hxy : y.round = x.round := (congrArg Gunfight.round hyx :)
    exact hxy ▸ hall y hy
  · intro hall x hx
    obtain ⟨y, hy, hyx⟩ := mem_of_map_eq hbefore hx
    have hxy : y.round = x.round := (congrArg Gunfight.round hyx :)
    exact hxy ▸ hall y hy

end FirstKills

namespace MatchState

variable {s s' t : MatchState} {c : Config} {tick : Tick}

/-! ## The log -/

/-- **The gunfights of a match are in order.** -/
structure FightLog (s : MatchState) : Prop where
  range : ∀ g ∈ s.gunfights, g.round ≤ s.round.number
  kills : s.round.kills = s.gunfights.countP (·.round = s.round.number)
  first : FirstKills s.gunfights
  fair : ∀ g ∈ s.gunfights, g.Fair
  dealt : ∀ d ∈ s.damages, d.TellsSelf

theorem fair_fought {killer victim : Actor} (hne : killer.id ≠ victim.id) (hd : ∀ d ∈ s.damages, d.TellsSelf)
    (hf : s.FairFlashes) (before : MatchState) (c : Config) (n : KillNotice) (weapon : Weapon) (tick : Tick) :
    (s.fought before c n killer victim weapon tick).Fair where
  apart := hne
  victor := rfl
  assister _ ha := damageAssister_ne hd ha
  flashAssister id ha := by
    have ha : (if before.onOneSide killer victim then none else s.flashAssister? c killer.id victim.id tick) =
        some id := ha
    split at ha
    · cases ha
    · exact flashAssister_ne hf ha
  teamKill ht := by
    have ht : before.onOneSide killer victim = true := ht
    show (if before.onOneSide killer victim then none else s.flashAssister? c killer.id victim.id tick) = none
    rw [ht]
    rfl

/-- **The assist that is worked out when the round closes goes to neither of the two either.** -/
theorem fair_settledGunfight (hd : ∀ d ∈ s.damages, d.TellsSelf) (c : Config) {g : Gunfight} (hg : g.Fair) :
    (s.settledGunfight c g).Fair := by
  have hsame := asFought_settledGunfight s c g
  have hkiller : (s.settledGunfight c g).killer = g.killer := (congrArg Gunfight.killer hsame :)
  have hvictim : (s.settledGunfight c g).victim = g.victim := (congrArg Gunfight.victim hsame :)
  have hvictor : (s.settledGunfight c g).victor = g.victor := (congrArg Gunfight.victor hsame :)
  have hflash : (s.settledGunfight c g).flashAssister = g.flashAssister := (congrArg Gunfight.flashAssister hsame :)
  have hteam : (s.settledGunfight c g).isTeamKill = g.isTeamKill := (congrArg Gunfight.isTeamKill hsame :)
  constructor
  · rw [hkiller, hvictim]
    exact hg.apart
  · rw [hvictor, hkiller]
    exact hg.victor
  · intro id ha
    rw [hkiller, hvictim]
    unfold settledGunfight at ha
    split at ha
    · rw [assister_apply] at ha
      split at ha
      · exact hg.assister id ha
      · exact damageAssister_ne hd ha
    · exact hg.assister id ha
  · intro id ha
    rw [hkiller, hvictim]
    exact hg.flashAssister id (hflash ▸ ha)
  · rw [hteam, hflash]
    exact hg.teamKill

namespace FightLog

theorem new (header : Header) (c : Config) : FightLog (MatchState.new header c) where
  range g hg := by cases hg
  kills := rfl
  first before g later he := by cases before <;> cases he
  fair g hg := by cases hg
  dealt d hd := by cases hd

theorem lull (h : FightLog s) (hl : Lull s s') : FightLog s' := by
  constructor
  · rw [hl.gunfights, hl.number]
    exact h.range
  · rw [hl.kills, hl.gunfights, hl.number]
    exact h.kills
  · rw [hl.gunfights]
    exact h.first
  · rw [hl.gunfights]
    exact h.fair
  · rw [hl.damages]
    exact h.dealt

theorem settled (h : FightLog s) (c : Config) : FightLog (s.settled c) := by
  have hfair : ∀ g ∈ (s.settled c).gunfights, g.Fair := by
    rcases gunfights_settled s c with hg | hg <;> rw [hg]
    · exact h.fair
    · intro g hm
      obtain ⟨g₀, hm₀, rfl⟩ := List.mem_map.1 hm
      exact fair_settledGunfight h.dealt c (h.fair g₀ hm₀)
  obtain ⟨gunfights, damages, grenades, playerRounds, hs, hg, hd, -⟩ := settled_eq s c
  rw [hs] at hfair ⊢
  constructor
  · intro g hm
    obtain ⟨g₀, hm₀, hsame⟩ := mem_of_map_eq hg hm
    have hround : g₀.round = g.round := (congrArg Gunfight.round hsame :)
    exact hround ▸ h.range g₀ hm₀
  · exact h.kills.trans (countP_of_map_eq (fun g => g.round = s.round.number) (fun _ => rfl) hg).symm
  · exact h.first.of_asFought hg
  · exact hfair
  · intro d hm
    obtain ⟨d₀, hm₀, hsame⟩ := mem_of_map_eq hd hm
    have hattacker : d₀.attacker = d.attacker := (congrArg Damage.attacker hsame :)
    have hvictim : d₀.victim = d.victim := (congrArg Damage.victim hsame :)
    have hself : d₀.isSelfDamage = d.isSelfDamage := (congrArg Damage.isSelfDamage hsame :)
    have htells := h.dealt d₀ hm₀
    unfold Damage.TellsSelf at htells ⊢
    rw [← hself, ← hattacker, ← hvictim]
    exact htells

theorem opened (h : FightLog s) (tick : Tick) : FightLog (s.opened tick) where
  range g hg := Nat.le_succ_of_le (h.range g hg)
  kills := by
    refine (List.countP_eq_zero.2 (fun g hg => ?_)).symm
    have hround := h.range g hg
    have hnumber : (s.opened tick).round.number = s.round.number + 1 := rfl
    simp only [decide_eq_true_eq, hnumber]
    omega
  first := h.first
  fair := h.fair
  dealt := h.dealt

theorem enterDamage (h : FightLog s) (n : HurtNotice) (victim : Actor) (weapon : Weapon) (taken : Int) (tick : Tick) :
    FightLog (s.enterDamage n victim weapon taken tick) where
  range := h.range
  kills := h.kills
  first := h.first
  fair := h.fair
  dealt d hd := by
    rcases List.mem_append.1 hd with hd | hd
    · exact h.dealt d hd
    · rw [List.mem_singleton.1 hd]
      rfl

/-- **A kill enters the next gunfight of the round.** -/
theorem enterGunfight (h : FightLog s) (hf : s.FairFlashes) {killer victim : Actor} (hne : killer.id ≠ victim.id)
    (before : MatchState) (c : Config) (n : KillNotice) (weapon : Weapon) (tick : Tick) :
    FightLog (s.enterGunfight before c n killer victim weapon tick) := by
  have hfair := fair_fought hne h.dealt hf before c n weapon tick
  have hround : (s.fought before c n killer victim weapon tick).round = s.round.number := rfl
  have hfirst : (s.fought before c n killer victim weapon tick).isFirstKill = decide (s.round.kills = 0) := rfl
  obtain ⟨_, _, _, _, _, heq⟩ := enterGunfight_eq s before c n killer victim weapon tick
  rw [heq]
  constructor
  · intro g hg
    rcases List.mem_append.1 hg with hg | hg
    · exact h.range g hg
    · rw [List.mem_singleton.1 hg]
      exact Nat.le_of_eq hround
  · show s.round.kills + 1 = _
    rw [List.countP_append, h.kills]
    simp [hround]
  · apply h.first.concat
    rw [hfirst, hround, decide_eq_true_eq, h.kills, List.countP_eq_zero]
    simp
  · intro g hg
    rcases List.mem_append.1 hg with hg | hg
    · exact h.fair g hg
    · rw [List.mem_singleton.1 hg]
      exact hfair
  · exact h.dealt

theorem combat {e : Event} (h : FightLog s) (hf : s.FairFlashes) (hc : Combat c s tick e s') : FightLog s' := by
  cases hc with
  | spared hl => exact h.lull hl
  | restarted =>
    unfold restart
    split
    · exact h
    · constructor
      · intro g hg
        cases hg
      · rfl
      · intro before g later he
        cases before <;> cases he
      · intro g hg
        cases hg
      · intro d hd
        cases hd
  | begun => exact (h.settled c).opened tick
  | hit _ hl => exact (h.lull hl).enterDamage _ _ _ _ tick
  | fought _ hne hl ht => exact (h.lull hl).enterGunfight (hf.of_eq (by rw [ht])) hne s c _ _ tick

end FightLog

/-! ## The dead -/

/-- Whoever was dead is dead still. -/
def StaysDead (s s' : MatchState) : Prop :=
  ∀ id c, s.conditions.get? id = some c → c.isAlive = false →
    ∃ c', s'.conditions.get? id = some c' ∧ c'.isAlive = false

namespace StaysDead

theorem of_eq (h : s'.conditions = s.conditions) : StaysDead s s' := by
  intro id c hg hd
  exact ⟨c, h ▸ hg, hd⟩

theorem of_isAlive (h : ∀ id, (s'.conditions.get? id).map (·.isAlive) = (s.conditions.get? id).map (·.isAlive)) :
    StaysDead s s' := by
  intro id c hg hd
  have hsame := h id
  rw [hg, Option.map_some, hd] at hsame
  exact Option.map_eq_some_iff.1 hsame

theorem trans {s'' : MatchState} (h : StaysDead s s') (h' : StaysDead s' s'') : StaysDead s s'' := by
  intro id c hg hd
  obtain ⟨c', hg', hd'⟩ := h id c hg hd
  exact h' id c' hg' hd'

/-- Who leaves the round is dead, and so is whoever was. -/
theorem modify (id : PlayerId) (f : Condition → Condition) (hs : s'.conditions = s.conditions.modify id f)
    (hf : ∀ c, (f c).isAlive = false) : StaysDead s s' := by
  intro id' c hg hd
  rw [hs, Table.get?_modify, hg]
  by_cases hid : id = id'
  · exact ⟨f c, by simp [hid], hf c⟩
  · exact ⟨c, by simp [hid], hd⟩

theorem aside (h : Aside s s') : StaysDead s s' := by
  obtain ⟨_, _, _, _, _, rfl⟩ := h
  exact of_eq rfl

/-- What an event shows of a player does not bring the player back. -/
theorem observe (s : MatchState) (a : Actor) : StaysDead s (s.observe a) := by
  cases hs : a.allegiance.side? with
  | none =>
    rw [observe_spectator s hs]
    exact of_isAlive (fun id => Table.map_get?_modify _ _ _ _ (fun _ => rfl))
  | some side =>
    intro id c hg hd
    rw [get?_conditions_observe hs]
    by_cases hid : a.id = id
    · subst hid
      exact ⟨c.refresh a, by simp [hg], hd⟩
    · exact ⟨c, by simp [hid, hg], hd⟩

theorem observeOptional (s : MatchState) (a : Option Actor) : StaysDead s (s.observeOptional a) := by
  cases a with
  | none => exact of_eq rfl
  | some a => exact observe s a

theorem recordExit (s : MatchState) (id : PlayerId) (cause : ExitCause) (tick : Tick) :
    StaysDead s (s.recordExit id cause tick) := by
  refine modify id (fun c => { c with isAlive := false, deaths := c.deaths + if cause.isDeath then 1 else 0 }) rfl ?_
  exact fun c => rfl

theorem recordDeath (s : MatchState) (victim : Actor) (cause : ExitCause) (tick : Tick) :
    StaysDead s (s.recordDeath victim cause tick) :=
  (observe s victim).trans (recordExit _ _ cause tick)

theorem enterGunfight (s before : MatchState) (c : Config) (n : KillNotice) (killer victim : Actor) (weapon : Weapon)
    (tick : Tick) : StaysDead s (s.enterGunfight before c n killer victim weapon tick) := by
  rcases enterGunfight_cases s before c n killer victim weapon tick with ⟨-, h⟩ | ⟨-, s', flashAssister, hw, h⟩ <;>
    rw [h]
  · exact of_eq rfl
  · refine (aside hw.aside).trans (of_isAlive (fun id => ?_))
    exact Table.map_get?_modify _ _ _ _ (fun _ => rfl)

end StaysDead

/-- **Nobody comes back before the next round starts.** -/
theorem Answer.staysDead {e : Event} {step : Step MatchState} (h : Answer c s tick e step) (hne : e ≠ .roundStart) :
    StaysDead s step.state := by
  cases h with
  | passed | idle => exact .of_eq rfl
  | restarted =>
    unfold restart
    split <;> exact .of_eq rfl
  | begun => exact absurd rfl hne
  | thawed hl =>
    unfold recordFreezeEnd
    rw [if_pos hl]
    exact .of_eq rfl
  | decided =>
    rw [decideRound_eq]
    exact .of_eq rfl
  | died => exact .recordDeath s _ _ tick
  | weaponless => exact .recordDeath s _ _ tick
  | killed =>
    exact (StaysDead.recordDeath s _ _ tick).trans ((StaysDead.observe _ _).trans (.enterGunfight _ _ _ _ _ _ _ _))
  | hit =>
    exact (StaysDead.observe s _).trans ((StaysDead.observeOptional _ _).trans (.aside (aside_enterDamage _ _ _ _ _ _)))
  | fired => exact (StaysDead.aside (aside_fire s _ _ tick)).trans (.observe _ _)
  | thrown => exact .aside (aside_bindThrow s _ _ _ tick)
  | unseen => exact .aside (aside_noteThrower s _ tick)
  | detonated => exact .aside (aside_recordGrenade s _ _ tick)
  | flashMoved => exact .aside (flashWork_moveFlash s _ tick _).aside
  | flashUnseen => exact .aside ((aside_noteThrower s _ tick).trans (flashWork_startFlash _ _ _ _ _ _).aside)
  | flashStarted => exact .aside ((aside_recordGrenade s _ _ tick).trans (flashWork_startFlash _ _ _ _ _ _).aside)
  | @blinded n player =>
    have hnote : StaysDead s (s.noteBlinded player.id) :=
      .of_isAlive (fun id => Table.map_get?_modify _ _ _ _ (fun _ => rfl))
    exact hnote.trans (.aside (flashWork_placeBlinding _ _ _ _ _ _).aside)
  | bombed => exact (StaysDead.observeOptional s _).trans (.of_eq rfl)
  | shown => exact .observe s _
  | @left a =>
    have hleft : StaysDead s (s.setConnected a.id false) := .of_eq rfl
    exact hleft.trans (.recordExit _ _ _ tick)
  | gone => exact .modify _ (fun c => { c with isAlive := false }) rfl (fun _ => rfl)

end MatchState

namespace Processor

open MatchState

variable {header : Header} {config : Config} {p q : Processor}

theorem Fresh.fightLog (h : Fresh header config p) (hq : Follows p q) : q.state.FightLog := by
  refine h.holds_combat (.new header config) (fun hl hs => hs.lull hl) (fun hs => hs.settled config) ?_ hq
  intro events e s' hc hs
  exact hs.combat ((h.fairFlashes events).of_eq rfl) hc

theorem Fresh.staysDead (h : Fresh header config p) (hq : Follows p q) {e : TimedEvent} (hne : e.event ≠ .roundStart) :
    StaysDead q.state (q.processEvent e).processor.state := by
  cases hf : q.state.finalized with
  | true =>
    rw [processEvent_finalized hf]
    exact .of_eq rfl
  | false =>
    obtain ⟨events, rfl⟩ := h.running_of_follows hq hf
    obtain ⟨-, hs, -⟩ := processEvent_ok (h.after_reports events) hf e
    rw [hs]
    have ha := answer_respond (p.after events).config ((p.after events).state.advance e.tick) e.tick e.event
    have hanswer := ha.staysDead hne
    exact fun id c hg hd => hanswer id c hg hd

/-- **The log of the gunfights is in order.**  In every state of a match, in progress or closed, nobody has two roles in
a gunfight and the killer is its victor; no flash has a part in a team kill; of the gunfights of each round the first in
the stream is its first kill and no other; the round in progress counts its gunfights; and whoever is dead stays dead,
unless the next event starts a round. -/
theorem gunfights_in_order (h : Fresh header config p) (hq : Follows p q) :
    (∀ g ∈ q.state.gunfights, g.Fair) ∧ FirstKills q.state.gunfights ∧
      q.state.round.kills = q.state.gunfights.countP (·.round = q.state.round.number) ∧
      ∀ e id c, e.event ≠ .roundStart → q.state.conditions.get? id = some c → c.isAlive = false →
        ∃ c', (q.processEvent e).processor.state.conditions.get? id = some c' ∧ c'.isAlive = false := by
  have hlog := h.fightLog hq
  refine ⟨hlog.fair, hlog.first, hlog.kills, ?_⟩
  intro e id c hne hg hd
  exact h.staysDead hq hne id c hg hd

/-- Player 3 hurts player 2, whom player 1 kills: once the match is closed the assist of player 3 stands, and player 2
is dead. -/
theorem gunfights_in_order_with_assist :
    ∃ (p q : Processor) (g : Gunfight) (c : Condition),
      p = ({ config := {}, state := MatchState.new { mapName := "de_dust2" } {} } : Processor).after
        [⟨0, .playerConnect { id := 1, allegiance := .counterTerrorist, isAlive := true }⟩,
         ⟨0, .playerConnect { id := 3, allegiance := .counterTerrorist, isAlive := true }⟩,
         ⟨0, .playerConnect { id := 2, allegiance := .terrorist, isAlive := true }⟩, ⟨1, .roundStart⟩,
         ⟨90, .playerHurt { attacker := some { id := 3, allegiance := .counterTerrorist, isAlive := true }
                            player := some { id := 2, allegiance := .terrorist, isAlive := true }
                            weapon := some .ak47, healthDamage := 80 }⟩,
         ⟨99, .kill { killer := some { id := 1, allegiance := .counterTerrorist, isAlive := true }
                      victim := some { id := 2, allegiance := .terrorist }, weapon := some .glock }⟩] ∧
      q = p.finalize.processor ∧ q.state.gunfights = [g] ∧ g.assister = some 3 ∧ g.isFirstKill = true ∧ g.Fair ∧
      q.state.conditions.get? 2 = some c ∧ c.isAlive = false := by
  have h : Fresh { mapName := "de_dust2" } {} _ := .default rfl
  refine ⟨_, _, _, _, rfl, rfl, List.eq_getElem_of_length_eq_one _ ?_, ?_, ?_,
    (gunfights_in_order h (.finalize (follows_after _ _))).1 _ (List.getElem_mem _), (Option.some_get ?_).symm, ?_⟩
  · decide +kernel
  · decide +kernel
  · decide +kernel
  · decide +kernel
  · decide +kernel

end Processor

end Scorebook
