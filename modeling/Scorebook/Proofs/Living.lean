import Scorebook.Proofs.Completeness
import Scorebook.Proofs.Labels
/-!
# Who lives, by the players and by the exits

Who is alive in a live round is kept twice: every player has a flag and a side of the moment, and the round has its
roster and the exits from it.  The flags are counted when somebody is killed, the exits are replayed when clutches are
looked for.  The two agree on a player as long as no event of the round has blurred them (`Blurs`): four things that a
stream can tell of a player are taken into one of the accounts and not into the other.
-/
namespace Scorebook

/-- Whether a player has left the living players of a round. -/
def Round.hasLeft (r : Round) (id : PlayerId) : Bool := r.exits.any (·.player = id)

namespace MatchState

/-! ## The two accounts of one player -/

/-- A player who is known is alive as long as no exit tells otherwise. -/
def LifeTold (s : MatchState) (id : PlayerId) : Prop :=
  (s.conditions.get? id).all (·.isAlive) = !s.round.hasLeft id

/-- A player of the round is on the side that the roster has. -/
def SideTold (s : MatchState) (id : PlayerId) : Prop :=
  ∀ side, s.round.roster.get? id = some side → s.side? id = some side

/-- What of a player the two accounts are about. -/
def standing (c : Condition) : Bool × Allegiance := (c.isAlive, c.allegiance)

/-- A player stands where the player stood, and nobody has left or joined the round. -/
structure Standing (id : PlayerId) (s s' : MatchState) : Prop where
  condition : (s'.conditions.get? id).map standing = (s.conditions.get? id).map standing
  labels : s'.teams.labels = s.teams.labels
  sideOfA : s'.teams.sideOfA = s.teams.sideOfA
  roster : s'.round.roster = s.round.roster
  exits : s'.round.exits = s.round.exits

variable {s s' s'' : MatchState} {id : PlayerId}

theorem Standing.trans (h : Standing id s s') (h' : Standing id s' s'') : Standing id s s'' :=
  ⟨h'.condition.trans h.condition, h'.labels.trans h.labels, h'.sideOfA.trans h.sideOfA, h'.roster.trans h.roster,
    h'.exits.trans h.exits⟩

theorem Aside.standing (h : Aside s s') : Standing id s s' := by
  obtain ⟨_, _, _, _, _, rfl⟩ := h
  exact ⟨rfl, rfl, rfl, rfl, rfl⟩

theorem standing_noteBlinded (s : MatchState) (player : PlayerId) : Standing id s (s.noteBlinded player) :=
  ⟨Table.map_get?_modify _ _ _ _ (fun _ => rfl), rfl, rfl, rfl, rfl⟩

theorem standing_enterGunfight (s before : MatchState) (c : Config) (n : KillNotice) (killer victim : Actor)
    (weapon : Weapon) (tick : Tick) : Standing id s (s.enterGunfight before c n killer victim weapon tick) := by
  rcases enterGunfight_cases s before c n killer victim weapon tick with ⟨-, h⟩ | ⟨-, s', flashAssister, hw, h⟩ <;>
    rw [h]
  · exact ⟨rfl, rfl, rfl, rfl, rfl⟩
  · exact hw.aside.standing.trans ⟨Table.map_get?_modify _ _ _ _ (fun _ => rfl), rfl, rfl, rfl, rfl⟩

theorem standing_decideRound (s : MatchState) (n : RoundEndNotice) (tick : Tick) :
    Standing id s (s.decideRound n tick) := by
  obtain ⟨hl, hA⟩ := scored_keeps s n
  rw [decideRound_eq]
  exact ⟨rfl, hl, hA, rfl, rfl⟩

theorem standing_closeState (s : MatchState) (c : Config) : Standing id s (Processor.closeState s c) := by
  obtain ⟨_, hc⟩ := closeState_eq s c
  obtain ⟨_, _, _, _, hs, -⟩ := settled_eq s c
  rw [hc, hs]
  exact ⟨rfl, rfl, rfl, rfl, rfl⟩

theorem side?_of_standing (s : MatchState) (id : PlayerId) :
    s.side? id = match s.team? id with
      | some team => some (s.teams.sideOf team)
      | none => ((s.conditions.get? id).map standing).bind (fun c => c.2.side?) := by
  unfold side?
  cases s.team? id with
  | some team => rfl
  | none => cases s.conditions.get? id <;> rfl

theorem LifeTold.frame (h : LifeTold s id) (hs : Standing id s s') : LifeTold s' id := by
  have hall (t : MatchState) : (t.conditions.get? id).all (·.isAlive) =
      ((t.conditions.get? id).map standing).all (·.1) := by cases t.conditions.get? id <;> rfl
  unfold LifeTold Round.hasLeft at *
  rw [hall, hs.condition, hs.exits, ← hall]
  exact h

theorem SideTold.frame (h : SideTold s id) (hs : Standing id s s') : SideTold s' id := by
  intro side hg
  have hteam : s'.team? id = s.team? id := by rw [team?, team?, Teams.label?, Teams.label?, hs.labels]
  have hside (team : Team) : s'.teams.sideOf team = s.teams.sideOf team := by
    cases team <;> simp [Teams.sideOf, hs.sideOfA]
  have hold := h side (hs.roster ▸ hg)
  rw [side?_of_standing] at hold ⊢
  rw [hteam, hs.condition]
  simp only [hside]
  exact hold

/-! ## Seeing a player -/

theorem team?_observe_of_ne {a : Actor} (hne : a.id ≠ id) : (s.observe a).team? id = s.team? id := by
  cases hs : a.allegiance.side? with
  | none =>
    rw [observe_spectator s hs]
    rfl
  | some side =>
    rw [team?, teams_observe hs, team?]
    rcases s.teams.assign_cases a.id side with ⟨-, ht⟩ | ⟨-, -, ht⟩ <;> rw [ht]
    exact Table.get?_insert_of_ne _ _ hne

theorem get?_conditions_spectator {a : Actor} (h : a.allegiance.side? = none) (id : PlayerId) :
    (s.observe a).conditions.get? id =
      if a.id = id then (s.conditions.get? id).map (fun c => { c with allegiance := a.allegiance })
      else s.conditions.get? id := by
  rw [observe_spectator s h]
  exact Table.get?_modify _ _ _ _

theorem get?_conditions_observe_of_ne {a : Actor} (hne : a.id ≠ id) :
    (s.observe a).conditions.get? id = s.conditions.get? id := by
  cases hs : a.allegiance.side? with
  | none => rw [get?_conditions_spectator hs, if_neg hne]
  | some side => rw [get?_conditions_observe hs, if_neg hne]

theorem get?_roster_observe_of_ne {a : Actor} (hne : a.id ≠ id) :
    (s.observe a).round.roster.get? id = s.round.roster.get? id := by
  cases hs : a.allegiance.side? with
  | none => rw [observe_spectator s hs]
  | some side => rw [get?_roster_observe hs, if_neg (fun h => hne h.2)]

/-- **Seeing a player tells of no exit**, and a player who is new to the live round must come alive. -/
theorem LifeTold.observe (hl : s.round.phase = .live) (h : LifeTold s id) {a : Actor}
    (hnew : a.id = id → a.allegiance.side?.isSome = true → s.conditions.get? id = none → a.isAlive = true) :
    LifeTold (s.observe a) id := by
  unfold LifeTold Round.hasLeft at *
  rw [observe_exits, ← h]
  by_cases hid : a.id = id
  · cases hs : a.allegiance.side? with
    | none =>
      rw [get?_conditions_spectator hs, if_pos hid]
      cases s.conditions.get? id <;> rfl
    | some side =>
      rw [get?_conditions_observe hs, if_pos hid, hid]
      cases hc : s.conditions.get? id with
      | some c => rfl
      | none =>
        have halive : a.isAlive = true := hnew hid (by rw [hs]; rfl) hc
        simp [Condition.refresh, newcomer, hl, halive]
  · rw [get?_conditions_observe_of_ne hid]

/-- A player without a team who is on the roster was shown on that side, now if not before. -/
theorem shown_of_roster (hr : Registered s) {a : Actor} {side : Side} (hteam : (s.observe a).team? a.id = none)
    (hg : (s.observe a).round.roster.get? a.id = some side)
    (hturn : s.team? a.id = none → ∀ side, s.round.roster.get? a.id = some side → a.allegiance.side? = some side) :
    a.allegiance.side? = some side := by
  cases hold : s.round.roster.get? a.id with
  | some old =>
    rw [(goesOn_observe s a).roster a.id old hold] at hg
    rw [hr.team?_observe (hr.known hold)] at hteam
    exact (hturn hteam old hold).trans hg
  | none =>
    cases hs : a.allegiance.side? with
    | none =>
      rw [observe_spectator s hs] at hg
      cases hold.symm.trans hg
    | some sd =>
      rw [get?_roster_observe hs, hold] at hg
      split at hg
      · rwa [entrySide, show (s.observe a).teams.label? a.id = none from hteam] at hg
      · cases hg

/-- **Seeing a player on the side that the roster has leaves the player there**, and so does seeing a player with a
team anywhere. -/
theorem SideTold.observe (hr : Registered s) (h : SideTold s id) {a : Actor}
    (hturn : a.id = id → s.team? id = none → ∀ side, s.round.roster.get? id = some side →
      a.allegiance.side? = some side) :
    SideTold (s.observe a) id := by
  intro side hg
  cases hteam : (s.observe a).team? id with
  | some team => rw [side?_of_team hteam, ← (hr.observe a).side hg hteam]
  | none =>
    by_cases hid : a.id = id
    · subst hid
      have hshown := shown_of_roster hr hteam hg (hturn rfl)
      rw [side?, hteam, get?_conditions_observe hshown, if_pos rfl]
      exact hshown
    · have hside := h side ((get?_roster_observe_of_ne hid).symm.trans hg)
      have hteamless : s.team? id = none := (team?_observe_of_ne hid).symm.trans hteam
      rw [side?, hteamless] at hside
      rw [side?, hteam, get?_conditions_observe_of_ne hid]
      exact hside

/-! ## Leaving a round -/

section Exits

variable {player : PlayerId} {cause : ExitCause} {tick : Tick}

theorem hasLeft_recordExit (s : MatchState) (player : PlayerId) (cause : ExitCause) (tick : Tick) (id : PlayerId) :
    (s.recordExit player cause tick).round.hasLeft id = (s.round.hasLeft id || decide (player = id)) := by
  unfold Round.hasLeft recordExit
  simp

/-- A player who is known and leaves is dead by both accounts. -/
theorem LifeTold.recordExit_self (hk : (s.conditions.get? id).isSome = true) :
    LifeTold (s.recordExit id cause tick) id := by
  obtain ⟨c, hc⟩ := Option.isSome_iff_exists.1 hk
  unfold LifeTold
  rw [hasLeft_recordExit]
  refine (congrArg (Option.all Condition.isAlive) (Table.get?_modify _ _ _ _)).trans ?_
  simp [hc]

theorem LifeTold.recordExit_of_ne (h : LifeTold s id) (hne : player ≠ id) :
    LifeTold (s.recordExit player cause tick) id := by
  unfold LifeTold at *
  rw [hasLeft_recordExit]
  refine (congrArg (Option.all Condition.isAlive) (Table.get?_modify _ _ _ _)).trans ?_
  rw [if_neg hne, h]
  simp [hne]

theorem SideTold.recordExit (h : SideTold s id) : SideTold (s.recordExit player cause tick) id := by
  intro side hg
  have hc : ((s.recordExit player cause tick).conditions.get? id).map (·.allegiance) =
      (s.conditions.get? id).map (·.allegiance) := Table.map_get?_modify _ _ _ _ (fun _ => rfl)
  have hside : (s.recordExit player cause tick).side? id = s.side? id := by
    have bound (t : MatchState) : (t.conditions.get? id).bind (fun c => c.allegiance.side?) =
        ((t.conditions.get? id).map (·.allegiance)).bind (·.side?) := by cases t.conditions.get? id <;> rfl
    unfold side?
    rw [bound, bound, hc]
    rfl
  rw [hside]
  exact h side hg

end Exits

/-! ## What blurs a player -/

/-- Handling an event looks at an actor, when the match has become `t`. -/
inductive Sees (s : MatchState) (tick : Tick) : Event → MatchState → Actor → Prop where
  | victim {n : KillNotice} {a : Actor} (ho : s.round.isOpen = true) (hv : n.victim = some a) :
      Sees s tick (.kill n) s a
  | killer {n : KillNotice} {a victim : Actor} (ho : s.round.isOpen = true) (hv : n.victim = some victim)
      (hk : n.killer = some a) (hw : n.weapon.isSome = true) (hne : a.id ≠ victim.id) :
      Sees s tick (.kill n) (s.recordDeath victim (.killed a.id) tick) a
  | hurt {n : HurtNotice} {a : Actor} (ho : s.round.isOpen = true) (hv : n.player = some a)
      (hw : n.weapon.isSome = true) (hd : 0 ≤ n.healthDamage) : Sees s tick (.playerHurt n) s a
  | attacker {n : HurtNotice} {a victim : Actor} (ho : s.round.isOpen = true) (hv : n.player = some victim)
      (hw : n.weapon.isSome = true) (hd : 0 ≤ n.healthDamage) (ha : n.attacker = some a) :
      Sees s tick (.playerHurt n) (s.observe victim) a
  | shooter {n : FireNotice} {a : Actor} {weapon : Weapon} (ho : s.round.isOpen = true) (hs : n.shooter = some a)
      (hw : n.weapon = some weapon) : Sees s tick (.weaponFire n) (s.fire a weapon tick) a
  | bomber {e : Event} {kind : RoundMarkKind} {n : BombNotice} {a : Actor} (ho : s.round.isOpen = true)
      (he : e.bomb? = some (kind, n)) (ha : n.player = some a) : Sees s tick e s a
  | shown {e : Event} {a : Actor} (he : e.shown? = some a) : Sees s tick e s a

/-- **What is told of a player in one of the accounts only.** -/
inductive Blurs (s : MatchState) (e : TimedEvent) (id : PlayerId) : Prop where
  /-- A player who is new to the live round comes dead, and not as the victim of the event: on the roster without an
  exit. -/
  | lateDead {t : MatchState} {a : Actor} (hs : Sees s e.tick e.event t a) (hid : a.id = id)
      (hside : a.allegiance.side?.isSome = true) (hnew : t.conditions.get? id = none) (hdead : a.isAlive = false)
      (hv : e.event.victim? ≠ some id)
  /-- Somebody on no side, of whom nothing is known, is killed: an exit, and nobody who is dead. -/
  | strangerKilled {n : KillNotice} {a : Actor} (he : e.event = .kill n) (hv : n.victim = some a) (hid : a.id = id)
      (hside : a.allegiance.side? = none) (hnew : s.conditions.get? id = none)
  /-- A player who does not take part in the round disconnects: dead without an exit, and may join the round yet. -/
  | absentee {a : Actor} (he : e.event = .playerDisconnect a) (hid : a.id = id)
      (hknown : s.players.contains id = true) (habsent : s.round.roster.contains id = false)
      (halive : (s.conditions.get? id).any (·.isAlive) = true)
  /-- A player without a team is seen elsewhere than on the side that the roster has. -/
  | sideChange {t : MatchState} {a : Actor} {side : Side} (hs : Sees s e.tick e.event t a) (hid : a.id = id)
      (hteam : t.team? id = none) (hr : t.round.roster.get? id = some side) (hne : a.allegiance.side? ≠ some side)

theorem Sees.keepsRoll {tick : Tick} {e : Event} {t : MatchState} {a : Actor} (hsees : Sees s tick e t a)
    (hr : Registered s) : Registered t ∧ KeepsRoll s t := by
  cases hsees with
  | victim | hurt | bomber | shown => exact ⟨hr, .of_eq rfl rfl (fun _ => rfl) rfl⟩
  | @killer n a victim =>
    exact ⟨(hr.observe victim).recordExit _ _ tick, (KeepsRoll.observe hr victim).trans (.recordExit _ _ _ _)⟩
  | @attacker n a victim => exact ⟨hr.observe victim, .observe hr victim⟩
  | @shooter n a weapon => exact ⟨hr.aside (aside_fire s a weapon tick), .aside (aside_fire s a weapon tick)⟩

/-- **Nothing blurs a player on the roster who has a team.** -/
theorem not_blurs_of_team (hr : Registered s) {side : Side} {team : Team} (hg : s.round.roster.get? id = some side)
    (ht : s.team? id = some team) (e : TimedEvent) : ¬ s.Blurs e id := by
  have hknown : s.players.contains id = true := hr.known hg
  rintro (⟨hs, -, -, hnew, -, -⟩ | ⟨-, -, rfl, -, hnew⟩ | ⟨-, -, -, habsent, -⟩ | ⟨hs, -, hteam, -, -⟩)
  · obtain ⟨hrt, hkept⟩ := hs.keepsRoll hr
    have hpresent := hrt.present (hkept.players id hknown)
    rw [Table.contains, hnew] at hpresent
    cases hpresent
  · have hpresent := hr.present hknown
    rw [Table.contains, hnew] at hpresent
    cases hpresent
  · rw [Table.contains, hg] at habsent
    cases habsent
  · rw [(hs.keepsRoll hr).2.teams id hknown, ht] at hteam
    cases hteam

/-- Both accounts tell the same of a player. -/
structure Told (s : MatchState) (id : PlayerId) : Prop where
  life : LifeTold s id
  side : SideTold s id

namespace Told

variable {tick : Tick} {e : Event}

theorem frame (h : Told s id) (hs : Standing id s s') : Told s' id := ⟨h.life.frame hs, h.side.frame hs⟩

/-- **An actor who is seen, and is not blurred, is told of in both accounts.** -/
theorem observe {t : MatchState} {a : Actor} (hb : ¬ s.Blurs ⟨tick, e⟩ id) (hsees : Sees s tick e t a)
    (hr : Registered t) (hl : t.round.phase = .live) (h : Told t id) (hv : e.victim? ≠ some a.id) :
    Told (t.observe a) id := by
  refine ⟨h.life.observe hl (fun hid hside hnew => ?_), h.side.observe hr (fun hid hteam side hg => ?_)⟩
  · cases hdead : a.isAlive with
    | true => rfl
    | false => exact absurd (.lateDead hsees hid hside hnew hdead (hid ▸ hv)) hb
  · by_cases hne : a.allegiance.side? = some side
    · exact hne
    · exact absurd (.sideChange hsees hid hteam hg hne) hb

/-- **A player who dies is dead by both accounts.** -/
theorem recordDeath {n : KillNotice} {victim : Actor} (hb : ¬ s.Blurs ⟨tick, .kill n⟩ id) (ho : s.round.isOpen = true)
    (hv : n.victim = some victim) (hr : Registered s) (hl : s.round.phase = .live) (h : Told s id)
    (cause : ExitCause) : Told (s.recordDeath victim cause tick) id := by
  have hside : SideTold (s.observe victim) id := by
    refine h.side.observe hr (fun hid hteam side hg => ?_)
    by_cases hne : victim.allegiance.side? = some side
    · exact hne
    · exact absurd (.sideChange (.victim ho hv) hid hteam hg hne) hb
  refine ⟨?_, hside.recordExit⟩
  by_cases hid : victim.id = id
  · subst hid
    refine LifeTold.recordExit_self ?_
    cases hs : victim.allegiance.side? with
    | some side =>
      rw [get?_conditions_observe hs, if_pos rfl]
      rfl
    | none =>
      cases hc : s.conditions.get? victim.id with
      | none => exact absurd (.strangerKilled rfl hv rfl hs hc) hb
      | some c =>
        rw [get?_conditions_spectator hs, if_pos rfl, hc]
        rfl
  · exact (h.life.observe hl (fun heq => absurd heq hid)).recordExit_of_ne hid

/-- A player who disconnects has left the round, or took no part in it. -/
theorem recordDisconnect {a : Actor} (hb : ¬ s.Blurs ⟨tick, .playerDisconnect a⟩ id) (hl : s.round.phase = .live)
    (hr : Registered s) (h : Told s id) : Told (s.recordDisconnect a tick).state id := by
  unfold MatchState.recordDisconnect
  cases hknown : s.players.contains a.id with
  | false => exact h
  | true =>
    obtain ⟨c, hc⟩ := Table.contains_iff.1 (hr.present hknown)
    have hset : Told (s.setConnected a.id false) id := h.frame ⟨rfl, rfl, rfl, rfl, rfl⟩
    simp only [Bool.not_true, Bool.false_eq_true, if_false]
    split
    · refine ⟨?_, hset.side.recordExit⟩
      by_cases hid : a.id = id
      · rw [← hid]
        exact LifeTold.recordExit_self (Table.contains_iff.2 ⟨c, hc⟩)
      · exact hset.life.recordExit_of_ne hid
    · next hplay =>
      refine h.frame ⟨(congrArg (Option.map standing) (Table.get?_modify s.conditions _ _ _)).trans ?_, rfl, rfl, rfl,
        rfl⟩
      split
      · next hid =>
        rw [← hid]
        -- whoever is out of the play and still alive is not on the roster
        cases halive : c.isAlive with
        | false => simp [hc, standing, halive]
        | true =>
          have habsent : s.round.roster.contains a.id = false := by
            simpa [isInPlay, setConnected, hl, hc, halive] using hplay
          exact absurd (.absentee rfl hid (hid ▸ hknown) (hid ▸ habsent) (hid ▸ (by simp [hc, halive]))) hb
      · rfl

/-- **In a live round, whoever is not blurred is told of in both accounts after the next event of the round.** -/
theorem respond {c : Config} (hb : ¬ s.Blurs ⟨tick, e⟩ id) (hr : Registered s) (hl : s.round.phase = .live)
    (hc : e.continues = true) (h : Told s id) : Told (MatchState.respond c s tick e).state id := by
  have ha := answer_respond c s tick e
  generalize hstep : MatchState.respond c s tick e = step at ha ⊢
  cases ha with
  | passed | idle => exact h
  | restarted => cases hc
  | begun => cases hc
  | thawed =>
    unfold recordFreezeEnd
    rw [if_pos hl]
    exact h.frame ⟨rfl, rfl, rfl, rfl, rfl⟩
  | decided => exact h.frame (standing_decideRound s _ tick)
  | died ho hv => exact h.recordDeath hb ho hv hr hl _
  | weaponless ho hk hv => exact h.recordDeath hb ho hv hr hl _
  | @killed n killer victim weapon ho hk hv hw hne =>
    have hother : (Event.kill n).victim? ≠ some killer.id := by
      rw [Event.victim?, hv]
      exact fun heq => hne (Option.some.inj heq).symm
    have hseen := (h.recordDeath hb ho hv hr hl (.killed killer.id)).observe hb
      (.killer ho hv hk (by rw [hw]; rfl) hne) ((hr.observe victim).recordExit _ _ tick)
      ((observe_phase s victim).trans hl) hother
    exact hseen.frame (standing_enterGunfight _ _ _ _ _ _ _ _)
  | @hit n victim weapon ho hv hw hd =>
    have hvictim := h.observe hb (.hurt ho hv (by rw [hw]; rfl) hd) hr hl (by intro hn; cases hn)
    refine Told.frame ?_ (aside_enterDamage _ _ _ _ _ _).standing
    cases ha : n.attacker with
    | none => exact hvictim
    | some attacker =>
      exact hvictim.observe hb (.attacker ho hv (by rw [hw]; rfl) hd ha) (hr.observe victim)
        ((observe_phase s victim).trans hl) (by intro hn; cases hn)
  | @fired n shooter weapon ho hs hw =>
    have haside := aside_fire s shooter weapon tick
    exact (h.frame haside.standing).observe hb (.shooter ho hs hw) (hr.aside haside)
      ((congrArg Course.phase haside.course_eq).trans hl) (by intro hn; cases hn)
  | thrown => exact h.frame (aside_bindThrow s _ _ _ _).standing
  | unseen => exact h.frame (aside_noteThrower s _ tick).standing
  | detonated => exact h.frame (aside_recordGrenade s _ _ tick).standing
  | flashMoved => exact h.frame (flashWork_moveFlash s _ _ _).aside.standing
  | flashUnseen =>
    exact h.frame ((aside_noteThrower s _ tick).trans (flashWork_startFlash _ _ _ _ _ _).aside).standing
  | flashStarted =>
    exact h.frame ((aside_recordGrenade s _ _ tick).trans (flashWork_startFlash _ _ _ _ _ _).aside).standing
  | blinded => exact h.frame ((standing_noteBlinded s _).trans (flashWork_placeBlinding _ _ _ _ _ _).aside.standing)
  | @bombed _ kind n ho he =>
    have hseen : Told (s.observeOptional n.player) id := by
      cases ha : n.player with
      | none => exact h
      | some a => exact h.observe hb (.bomber ho he ha) hr hl (by rw [Event.victim_of_bomb he]; intro hn; cases hn)
    exact hseen.frame ⟨rfl, rfl, rfl, rfl, rfl⟩
  | shown he => exact h.observe hb (.shown he) hr hl (by rw [Event.victim_of_shown he]; intro hn; cases hn)
  | left | gone =>
    rw [← hstep]
    exact h.recordDisconnect hb hl hr

/-- **When a round starts, everybody is told of in both accounts.** -/
theorem opened (s : MatchState) (tick : Tick) (id : PlayerId) : Told (s.opened tick) id where
  life := by
    have hget : (s.opened tick).conditions.get? id = (s.conditions.get? id).map Condition.atRoundStart :=
      Table.get?_mapValues _ _ _
    unfold LifeTold
    rw [hget]
    cases s.conditions.get? id <;> rfl
  side := fun _ hg => (of_mem_startingRoster hg).2

end Told

end MatchState

/-! ## The whole round -/

namespace Processor

open MatchState

variable {header : Header} {config : Config} {p : Processor}

/-- A player has been blurred in the round in progress. -/
def HasBlurred (p : Processor) (events : List TimedEvent) (id : PlayerId) : Prop :=
  Since (fun e => e.continues = true) (fun before e => ((p.after before).state.advance e.tick).Blurs e id) events

namespace Fresh

/-- **In a live round, whoever has not been blurred is told of in both accounts.** -/
theorem told (h : Fresh header config p) (events : List TimedEvent) :
    (p.after events).state.round.phase = .live → ∀ id, ¬ p.HasBlurred events id → (p.after events).state.Told id := by
  refine h.traces (P := fun events s => s.round.phase = .live → ∀ id, ¬ p.HasBlurred events id → s.Told id)
    (fun hl => by cases hl) (fun events e ih hl id hb => ?_) events
  obtain ⟨tick, event⟩ := e
  have hs := h.sound events
  have hr := h.registered events
  generalize hstate : (p.after events).state = s at ih hl hs hr
  have hcases : event.continues = true ∨ event = .matchStart ∨ event = .roundStart := by
    cases event <;> simp [Event.continues]
  rcases hcases with hc | rfl | rfl
  · -- the round goes on, and was live before
    have hlive : (s.advance tick).round.phase = .live := ((answer_respond config _ tick event).goesOn hc).live hl
    have hnot : ¬ p.HasBlurred events id := fun hbefore => hb (hbefore.concat hc)
    have hnow : ¬ (s.advance tick).Blurs ⟨tick, event⟩ id := fun hblurs =>
      hb (since_concat.2 (.inl (hstate ▸ hblurs)))
    have htold : (s.advance tick).Told id := (ih hlive id hnot).frame ⟨rfl, rfl, rfl, rfl, rfl⟩
    have hreg : (s.advance tick).Registered := hr.frame (fun _ => rfl) (fun _ => rfl) rfl rfl rfl
    exact (htold.respond hnow hreg hlive hc).frame ⟨rfl, rfl, rfl, rfl, rfl⟩
  · have hlive : (s.advance tick).restart.round.phase = .live := hl
    unfold MatchState.restart at hlive
    split at hlive
    · next hnone =>
      -- a live round has a number, and a match with a number starts over
      have hopen : s.course.phase ≠ .notStarted := by
        rw [show s.course.phase = .live from hlive]
        exact Phase.noConfusion
      have hpos : 1 ≤ s.round.number := hs.opened hopen
      have hzero : s.round.number = 0 := of_decide_eq_true (Bool.and_eq_true_iff.1 hnone).1
      omega
    · cases hlive
  · exact (Told.opened ((s.advance tick).settled config) tick id).frame ⟨rfl, rfl, rfl, rfl, rfl⟩

/-- **Whoever is on the roster with a team, and has not been blurred, is not blurred as long as the round goes on.** -/
theorem not_hasBlurred (h : Fresh header config p) (before : List TimedEvent) {later : List TimedEvent}
    (hc : ∀ e ∈ later, e.event.continues = true) {id : PlayerId} {side : Side} {team : Team}
    (hg : (p.after before).state.round.roster.get? id = some side) (ht : (p.after before).state.team? id = some team)
    (hb : ¬ p.HasBlurred before id) : ¬ p.HasBlurred (before ++ later) id := by
  induction later using List.reverseRecOn with
  | nil =>
    rw [List.append_nil]
    exact hb
  | append_singleton later e ih =>
    have hc' : ∀ x ∈ later, x.event.continues = true := fun x hx => hc x (List.mem_append_left _ hx)
    rw [← List.append_assoc]
    intro hblurred
    rcases since_concat.1 hblurred with hnow | ⟨hbefore, -⟩
    · have hr : ((p.after (before ++ later)).state.advance e.tick).Registered :=
        (Registered.kept config).clock _ _ (h.registered (before ++ later))
      obtain ⟨hg', ht'⟩ := h.staysMember before hc' hg ht
      exact not_blurs_of_team hr hg' ht' e hnow
    · exact ih hc' hbefore

/-- **Whoever is on the roster with a team when a round starts is not blurred in it.** -/
theorem not_hasBlurred_since_start (h : Fresh header config p) (before : List TimedEvent) (tick : Tick)
    {later : List TimedEvent} (hc : ∀ e ∈ later, e.event.continues = true) {id : PlayerId} {side : Side} {team : Team}
    (hg : (p.after (before ++ [⟨tick, .roundStart⟩])).state.round.roster.get? id = some side)
    (ht : (p.after (before ++ [⟨tick, .roundStart⟩])).state.team? id = some team) :
    ¬ p.HasBlurred (before ++ [⟨tick, .roundStart⟩] ++ later) id := by
  have hstart : ¬ p.HasBlurred (before ++ [⟨tick, .roundStart⟩]) id := by
    intro hblurred
    rcases since_concat.1 hblurred with hnow | ⟨-, hcontinues⟩
    · cases hnow with
      | lateDead hs =>
        cases hs with
        | bomber _ he | shown he => cases he
      | strangerKilled he => cases he
      | absentee he => cases he
      | sideChange hs =>
        cases hs with
        | bomber _ he | shown he => cases he
    · cases hcontinues
  exact h.not_hasBlurred _ hc hg ht hstart

end Fresh

end Processor

end Scorebook
