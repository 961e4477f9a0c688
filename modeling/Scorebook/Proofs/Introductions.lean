import Scorebook.Proofs.Registry
/-!
# Whom an event introduces

The registry of a match holds who is known, of whom the condition is known, and who has a label.  An event changes it
only by the players whom it makes the match see, one after the other (`introduction_respond`), and which players those
are is read off the event itself (`Event.introduced`).  Everything else leaves the registry as it is.
-/
namespace Scorebook

namespace Event

/-- The players whom a match sees at an event, in order.  Whoever connects or changes teams is seen at any time, and
everybody else in an open round only.  The victim of a kill is seen whatever it was done with, the killer only when that
is known. -/
def introduced (isOpen : Bool) : Event → List Actor
  | .playerConnect a => [a]
  | .playerTeamChange n => (n.player.map (fun a => { a with allegiance := n.newTeam })).toList
  | .kill n =>
    match isOpen, n.victim with
    | true, some victim => victim :: (n.killer.filter (fun k => k.id != victim.id && n.weapon.isSome)).toList
    | _, _ => []
  | .playerHurt n =>
    match isOpen, n.player, n.weapon with
    | true, some victim, some _ =>
      if n.healthDamage < 0 || n.armorDamage < 0 then [] else victim :: n.attacker.toList
    | _, _, _ => []
  | .weaponFire n => if isOpen && n.weapon.isSome then n.shooter.toList else []
  | .bombPlanted n | .bombDefused n | .bombExploded n => if isOpen then n.player.toList else []
  | _ => []

/-- Whether an event is of a kind that introduces nobody. -/
def introducesNobody : Event → Bool
  | .playerConnect _ | .playerTeamChange _ | .kill _ | .playerHurt _ | .weaponFire _ | .bombPlanted _ | .bombDefused _
  | .bombExploded _ => false
  | _ => true

theorem actor_of_introduced {e : Event} {isOpen : Bool} {a : Actor} (h : a ∈ e.introduced isOpen) :
    ∃ b ∈ e.actors, b.id = a.id := by
  cases e with
  | kill n =>
    simp only [introduced] at h
    split at h
    · next victim hv =>
      rcases List.mem_cons.1 h with rfl | h
      · exact ⟨_, by simp [actors, hv], rfl⟩
      · obtain ⟨hk, -⟩ := Option.filter_eq_some_iff.1 (Option.mem_toList.1 h)
        exact ⟨a, by simp [actors, hk], rfl⟩
    · cases h
  | playerHurt n =>
    simp only [introduced] at h
    split at h
    · next victim _ hv _ =>
      split at h
      · cases h
      · rcases List.mem_cons.1 h with rfl | h
        · exact ⟨_, by simp [actors, hv], rfl⟩
        · exact ⟨a, List.mem_append_left _ h, rfl⟩
    · cases h
  | playerTeamChange n =>
    obtain ⟨b, hb, rfl⟩ := Option.map_eq_some_iff.1 (Option.mem_toList.1 h)
    exact ⟨b, Option.mem_toList.2 hb, rfl⟩
  | playerConnect b => exact ⟨a, h, rfl⟩
  | weaponFire n =>
    simp only [introduced] at h
    split at h
    · exact ⟨a, h, rfl⟩
    · cases h
  | bombPlanted n | bombDefused n | bombExploded n =>
    simp only [introduced] at h
    split at h
    · exact ⟨a, h, rfl⟩
    · cases h
  | _ => cases h

theorem introduced_eq_nil {e : Event} (h : e.introducesNobody = true) (isOpen : Bool) : e.introduced isOpen = [] := by
  cases e <;> first | rfl | cases h

end Event

namespace MatchState

/-! ## What leaves the registry alone -/

/-- The same players are known, and the same of them have the same labels. -/
structure KeepsRegistry (s s' : MatchState) : Prop where
  players : s'.players.keys = s.players.keys
  conditions : s'.conditions.keys = s.conditions.keys
  labels : s'.teams.labels = s.teams.labels

namespace KeepsRegistry

variable {s s' s'' : MatchState}

theorem refl (s : MatchState) : KeepsRegistry s s := ⟨rfl, rfl, rfl⟩

theorem trans (h : KeepsRegistry s s') (h' : KeepsRegistry s' s'') : KeepsRegistry s s'' :=
  ⟨h'.players.trans h.players, h'.conditions.trans h.conditions, h'.labels.trans h.labels⟩

theorem aside (h : Aside s s') : KeepsRegistry s s' := by
  obtain ⟨_, _, _, _, _, rfl⟩ := h
  exact ⟨rfl, rfl, rfl⟩

theorem recordExit (s : MatchState) (id : PlayerId) (cause : ExitCause) (tick : Tick) :
    KeepsRegistry s (s.recordExit id cause tick) :=
  ⟨Table.keys_modify _ _ _, Table.keys_modify _ _ _, rfl⟩

theorem enterGunfight (s before : MatchState) (c : Config) (n : KillNotice) (killer victim : Actor) (weapon : Weapon)
    (tick : Tick) : KeepsRegistry s (s.enterGunfight before c n killer victim weapon tick) := by
  rcases enterGunfight_cases s before c n killer victim weapon tick with ⟨-, h⟩ | ⟨-, s', flashAssister, hw, h⟩ <;>
    rw [h]
  · exact ⟨rfl, rfl, rfl⟩
  · exact (aside hw.aside).trans ⟨Table.keys_modify _ _ _, Table.keys_modify _ _ _, rfl⟩

theorem restart (s : MatchState) : KeepsRegistry s s.restart := by
  unfold MatchState.restart
  split
  · exact refl s
  · exact ⟨Table.keys_mapValues _ _, rfl, rfl⟩

theorem settled (s : MatchState) (c : Config) : KeepsRegistry s (s.settled c) := by
  obtain ⟨_, _, _, _, hs, -⟩ := settled_eq s c
  rw [hs]
  exact ⟨rfl, rfl, rfl⟩

theorem opened (s : MatchState) (tick : Tick) : KeepsRegistry s (s.opened tick) :=
  ⟨rfl, Table.keys_mapValues _ _, s.teams.labels_applySwap⟩

theorem closeState (s : MatchState) (c : Config) : KeepsRegistry s (Processor.closeState s c) := by
  obtain ⟨_, hs⟩ := closeState_eq s c
  rw [hs]
  exact (settled s c).trans ⟨rfl, rfl, rfl⟩

end KeepsRegistry

section Answer

variable {c : Config} {s : MatchState} {tick : Tick}

/-- **An event that introduces nobody leaves the registry alone.** -/
theorem Answer.keepsRegistry {e : Event} {step : Step MatchState} (h : Answer c s tick e step)
    (hn : e.introducesNobody = true) : KeepsRegistry s step.state := by
  cases h with
  | passed | idle => exact .refl s
  | restarted => exact .restart s
  | begun =>
    rw [startRound_state]
    exact (KeepsRegistry.settled s c).trans (.opened _ tick)
  | thawed hl =>
    unfold recordFreezeEnd
    rw [if_pos hl]
    exact ⟨rfl, rfl, rfl⟩
  | @decided n =>
    rw [decideRound_eq]
    exact ⟨rfl, rfl, (scored_keeps s n).1⟩
  | died | weaponless | killed | hit | fired => cases hn
  | thrown => exact .aside (aside_bindThrow s _ _ _ tick)
  | unseen => exact .aside (aside_noteThrower s _ tick)
  | detonated => exact .aside (aside_recordGrenade s _ _ tick)
  | flashMoved => exact .aside (flashWork_moveFlash s _ tick _).aside
  | flashUnseen => exact .aside ((aside_noteThrower s _ tick).trans (flashWork_startFlash _ _ _ _ _ _).aside)
  | flashStarted => exact .aside ((aside_recordGrenade s _ _ tick).trans (flashWork_startFlash _ _ _ _ _ _).aside)
  | @blinded n player =>
    have hnoted : KeepsRegistry s (s.noteBlinded player.id) := ⟨rfl, Table.keys_modify _ _ _, rfl⟩
    exact hnoted.trans (.aside (flashWork_placeBlinding _ _ _ _ _ _).aside)
  | @bombed e _ _ _ he => cases e <;> first | cases he; done | cases hn
  | @shown e _ he => cases e <;> first | cases he; done | cases hn
  | @left a =>
    have hleft : KeepsRegistry s (s.setConnected a.id false) := ⟨Table.keys_modify _ _ _, rfl, rfl⟩
    exact hleft.trans (.recordExit _ _ _ tick)
  | gone => exact ⟨Table.keys_modify _ _ _, Table.keys_modify _ _ _, rfl⟩

end Answer

/-! ## Players seen in turn -/

/-- **Players are introduced**: they are seen one after the other, and before, between and after that the registry is
left alone. -/
inductive Introduction : List Actor → MatchState → MatchState → Prop where
  | rest {s s' : MatchState} (h : KeepsRegistry s s') : Introduction [] s s'
  | seen {a : Actor} {actors : List Actor} {s t s' : MatchState} (h : KeepsRegistry s t)
      (later : Introduction actors (t.observe a) s') : Introduction (a :: actors) s s'

namespace Introduction

variable {s s' : MatchState} {actors : List Actor}

theorem one (a : Actor) (h : KeepsRegistry (s.observe a) s') : Introduction [a] s s' := .seen (.refl s) (.rest h)

theorem optional (a : Option Actor) (h : KeepsRegistry (s.observeOptional a) s') : Introduction a.toList s s' := by
  cases a with
  | none => exact .rest h
  | some a => exact .one a h

theorem before {t : MatchState} (hk : KeepsRegistry t s) (h : Introduction actors s s') : Introduction actors t s' := by
  cases h with
  | rest h => exact .rest (hk.trans h)
  | seen h later => exact .seen (hk.trans h) later

theorem after {t : MatchState} (hk : KeepsRegistry s' t) : ∀ {actors : List Actor} {s : MatchState},
    Introduction actors s s' → Introduction actors s t
  | _, _, .rest h => .rest (h.trans hk)
  | _, _, .seen h later => .seen h (later.after hk)

/-- **What holds of a registry, and of it when one more player has been seen, holds when all have been introduced.** -/
theorem keeps {P : MatchState → Prop} (hkeep : ∀ {s s'}, KeepsRegistry s s' → P s → P s') :
    ∀ {actors : List Actor} {s s' : MatchState}, (∀ {s} a, a ∈ actors → P s → P (s.observe a)) →
      Introduction actors s s' → P s → P s'
  | _, _, _, _, .rest h, hp => hkeep h hp
  | _, _, _, hseen, .seen h later, hp =>
    keeps hkeep (fun a ha => hseen a (List.mem_cons_of_mem _ ha)) later (hseen _ List.mem_cons_self (hkeep h hp))

/-- **Whoever is introduced on a side is registered, and nobody else is who was not before.** -/
theorem contains_iff (id : PlayerId) : ∀ {actors : List Actor} {s s' : MatchState}, Introduction actors s s' →
    (s'.players.contains id = true ↔
      s.players.contains id = true ∨ ∃ a ∈ actors, a.id = id ∧ a.allegiance.side?.isSome = true)
  | _, _, _, .rest h => by simp [Table.contains_eq_of_keys h.players id]
  | _, s, _, .seen (a := a) (t := t) h later => by
    have hknown : t.players.contains id = s.players.contains id := Table.contains_eq_of_keys h.players id
    have hseen : (t.observe a).players.contains id = true ↔
        s.players.contains id = true ∨ a.id = id ∧ a.allegiance.side?.isSome = true := by
      rw [← hknown]
      cases hs : a.allegiance.side? with
      | none => simp [observe_spectator t hs]
      | some side => simp [contains_players_observe hs id, or_comm]
    rw [contains_iff id later, hseen, or_assoc, List.exists_mem_cons_iff]

end Introduction

/-! ## Every event introduces the players that it tells of -/

section Respond

variable {c : Config} {s : MatchState} {tick : Tick}

theorem introduction_recordKill (n : KillNotice) :
    Introduction ((Event.kill n).introduced s.round.isOpen) s (s.recordKill c n tick).state := by
  unfold recordKill
  cases ho : s.round.isOpen with
  | false => exact .rest (.refl s)
  | true =>
    simp only [Bool.not_true, Bool.false_eq_true, if_false]
    cases hv : n.victim with
    | none =>
      simp only [Event.introduced, hv]
      exact .rest (.refl s)
    | some victim =>
      have hdied (cause : ExitCause) : Introduction [victim] s (s.recordDeath victim cause tick) :=
        .one victim (.recordExit _ _ _ tick)
      cases hk : n.killer with
      | none =>
        simp only [Event.introduced, hv, hk, Option.filter_none, Option.toList_none]
        exact hdied .world
      | some killer =>
        by_cases hself : killer.id = victim.id
        · simp only [Event.introduced, hv, hk, hself, Option.filter_some, bne_self_eq_false, Bool.false_and,
            Bool.false_eq_true, if_false, if_true, Option.toList_none]
          exact hdied .selfKill
        · have hother : (killer.id != victim.id) = true := bne_iff_ne.2 hself
          cases hw : n.weapon with
          | none =>
            simp only [Event.introduced, hv, hk, hw, Option.filter_some, Option.isSome_none, Bool.and_false,
              Bool.false_eq_true, if_false, hself, Option.toList_none]
            exact hdied (.killed killer.id)
          | some weapon =>
            simp only [Event.introduced, hv, hk, hw, Option.filter_some, hother, Option.isSome_some, Bool.and_true,
              if_true, hself, if_false, Option.toList_some]
            exact .seen (.refl s) (.seen (.recordExit _ _ _ tick) (.rest (.enterGunfight _ _ _ _ _ _ _ tick)))

theorem introduction_recordHurt (n : HurtNotice) :
    Introduction ((Event.playerHurt n).introduced s.round.isOpen) s (s.recordHurt n tick).state := by
  unfold recordHurt
  cases ho : s.round.isOpen with
  | false => exact .rest (.refl s)
  | true =>
    simp only [Bool.not_true, Bool.false_eq_true, if_false]
    cases hv : n.player with
    | none =>
      simp only [Event.introduced, hv]
      exact .rest (.refl s)
    | some victim =>
      cases hw : n.weapon with
      | none =>
        simp only [Event.introduced, hv, hw]
        exact .rest (.refl s)
      | some weapon =>
        simp only [Event.introduced, hv, hw]
        split
        · exact .rest (.refl s)
        · exact .seen (.refl s) (.optional n.attacker (.aside (aside_enterDamage _ _ _ _ _ tick)))

theorem introduction_recordFire (n : FireNotice) :
    Introduction ((Event.weaponFire n).introduced s.round.isOpen) s (s.recordFire n tick).state := by
  unfold recordFire
  cases ho : s.round.isOpen with
  | false => exact .rest (.refl s)
  | true =>
    simp only [Bool.not_true, Bool.false_eq_true, if_false]
    cases hs : n.shooter with
    | none =>
      simp only [Event.introduced, hs, Option.toList_none, ite_self]
      exact .rest (.refl s)
    | some shooter =>
      cases hw : n.weapon with
      | none =>
        simp only [Event.introduced, hw, Option.isSome_none, Bool.and_false, Bool.false_eq_true, if_false]
        exact .rest (.refl s)
      | some weapon =>
        simp only [Event.introduced, hs, hw, Option.isSome_some, Bool.and_true, if_true]
        exact .seen (.aside (aside_fire s shooter weapon tick)) (.rest (.refl _))

theorem introduction_recordBomb (kind : RoundMarkKind) (n : BombNotice) :
    Introduction (if s.round.isOpen then n.player.toList else []) s (s.recordBomb kind n tick).state := by
  unfold recordBomb
  cases ho : s.round.isOpen with
  | false => exact .rest (.refl s)
  | true => exact .optional n.player ⟨rfl, rfl, rfl⟩

/-- **An event introduces its players, and does nothing else to the registry.** -/
theorem introduction_respond (c : Config) (s : MatchState) (tick : Tick) (e : Event) :
    Introduction (e.introduced s.round.isOpen) s (respond c s tick e).state := by
  cases hn : e.introducesNobody with
  | true =>
    rw [Event.introduced_eq_nil hn]
    exact .rest ((answer_respond c s tick e).keepsRegistry hn)
  | false =>
    cases e with
    | kill n => exact introduction_recordKill n
    | playerHurt n => exact introduction_recordHurt n
    | weaponFire n => exact introduction_recordFire n
    | bombPlanted n => exact introduction_recordBomb .bombPlanted n
    | bombDefused n => exact introduction_recordBomb .bombDefused n
    | bombExploded n => exact introduction_recordBomb .bombExploded n
    | playerConnect a => exact .one a (.refl _)
    | playerTeamChange n =>
      simp only [Event.introduced, respond, Processor.handle, recordTeamChange]
      cases n.player with
      | none => exact .rest (.refl s)
      | some a => exact .one _ (.refl _)
    | _ => cases hn

/-- The registry after one more event. -/
theorem introduction_next (c : Config) (s : MatchState) (e : TimedEvent) :
    Introduction (e.event.introduced s.round.isOpen) s (s.next c e) := by
  have hclock : KeepsRegistry s (s.advance e.tick) := ⟨rfl, rfl, rfl⟩
  have hsights : KeepsRegistry (respond c (s.advance e.tick) e.tick e.event).state (s.next c e) := ⟨rfl, rfl, rfl⟩
  exact ((introduction_respond c (s.advance e.tick) e.tick e.event).before hclock).after hsights

end Respond

end MatchState

end Scorebook
