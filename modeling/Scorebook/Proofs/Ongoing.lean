import Scorebook.Proofs.History
import Scorebook.Proofs.Registry
/-!
# A round that goes on

From its start to the start of the next one a round only grows: exits are added at the end, players are added to the
roster, and once it is decided it is not live again (`Round.GoesOn`).
-/
namespace Scorebook

/-- A round goes on: nobody comes back who has left it, nobody is taken off the roster, and a round that is live has
been live before. -/
structure Round.GoesOn (r r' : Round) : Prop where
  exits : r.exits <+: r'.exits
  roster : ∀ id side, r.roster.get? id = some side → r'.roster.get? id = some side
  live : r'.phase = .live → r.phase = .live

namespace Round.GoesOn

variable {r r' r'' : Round}

theorem refl (r : Round) : GoesOn r r := ⟨List.prefix_rfl, fun _ _ hg => hg, id⟩

theorem trans (h : GoesOn r r') (h' : GoesOn r' r'') : GoesOn r r'' :=
  ⟨h.exits.trans h'.exits, fun id side hg => h'.roster id side (h.roster id side hg), fun hl => h.live (h'.live hl)⟩

end Round.GoesOn

namespace MatchState

variable {s s' : MatchState}

theorem goesOn_observe (s : MatchState) (a : Actor) : s.round.GoesOn (s.observe a).round where
  exits := observe_exits s a ▸ List.prefix_rfl
  roster id side hg := by
    cases hs : a.allegiance.side? with
    | none =>
      rw [observe_spectator s hs]
      exact hg
    | some sd =>
      rw [get?_roster_observe hs]
      split
      · next hid => rw [hid.2, hg, Option.getD_some]
      · exact hg
  live hl := (observe_phase s a).symm.trans hl

theorem goesOn_observeOptional (s : MatchState) (a : Option Actor) : s.round.GoesOn (s.observeOptional a).round := by
  cases a with
  | none => exact .refl _
  | some a => exact goesOn_observe s a

theorem goesOn_recordExit (s : MatchState) (id : PlayerId) (cause : ExitCause) (tick : Tick) :
    s.round.GoesOn (s.recordExit id cause tick).round :=
  ⟨List.prefix_append _ _, fun _ _ hg => hg, fun hl => hl⟩

theorem goesOn_recordDeath (s : MatchState) (victim : Actor) (cause : ExitCause) (tick : Tick) :
    s.round.GoesOn (s.recordDeath victim cause tick).round :=
  (goesOn_observe s victim).trans (goesOn_recordExit _ _ cause tick)

theorem Aside.goesOn (h : Aside s s') : s.round.GoesOn s'.round := by
  obtain ⟨_, _, _, _, _, rfl⟩ := h
  exact .refl _

theorem goesOn_enterGunfight (s before : MatchState) (c : Config) (n : KillNotice) (killer victim : Actor)
    (weapon : Weapon) (tick : Tick) : s.round.GoesOn (s.enterGunfight before c n killer victim weapon tick).round := by
  rcases enterGunfight_cases s before c n killer victim weapon tick with ⟨-, h⟩ | ⟨-, s', flashAssister, hw, h⟩ <;>
    rw [h]
  · exact ⟨List.prefix_rfl, fun _ _ hg => hg, fun hl => hl⟩
  · exact hw.aside.goesOn.trans ⟨List.prefix_rfl, fun _ _ hg => hg, fun hl => hl⟩

/-- **An event that does not start a round, nor the match over, lets the round go on.** -/
theorem Answer.goesOn {c : Config} {tick : Tick} {e : Event} {step : Step MatchState} (h : Answer c s tick e step)
    (hc : e.continues = true) : s.round.GoesOn step.state.round := by
  cases h with
  | restarted => cases hc
  | begun => cases hc
  | passed | idle | gone => exact .refl _
  | thawed hl =>
    unfold recordFreezeEnd
    rw [if_pos hl]
    exact ⟨List.prefix_rfl, fun _ _ hg => hg, fun _ => hl⟩
  | decided hl =>
    rw [decideRound_eq]
    exact ⟨List.prefix_rfl, fun _ _ hg => hg, fun _ => hl⟩
  | died | weaponless => exact goesOn_recordDeath s _ _ tick
  | killed =>
    exact (goesOn_recordDeath s _ _ tick).trans ((goesOn_observe _ _).trans (goesOn_enterGunfight _ _ _ _ _ _ _ _))
  | hit => exact (goesOn_observe s _).trans (goesOn_observeOptional _ _)
  | fired => exact (aside_fire s _ _ tick).goesOn.trans (goesOn_observe _ _)
  | thrown => exact (aside_bindThrow s _ _ _ _).goesOn
  | unseen => exact (aside_noteThrower s _ tick).goesOn
  | detonated => exact (aside_recordGrenade s _ _ tick).goesOn
  | flashMoved => exact (flashWork_moveFlash s _ _ _).aside.goesOn
  | flashUnseen => exact ((aside_noteThrower s _ tick).trans (flashWork_startFlash _ _ _ _ _ _).aside).goesOn
  | flashStarted => exact ((aside_recordGrenade s _ _ tick).trans (flashWork_startFlash _ _ _ _ _ _).aside).goesOn
  | @blinded n player =>
    have hnoted : s.round.GoesOn (s.noteBlinded player.id).round := .refl _
    exact hnoted.trans (flashWork_placeBlinding _ _ _ _ _ _).aside.goesOn
  | bombed => exact goesOn_observeOptional s _
  | shown => exact goesOn_observe s _
  | left => exact goesOn_recordExit (s.setConnected _ false) _ _ tick

end MatchState

namespace Processor.Fresh

open MatchState

variable {header : Header} {config : Config} {p : Processor}

theorem registered (h : Fresh header config p) (events : List TimedEvent) : (p.after events).state.Registered :=
  h.keeps_after (Registered.kept config) (.new header config) events

/-- **A round goes on until the next one starts.** -/
theorem goesOn (h : Fresh header config p) (before : List TimedEvent) {later : List TimedEvent}
    (hc : ∀ e ∈ later, e.event.continues = true) :
    (p.after before).state.round.GoesOn (p.after (before ++ later)).state.round := by
  induction later using List.reverseRecOn with
  | nil => exact (List.append_nil before).symm ▸ .refl _
  | append_singleton later e ih =>
    have hon := ih (fun x hx => hc x (List.mem_append_left _ hx))
    have he : e.event.continues = true := hc e (List.mem_append_right _ List.mem_cons_self)
    rw [← List.append_assoc, h.after_concat_state]
    have ha := answer_respond config ((p.after (before ++ later)).state.advance e.tick) e.tick e.event
    exact hon.trans (ha.goesOn he)

end Processor.Fresh

end Scorebook
