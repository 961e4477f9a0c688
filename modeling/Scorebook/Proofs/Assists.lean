import Scorebook.Proofs.Arsenal
/-!
# Who assists a kill

An assist goes to a player who hurt the victim as an enemy, or whose flash blinded the victim as an enemy.  Nobody is an
enemy of himself, as far as damages and flashes are concerned, so it is never the victim's own; and the killer is left
out by both searches.
-/
namespace Scorebook

/-! ## Assists by damage -/

/-- A damage tells of itself whether it is one that the victim took from himself. -/
def Damage.TellsSelf (d : Damage) : Prop := d.isSelfDamage = decide (d.attacker = some d.victim)

theorem Damage.TellsSelf.attacker_ne {d : Damage} (h : d.TellsSelf) (he : d.isEnemyDamage = true) :
    d.attacker ≠ some d.victim := by
  unfold isEnemyDamage at he
  unfold TellsSelf at h
  intro hself
  simp [h, hself] at he

section Damage

variable {damages : List Damage} {round : Nat} {killer victim : PlayerId} {tick : Tick}

/-- Only enemies who hurt the victim are credited with damage, and not the killer. -/
theorem damageTotals_all (damages : List Damage) (round : Nat) (killer victim : PlayerId) (tick : Tick) :
    (damageTotals damages round killer victim tick).All (fun id _ => id ≠ killer ∧
      ∃ d ∈ damages, d.isOn round victim tick = true ∧ d.isEnemyDamage = true ∧ d.attacker = some id) := by
  refine List.foldlRecOn _ _ Table.all_empty (fun totals hall d hd => ?_)
  split
  · next hon =>
    simp only [Bool.and_eq_true] at hon
    split
    · next attacker ha =>
      split
      · exact hall
      · next hne => exact hall.insert ⟨hne, d, hd, hon.1, hon.2, ha⟩
    · exact hall
  · exact hall

/-- **Whoever assists by damage is neither the killer nor the victim.** -/
theorem damageAssister_ne (hd : ∀ d ∈ damages, d.TellsSelf) {threshold : Int} {id : PlayerId}
    (h : damageAssister? damages round killer victim tick threshold = some id) : id ≠ killer ∧ id ≠ victim := by
  unfold damageAssister? at h
  obtain ⟨e, he, rfl⟩ := Option.map_eq_some_iff.1 h
  have hmem := (List.mem_filter.1 (mem_of_leastBy? he)).1
  obtain ⟨hne, d, hdm, hon, henemy, ha⟩ :=
    damageTotals_all damages round killer victim tick (Table.mem_entries_iff.1 hmem)
  refine ⟨hne, ?_⟩
  rintro rfl
  simp only [Damage.isOn, Bool.and_eq_true, decide_eq_true_eq] at hon
  exact (hd d hdm).attacker_ne henemy (by rw [ha, hon.1.2])

end Damage

/-! ## Assists by flash -/

/-- A flash blinds nobody as an enemy of himself. -/
def FlashEffect.Fair (e : FlashEffect) : Prop := ∀ b ∈ e.affected, b.isEnemy = true → b.player ≠ e.thrower

namespace MatchState

variable {s s' : MatchState}

theorem sameTeam?_self (s : MatchState) (id : PlayerId) : s.sameTeam? id id ≠ some false := by
  unfold sameTeam?
  cases s.team? id with
  | some team => simp
  | none =>
    cases s.side? id with
    | some side => simp
    | none => simp

theorem fair_concat {e : FlashEffect} (h : e.Fair) (s : MatchState) (player : PlayerId) (duration : Float) :
    FlashEffect.Fair
      { e with affected := e.affected ++ [⟨player, s.sameTeam? e.thrower player = some false, duration⟩] } := by
  intro b hb henemy
  rcases List.mem_append.1 hb with hb | hb
  · exact h b hb henemy
  · rw [List.mem_singleton.1 hb] at henemy ⊢
    intro hself
    have hself : player = e.thrower := hself
    rw [hself] at henemy
    exact s.sameTeam?_self _ (of_decide_eq_true henemy)

/-- The flash of a detonation is fair, whoever waited for it. -/
theorem fair_blindAll (s : MatchState) : ∀ (waited : List PendingBlinding) {b : Burst}, b.effect.Fair →
    (b.blindAll (fun player => s.sameTeam? b.effect.thrower player = some false) waited).effect.Fair
  | [], _, h => h
  | p :: waited, b, h => by
    have hblind : (b.blind (s.sameTeam? b.effect.thrower p.player = some false) p.player p.duration).effect.Fair := by
      unfold Burst.blind
      split
      · exact h
      · exact fair_concat h s p.player p.duration
    have hsame := (Burst.same_blind b (s.sameTeam? b.effect.thrower p.player = some false) p.player p.duration).thrower
    have hall := fair_blindAll s waited hblind
    rw [hsame] at hall
    exact hall

/-- All flashes of the round are fair. -/
def FairFlashes (s : MatchState) : Prop := s.tables.flashes.All (fun _ e => e.Fair)

namespace FairFlashes

theorem of_eq (h : FairFlashes s) (hf : s'.tables.flashes = s.tables.flashes) : FairFlashes s' := by
  unfold FairFlashes
  rw [hf]
  exact h

theorem attachBlinding (h : FairFlashes s) (entity : EntityId) (player : PlayerId) (duration : Float) :
    FairFlashes (s.attachBlinding entity player duration) := by
  unfold MatchState.attachBlinding
  split
  · exact h
  · next effect he =>
    split
    · exact h
    · unfold FairFlashes
      rw [tables_modifyGrenade]
      exact Table.All.insert h (fair_concat (h he) s player duration)

theorem placeBlinding (h : FairFlashes s) (m : FlashMatching) (player thrower : PlayerId) (tick : Tick)
    (duration : Float) : FairFlashes (s.placeBlinding m player thrower tick duration) := by
  unfold MatchState.placeBlinding
  split
  · exact h.attachBlinding _ _ _
  · exact h.of_eq rfl

/-- **Whatever an event does to grenades, flashes are fair.** -/
theorem arming {c : Config} {tick : Tick} {e : Event} (h : FairFlashes s) (ha : Arming c s tick e s') :
    FairFlashes s' := by
  cases ha with
  | spared _ _ hc => exact h.of_eq (by rw [hc.tables])
  | restarted =>
    unfold restart
    split
    · exact h
    · exact Table.all_empty
  | begun => exact Table.all_empty
  | fired _ _ hc => exact h.of_eq (by rw [hc.tables]; rfl)
  | thrown => exact h.of_eq rfl
  | unseen => exact h.of_eq (by rw [noteThrower_eq])
  | detonated =>
    refine h.of_eq ?_
    unfold recordGrenade
    rw [noteThrower_eq]
  | @moved n thrower effect _ _ he =>
    have hfair : effect.Fair := h he
    unfold FairFlashes moveFlash
    rw [tables_modifyGrenade]
    exact Table.All.insert h hfair
  | @exploded n thrower =>
    have hfirst : (s.firstBurst n thrower.id tick).effect.Fair := fun b hb => by cases hb
    exact Table.All.insert h (fair_blindAll s _ hfirst)
  | @blinded n player thrower =>
    have hnote : FairFlashes (s.noteBlinded player.id) := h.of_eq rfl
    exact hnote.placeBlinding _ _ _ tick _

end FairFlashes

/-- **Whoever assists by a flash is neither the killer nor the victim.** -/
theorem flashAssister_ne (h : FairFlashes s) {c : Config} {killer victim id : PlayerId} {tick : Tick}
    (ha : s.flashAssister? c killer victim tick = some id) : id ≠ killer ∧ id ≠ victim := by
  unfold flashAssister? at ha
  obtain ⟨x, hx, rfl⟩ := Option.map_eq_some_iff.1 ha
  have hchosen : x.2 = .leadsToKill ∧ x.1.thrower ≠ killer := by simpa using List.find?_some hx
  obtain ⟨⟨entity, he⟩, houtcome⟩ := Placed.of_mem_swingingFlashes (List.mem_of_find?_eq_some hx)
  refine ⟨hchosen.2, ?_⟩
  -- a flash leads to a kill if it blinded the victim as an enemy
  unfold flashOutcome? at houtcome
  obtain ⟨b, hb, houtcome⟩ := Option.bind_eq_some_iff.1 houtcome
  have hplayer : b.player = victim := by simpa using List.find?_some hb
  have henemy : b.isEnemy = true := by
    rw [hchosen.1] at houtcome
    cases hbe : b.isEnemy with
    | true => rfl
    | false =>
      rw [hbe] at houtcome
      split at houtcome <;> simp_all
  rw [← hplayer]
  exact (h he b (List.mem_of_find?_eq_some hb) henemy).symm

end MatchState

theorem Processor.Fresh.fairFlashes {header : Header} {config : Config} {p : Processor} (h : Fresh header config p)
    (events : List TimedEvent) : (p.after events).state.FairFlashes :=
  h.traces_arming (P := fun _ s => s.FairFlashes) Table.all_empty
    (fun hc hs => MatchState.FairFlashes.of_eq hs (by rw [hc.tables])) (fun ha hs => hs.arming ha) events

end Scorebook
