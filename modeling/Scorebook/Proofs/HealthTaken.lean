import Scorebook.Proofs.Hits
import Scorebook.Proofs.Ongoing
/-!
# How much health a hit takes

The damage of a hit is entered up to the health that the match last saw the victim with, and all of it if that was none.
In a round whose events show the health of a player as it is, the match has seen what is left (`Tracks`), so that hits
take the health that is there, and no more than that for as long as there is any.  Whoever hits a player with no health
left is credited with damage that nobody had the health for, and `damage_beyond_health` says that nobody else is.
-/
namespace Scorebook

/-! ## The health that a match has seen -/

theorem Event.actors_of_bomb {e : Event} {kind : RoundMarkKind} {n : BombNotice} (h : e.bomb? = some (kind, n)) :
    e.actors = n.player.toList := by
  cases e <;> cases h <;> rfl

theorem Event.actor_of_shown {e : Event} {a : Actor} (h : e.shown? = some a) :
    ∃ b ∈ e.actors, b.id = a.id ∧ b.health = a.health := by
  cases e with
  | playerConnect b =>
    cases h
    exact ⟨a, List.mem_cons_self, rfl, rfl⟩
  | playerTeamChange n =>
    obtain ⟨b, hb, rfl⟩ := Option.map_eq_some_iff.1 h
    exact ⟨b, Option.mem_toList.2 hb, rfl, rfl⟩
  | _ => cases h

namespace MatchState

/-- The health that a player was last seen with, full at the start of a round. -/
def health? (s : MatchState) (id : PlayerId) : Option Int := (s.conditions.get? id).map (·.health)

variable {s s' s'' : MatchState} {c : Config} {tick : Tick} {id : PlayerId} {actors : List Actor} {a : Actor}

theorem health?_observe (s : MatchState) (a : Actor) (id : PlayerId) :
    (s.observe a).health? id =
      if a.id = id ∧ a.allegiance.side?.isSome = true then some a.health else s.health? id := by
  unfold health?
  cases hs : a.allegiance.side? with
  | none =>
    rw [observe_spectator s hs, if_neg (by simp)]
    exact Table.map_get?_modify _ _ _ _ (fun _ => rfl)
  | some side =>
    rw [get?_conditions_observe hs]
    by_cases hid : a.id = id
    · rw [if_pos hid, if_pos ⟨hid, rfl⟩]
      rfl
    · rw [if_neg hid, if_neg (fun h => hid h.1)]

/-- **A hit takes what it takes from a player with the health that was seen.** -/
theorem healthTaken_eq {x : Hit} {shown : Nat} (h : s.health? id = some (shown : Int)) :
    s.healthTaken id x.damage = x.taken shown := by
  have hh : (s.conditions.get? id).map (·.health) = some (shown : Int) := h
  unfold healthTaken Hit.taken
  rw [hh]
  by_cases h0 : shown = 0
  · simp [h0]
  · have hpos : (0 : Int) < shown := by omega
    simp only [hpos, h0, if_true, if_false]
    omega

/-- The health of a player is what it was, or what one of the actors shows. -/
def Refreshed (actors : List Actor) (s s' : MatchState) : Prop :=
  ∀ id, s'.health? id = s.health? id ∨ ∃ a ∈ actors, a.id = id ∧ s'.health? id = some a.health

namespace Refreshed

theorem of_health (h : ∀ id, s'.health? id = s.health? id) : Refreshed actors s s' := fun id => .inl (h id)

theorem trans (h : Refreshed actors s s') (h' : Refreshed actors s' s'') : Refreshed actors s s'' := by
  intro id
  rcases h' id with hsame | hshown
  · rw [hsame]
    exact h id
  · exact .inr hshown

theorem aside (h : Aside s s') : Refreshed actors s s' := by
  obtain ⟨_, _, _, _, _, rfl⟩ := h
  exact of_health (fun _ => rfl)

theorem observe (s : MatchState) (h : ∃ b ∈ actors, b.id = a.id ∧ b.health = a.health) :
    Refreshed actors s (s.observe a) := by
  obtain ⟨b, hb, hid, hhealth⟩ := h
  intro id
  rw [health?_observe]
  split
  · next ha => exact .inr ⟨b, hb, hid.trans ha.1, by rw [hhealth]⟩
  · exact .inl rfl

theorem observe_mem (s : MatchState) (h : a ∈ actors) : Refreshed actors s (s.observe a) := observe s ⟨a, h, rfl, rfl⟩

theorem observeOptional (s : MatchState) {a : Option Actor} (h : ∀ b ∈ a, b ∈ actors) :
    Refreshed actors s (s.observeOptional a) := by
  cases a with
  | none => exact of_health (fun _ => rfl)
  | some a => exact observe_mem s (h a rfl)

/-- Who leaves the round keeps the health. -/
theorem modify (id : PlayerId) {f : Condition → Condition} (hs : s'.conditions = s.conditions.modify id f)
    (hf : ∀ c, (f c).health = c.health) : Refreshed actors s s' := by
  refine of_health (fun id' => ?_)
  unfold health?
  rw [hs]
  exact Table.map_get?_modify _ _ _ _ hf

theorem recordDeath (s : MatchState) {victim : Actor} (h : victim ∈ actors) (cause : ExitCause) (tick : Tick) :
    Refreshed actors s (s.recordDeath victim cause tick) := by
  refine (observe_mem s h).trans (modify victim.id
    (f := fun c => { c with isAlive := false, deaths := c.deaths + if cause.isDeath then 1 else 0 }) rfl ?_)
  exact fun _ => rfl

theorem enterGunfight (s before : MatchState) (c : Config) (n : KillNotice) (killer victim : Actor) (weapon : Weapon)
    (tick : Tick) : Refreshed actors s (s.enterGunfight before c n killer victim weapon tick) := by
  rcases enterGunfight_cases s before c n killer victim weapon tick with ⟨-, h⟩ | ⟨-, s', flashAssister, hw, h⟩ <;>
    rw [h]
  · exact of_health (fun _ => rfl)
  · refine (aside hw.aside).trans (of_health (fun id => ?_))
    exact Table.map_get?_modify _ _ _ _ (fun _ => rfl)

end Refreshed

/-- **While a round goes on, the health of a player changes to what an event shows of it, or not at all.** -/
theorem Answer.refreshed {e : Event} {step : Step MatchState} (h : Answer c s tick e step) (hc : e.continues = true) :
    Refreshed e.actors s step.state := by
  cases h with
  | restarted | begun => cases hc
  | passed | idle => exact .of_health (fun _ => rfl)
  | thawed hl =>
    unfold recordFreezeEnd
    rw [if_pos hl]
    exact .of_health (fun _ => rfl)
  | decided =>
    rw [decideRound_eq]
    exact .of_health (fun _ => rfl)
  | died _ hv | weaponless _ _ hv => exact .recordDeath s (by simp [Event.actors, hv]) _ tick
  | @killed n killer victim _ _ hk hv =>
    have hkiller : killer ∈ (Event.kill n).actors := by simp [Event.actors, hk]
    have hvictim : victim ∈ (Event.kill n).actors := by simp [Event.actors, hv]
    refine (Refreshed.recordDeath s hvictim (.killed killer.id) tick).trans ?_
    exact (Refreshed.observe_mem _ hkiller).trans (.enterGunfight _ _ _ _ _ _ _ _)
  | @hit n victim _ _ hv =>
    have hvictim : victim ∈ (Event.playerHurt n).actors := by simp [Event.actors, hv]
    refine (Refreshed.observe_mem s hvictim).trans ?_
    refine (Refreshed.observeOptional _ (fun b hb => ?_)).trans (.aside (aside_enterDamage _ _ _ _ _ _))
    exact List.mem_append_left _ (Option.mem_toList.2 hb)
  | fired _ hs =>
    exact (Refreshed.aside (aside_fire s _ _ tick)).trans (.observe_mem _ (by simp [Event.actors, hs]))
  | thrown => exact .aside (aside_bindThrow s _ _ _ tick)
  | unseen => exact .aside (aside_noteThrower s _ tick)
  | detonated => exact .aside (aside_recordGrenade s _ _ tick)
  | flashMoved => exact .aside (flashWork_moveFlash s _ tick _).aside
  | flashUnseen => exact .aside ((aside_noteThrower s _ tick).trans (flashWork_startFlash _ _ _ _ _ _).aside)
  | flashStarted => exact .aside ((aside_recordGrenade s _ _ tick).trans (flashWork_startFlash _ _ _ _ _ _).aside)
  | @blinded n player =>
    have hnote : Refreshed (Event.playerFlashed n).actors s (s.noteBlinded player.id) :=
      .of_health (fun id => Table.map_get?_modify _ _ _ _ (fun _ => rfl))
    exact hnote.trans (.aside (flashWork_placeBlinding _ _ _ _ _ _).aside)
  | @bombed e _ n _ he =>
    refine (Refreshed.observeOptional s (fun b hb => ?_)).trans (.of_health (fun _ => rfl))
    rw [Event.actors_of_bomb he]
    exact Option.mem_toList.2 hb
  | shown he => exact .observe s (Event.actor_of_shown he)
  | @left a =>
    exact .modify a.id (f := fun c => { c with isAlive := false, deaths := c.deaths + 0 }) rfl (fun _ => rfl)
  | @gone a => exact .modify a.id (f := fun c => { c with isAlive := false }) rfl (fun _ => rfl)

theorem refreshed_next (c : Config) (s : MatchState) {e : TimedEvent} (hc : e.event.continues = true) :
    Refreshed e.event.actors s (s.next c e) :=
  (answer_respond c (s.advance e.tick) e.tick e.event).refreshed hc

section Seen

variable {damage : Nat} {e : TimedEvent}

/-- **A round starts with everybody in full health.** -/
theorem health?_next_roundStart (c : Config) (s : MatchState) (he : e.event = .roundStart) (id : PlayerId) :
    (s.next c e).health? id = (s.health? id).map (fun _ => 100) := by
  obtain ⟨_, _, _, _, hs, -⟩ := settled_eq (s.advance e.tick) c
  rw [next_of_roundStart c s he, hs]
  refine (congrArg (Option.map _) (Table.get?_mapValues _ _ _)).trans ?_
  rw [Option.map_map, health?, Option.map_map]
  rfl

/-- **A hit that shows the player on a side lets the health be seen.** -/
theorem health?_next_of_hit (c : Config) (ho : s.round.isOpen = true) (h : e.event.hit? id = some damage)
    (hs : e.event.ShowsOnSide id) : ∃ a ∈ e.event.actors, a.id = id ∧ (s.next c e).health? id = some a.health := by
  obtain ⟨n, victim, weapon, he, hx, -, -⟩ := Event.hit?_eq_some h
  obtain ⟨-, hconditions⟩ := next_of_entered c ho he hx
  have hactors : e.event.actors = n.attacker.toList ++ [victim] := by
    rw [he, Event.actors, (HurtNotice.nonneg_of_entered hx).1]
    rfl
  obtain ⟨b, hb, hid, hside⟩ := hs
  unfold health?
  rw [hconditions]
  rw [hactors] at hb ⊢
  have hvictim := health?_observe (s.advance e.tick) victim id
  cases ha : n.attacker with
  | none =>
    rw [ha] at hb
    obtain rfl := List.mem_singleton.1 hb
    exact ⟨b, List.mem_cons_self, hid, hvictim.trans (if_pos ⟨hid, hside⟩)⟩
  | some attacker =>
    rw [ha] at hb
    -- the attacker is seen last, so that the health of the victim stands unless both are the player
    have hattacker := health?_observe ((s.advance e.tick).observe victim) attacker id
    by_cases hself : attacker.id = id ∧ attacker.allegiance.side?.isSome = true
    · exact ⟨attacker, List.mem_cons_self, hself.1, hattacker.trans (if_pos hself)⟩
    · rcases List.mem_cons.1 hb with rfl | hb
      · exact absurd ⟨hid, hside⟩ hself
      · obtain rfl := List.mem_singleton.1 hb
        refine ⟨b, List.mem_cons_of_mem _ List.mem_cons_self, hid, ?_⟩
        exact (hattacker.trans (if_neg hself)).trans (hvictim.trans (if_pos ⟨hid, hside⟩))

end Seen

end MatchState

/-! ## A round -/

theorem healthTotal_eq_total (l : List Damage) : healthTotal l = total Prod.snd (l.map Damage.amounts) :=
  (total_map Prod.snd Damage.amounts l).symm

theorem total_amounts : ∀ hits : List Hit,
    total Prod.snd (hits.map Hit.amounts) = (totalCount Hit.real hits + totalCount Hit.wasted hits : Nat)
  | [] => rfl
  | x :: hits => by
    have hrest := total_amounts hits
    have hsum : total Prod.snd ((x :: hits).map Hit.amounts) =
        ((x.real + x.wasted : Nat) : Int) + total Prod.snd (hits.map Hit.amounts) := rfl
    have hreal : totalCount Hit.real (x :: hits) = x.real + totalCount Hit.real hits := rfl
    have hwasted : totalCount Hit.wasted (x :: hits) = x.wasted + totalCount Hit.wasted hits := rfl
    rw [hsum, hrest, hreal, hwasted]
    omega

/-- **What the records of the hits on a player tell of a round**, when the match has last seen the player with so much
health. -/
structure Reckoned (id : PlayerId) (events : List TimedEvent) (records : List Damage) (shown : Nat) : Prop where
  counted : List.Forall₂ Hit.Counts (hitsOn id 100 events) (records.map Damage.amounts)
  precise : (∀ e ∈ events, e.event.Heard id) → records.map Damage.amounts = (hitsOn id 100 events).map Hit.amounts
  bounded : (∀ e ∈ events, (e.event.hit? id).isSome = true → e.event.ShowsOnSide id) →
    healthTotal records + shown ≤ 100 + totalCount Hit.wasted (hitsOn id 100 events)

namespace Reckoned

variable {id : PlayerId} {events : List TimedEvent} {e : TimedEvent} {records : List Damage} {shown shown' damage : Nat}

theorem pass (h : Reckoned id events records shown) (hx : e.event.hit? id = none) (hle : shown' ≤ shown) :
    Reckoned id (events ++ [e]) records shown' := by
  have hhits : hitsOn id 100 (events ++ [e]) = hitsOn id 100 events := by
    rw [hitsOn_concat, hx]
    exact List.append_nil _
  constructor <;> rw [hhits]
  · exact h.counted
  · exact fun hall => h.precise (List.forall_mem_append.1 hall).1
  · intro hall
    have hbound := h.bounded (List.forall_mem_append.1 hall).1
    omega

theorem enter (h : Reckoned id events records shown) (hx : e.event.hit? id = some damage) {d : Damage}
    (hd : d.amounts = (↑damage, ↑(Hit.taken ⟨damage, healthLeft id 100 events⟩ shown)))
    (hleast : healthLeft id 100 events ≤ shown)
    (hheard : (∀ e ∈ events, e.event.Heard id) → shown = healthLeft id 100 events)
    (hshown : e.event.ShowsOnSide id → shown' = healthLeft id 100 events - damage) :
    Reckoned id (events ++ [e]) (records ++ [d]) shown' := by
  have hhits : hitsOn id 100 (events ++ [e]) = hitsOn id 100 events ++ [⟨damage, healthLeft id 100 events⟩] := by
    rw [hitsOn_concat, hx]
    rfl
  constructor <;> rw [hhits]
  · rw [List.map_append]
    exact List.rel_append h.counted (.cons ⟨shown, hleast, hd⟩ .nil)
  · intro hall
    have hpast := (List.forall_mem_append.1 hall).1
    rw [List.map_append, List.map_append, h.precise hpast, List.map_singleton, List.map_singleton, hd, hheard hpast,
      Hit.taken_left]
    rfl
  · intro hall
    obtain ⟨hpast, hlast⟩ := List.forall_mem_append.1 hall
    have hbound := h.bounded hpast
    have hleft := hshown (hlast e List.mem_cons_self (by rw [hx]; rfl))
    have htaken : d.healthTaken = ↑(Hit.taken ⟨damage, healthLeft id 100 events⟩ shown) := congrArg Prod.snd hd
    -- a player who was seen without health has none left, so that the hit is wasted
    have hpaid : Hit.taken ⟨damage, healthLeft id 100 events⟩ shown + shown' ≤
        shown + Hit.wasted ⟨damage, healthLeft id 100 events⟩ := by
      unfold Hit.taken Hit.wasted
      split <;> split <;> simp only at * <;> omega
    have htotal : healthTotal (records ++ [d]) = healthTotal records + d.healthTaken := total_concat _ d records
    rw [htotal, totalCount_append, htaken]
    simp only [totalCount, List.foldr_cons, List.foldr_nil] at hbound ⊢
    omega

/-- **If every loss of health is heard of, the records add up to the health that is lost**, and what is wasted. -/
theorem total (h : Reckoned id events records shown) (hall : ∀ e ∈ events, e.event.Heard id) :
    healthTotal records + healthLeft id 100 events = 100 + totalCount Hit.wasted (hitsOn id 100 events) := by
  have hlost : totalCount Hit.real (hitsOn id 100 events) + healthLeft id 100 events = 100 :=
    real_add_left 100 events (fun e he hpos => (hall e he hpos).1)
  rw [healthTotal_eq_total, h.precise hall, total_amounts]
  omega

/-- The records are of the health that was there exactly if the dead are spared. -/
theorem real_iff (h : Reckoned id events records shown) (hall : ∀ e ∈ events, e.event.Heard id) :
    records.map Damage.amounts = (hitsOn id 100 events).map (fun x => (↑x.damage, ↑x.real)) ↔ SparesDead id events := by
  rw [h.precise hall, List.map_inj_left, SparesDead]
  refine forall₂_congr (fun x _ => ?_)
  rw [← Hit.wasted_eq_zero_iff, Hit.amounts, Prod.mk.injEq]
  omega

/-- The records add up to no more than full health exactly if the dead are spared. -/
theorem bound_iff (h : Reckoned id events records shown) (hall : ∀ e ∈ events, e.event.Heard id) :
    healthTotal records ≤ 100 ↔ SparesDead id events := by
  have htotal := h.total hall
  refine ⟨fun hle x hx hdead => ?_, fun hspare => ?_⟩
  · -- nothing is left after a hit that finds nothing
    have hleft := healthLeft_le_of_mem 100 events hx
    have hnone : totalCount Hit.wasted (hitsOn id 100 events) = 0 := by omega
    exact sparesDead_iff.2 hnone x hx hdead
  · have hnone := sparesDead_iff.1 hspare
    omega

/-- The records add up to no more than full health if the dead are spared, and every hit that is entered is seen. -/
theorem bound (h : Reckoned id events records shown)
    (hall : ∀ e ∈ events, (e.event.hit? id).isSome = true → e.event.ShowsOnSide id) (hspare : SparesDead id events) :
    healthTotal records ≤ 100 := by
  have hbound := h.bounded hall
  have hnone := sparesDead_iff.1 hspare
  omega

/-- Records with the same amounts tell the same. -/
theorem of_amounts {records' : List Damage} (h : Reckoned id events records shown)
    (hr : records'.map Damage.amounts = records.map Damage.amounts) : Reckoned id events records' shown where
  counted := hr ▸ h.counted
  precise hall := hr.trans (h.precise hall)
  bounded hall := by
    rw [healthTotal_eq_total, hr, ← healthTotal_eq_total]
    exact h.bounded hall

end Reckoned

namespace MatchState

/-- **How a match stands after the events of a round** that have shown the health of a player as it is: `shown` is what
the match last saw of it. -/
structure Tracks (s : MatchState) (round : Nat) (id : PlayerId) (events : List TimedEvent) (shown : Nat) : Prop where
  number : s.round.number = round
  health : s.health? id = some (shown : Int)
  least : healthLeft id 100 events ≤ shown
  heard : (∀ e ∈ events, e.event.Heard id) → shown = healthLeft id 100 events
  records : Reckoned id events (s.damagesOn round id) shown

variable {s : MatchState} {c : Config} {id : PlayerId} {round shown left : Nat} {events : List TimedEvent}
  {e : TimedEvent}

/-- What a match has seen of the health after one more event. -/
theorem seen_next (h : s.health? id = some (shown : Int)) (c : Config) (ho : s.round.isOpen = true)
    (hc : e.event.continues = true) (he : ∀ a ∈ e.event.actors, a.id = id → a.health = (left : Int)) :
    ∃ shown' : Nat, (s.next c e).health? id = some (shown' : Int) ∧ (shown' = shown ∨ shown' = left) ∧
      ((e.event.hit? id).isSome = true → e.event.ShowsOnSide id → shown' = left) := by
  by_cases hseen : (e.event.hit? id).isSome = true ∧ e.event.ShowsOnSide id
  · obtain ⟨damage, hd⟩ := Option.isSome_iff_exists.1 hseen.1
    obtain ⟨a, ha, hid, hhealth⟩ := health?_next_of_hit c ho hd hseen.2
    exact ⟨left, he a ha hid ▸ hhealth, .inr rfl, fun _ _ => rfl⟩
  · have hnot {shown' : Nat} (hhit : (e.event.hit? id).isSome = true) (hside : e.event.ShowsOnSide id) :
        shown' = left := absurd ⟨hhit, hside⟩ hseen
    rcases refreshed_next c s hc id with hsame | ⟨a, ha, hid, hhealth⟩
    · exact ⟨shown, hsame.trans h, .inl rfl, hnot⟩
    · exact ⟨left, he a ha hid ▸ hhealth, .inr rfl, hnot⟩

/-- **One more event of the round.** -/
theorem Tracks.next (h : Tracks s round id events shown) (c : Config) (ho : s.round.isOpen = true)
    (hc : e.event.continues = true)
    (he : ∀ a ∈ e.event.actors, a.id = id → a.health = (healthLeft id 100 events - e.event.harm id : Nat)) :
    ∃ shown', Tracks (s.next c e) round id (events ++ [e]) shown' := by
  obtain ⟨shown', hhealth, hcases, hhit⟩ := seen_next h.health c ho hc he
  have hleft := healthLeft_concat id 100 events e
  have hleast := h.least
  have hnumber : (s.next c e).round.number = round :=
    ((combat_respond c (s.advance e.tick) e.tick e.event).number_eq hc).trans h.number
  have hheard (hall : ∀ x ∈ events ++ [e], x.event.Heard id) : shown' = healthLeft id 100 (events ++ [e]) := by
    obtain ⟨hpast, hlast⟩ := List.forall_mem_append.1 hall
    have hshown := h.heard hpast
    have hlast := hlast e List.mem_cons_self
    by_cases hpos : 0 < e.event.harm id
    · exact (hhit (hlast hpos).1 (hlast hpos).2).trans hleft.symm
    · omega
  refine ⟨shown', hnumber, hhealth, by omega, hheard, ?_⟩
  cases hx : e.event.hit? id with
  | none =>
    rw [damagesOn_next_of_none c ho hc hx round]
    exact h.records.pass hx (by omega)
  | some damage =>
    obtain ⟨d, hd, hamounts⟩ := damagesOn_next_of_hit c ho hx
    rw [healthTaken_eq (x := ⟨damage, healthLeft id 100 events⟩) h.health] at hamounts
    rw [h.number] at hd
    rw [hd]
    refine h.records.enter hx hamounts hleast h.heard (fun hside => ?_)
    rw [← Event.harm_of_hit hx]
    exact hhit (by rw [hx]; rfl) hside

end MatchState

namespace Processor

open MatchState

variable {header : Header} {config : Config} {p q : Processor} {before later more : List TimedEvent} {id : PlayerId}
  {tick : Tick}

/-- **A round that shows the health of a player as it is, is tracked from its start to its end.** -/
theorem Fresh.tracks (h : Fresh header config p) (tick : Tick)
    (hknown : (p.after before).state.players.contains id = true)
    (hlater : ∀ e ∈ later, e.event.continues = true) (hshows : ShowsHealth id 100 later) :
    ∃ shown, Tracks (p.after (before ++ ⟨tick, .roundStart⟩ :: later)).state
      ((p.after before).state.round.number + 1) id later shown := by
  induction later using List.reverseRecOn with
  | nil =>
    have hstart : (⟨tick, .roundStart⟩ : TimedEvent).event = .roundStart := rfl
    obtain ⟨hnumber, hdealt⟩ := dealt_next_roundStart config (p.after before).state hstart
    have hhealth := health?_next_roundStart config (p.after before).state hstart id
    rw [h.after_concat_state]
    obtain ⟨k, hk⟩ := Table.contains_iff.1 ((h.registered before).present hknown)
    refine ⟨100, hnumber, hhealth.trans (by rw [health?, hk]; rfl), Nat.le_refl _, fun _ => rfl, ?_⟩
    have hnone : ((p.after before).state.next config ⟨tick, .roundStart⟩).damagesOn
        ((p.after before).state.round.number + 1) id = [] := by
      refine List.map_eq_nil_iff.1 ((amounts_of_asDealt hdealt _ id).trans ?_)
      refine List.map_eq_nil_iff.2 (List.filter_eq_nil_iff.2 (fun d hd => ?_))
      obtain ⟨hmem, hround⟩ := List.mem_filter.1 hd
      have hrange := h.damage_range before d hmem
      have hround : d.round = _ := of_decide_eq_true hround
      omega
    rw [hnone]
    exact ⟨.nil, fun _ => rfl, fun _ => Int.le_refl _⟩
  | append_singleton later e ih =>
    obtain ⟨hpast, hlast⟩ := List.forall_mem_append.1 hlater
    obtain ⟨hshown, he⟩ := (showsHealth_concat id e 100 later).1 hshows
    obtain ⟨shown, ht⟩ := ih hpast hshown
    have happend : before ++ ⟨tick, .roundStart⟩ :: (later ++ [e]) =
        (before ++ ⟨tick, .roundStart⟩ :: later) ++ [e] := by simp
    rw [happend, h.after_concat_state]
    have ho : (p.after (before ++ ⟨tick, .roundStart⟩ :: later)).state.round.isOpen = true := by
      by_contra hclosed
      have hzero := number_of_isOpen_eq_false _ (h.sound _) (Bool.eq_false_of_not_eq_true hclosed)
      rw [ht.number] at hzero
      cases hzero
    exact ht.next config ho (hlast e List.mem_cons_self) he

/-- **Damage beyond the health of a player is damage to a player who has none left.**  A round shows the health of a
player who was registered before it as it is.  In every state after it, in progress or closed, there is one record for
every hit on the player that is entered, with its damage, and never with less of it taken than there was health for.  If
no loss of health is missed, a record takes the health that was there, and if there was none, all of the damage: so they
add up to the health that is lost and what is wasted on the dead, and they are the health that was there, or add up to
no more than full health, exactly if the dead are spared.  They add up to no more than that, too, if the match has seen
the player at every hit that is entered, whatever it has missed. -/
theorem damage_beyond_health (h : Fresh header config p) (hknown : (p.after before).state.players.contains id = true)
    (hlater : ∀ e ∈ later, e.event.continues = true) (hshows : ShowsHealth id 100 later)
    (hmore : ∀ e ∈ more.head?, e.event = .roundStart) (hstays : ∀ e ∈ more, e.event ≠ .matchStart)
    (hq : Reaches p (before ++ ⟨tick, .roundStart⟩ :: later ++ more) q) :
    let records := q.state.damagesOn ((p.after before).state.round.number + 1) id
    List.Forall₂ Hit.Counts (hitsOn id 100 later) (records.map Damage.amounts) ∧
    ((∀ e ∈ later, e.event.Heard id) →
      records.map Damage.amounts = (hitsOn id 100 later).map Hit.amounts ∧
      healthTotal records + healthLeft id 100 later = 100 + totalCount Hit.wasted (hitsOn id 100 later) ∧
      (records.map Damage.amounts = (hitsOn id 100 later).map (fun x => (↑x.damage, ↑x.real)) ↔
        SparesDead id later) ∧
      (healthTotal records ≤ 100 ↔ SparesDead id later)) ∧
    ((∀ e ∈ later, (e.event.hit? id).isSome = true → e.event.ShowsOnSide id) → SparesDead id later →
      healthTotal records ≤ 100) := by
  obtain ⟨shown, ht⟩ := h.tracks tick hknown hlater hshows
  have hlast := (h.amounts_later ht.number hmore hstays id).2
  have hq' := (h.amounts_of_reaches hq _ id).trans hlast
  have hr := ht.records.of_amounts hq'
  exact ⟨hr.counted, fun hall => ⟨hr.precise hall, hr.total hall, hr.real_iff hall, hr.bound_iff hall⟩, hr.bound⟩

/-- Player 1 hits player 2 for 80 and for 110, and once more for 50 when player 2 has no health left: the records take
80, 20 and 50, more than the full health of player 2. -/
theorem damage_beyond_health_of_dead :
    ∃ (p q : Processor) (joining later : List TimedEvent),
      p = { config := {}, state := MatchState.new { mapName := "de_dust2" } {} } ∧
      joining =
        [⟨0, .playerConnect { id := 1, allegiance := .terrorist, health := 100, isAlive := true }⟩,
         ⟨0, .playerConnect { id := 2, allegiance := .counterTerrorist, health := 100, isAlive := true }⟩] ∧
      later = [(20, 80), (0, 110), (0, 50)].map (fun (left, damage) =>
        ⟨90, .playerHurt { attacker := some { id := 1, allegiance := .terrorist, health := 100, isAlive := true }
                           player := some { id := 2, allegiance := .counterTerrorist, health := left, isAlive := true }
                           weapon := some .ak47, healthDamage := damage }⟩) ∧
      q = (p.after (joining ++ ⟨1, .roundStart⟩ :: later ++ [⟨900, .roundStart⟩])).finalize.processor ∧
      (p.after joining).state.players.contains 2 = true ∧ ShowsHealth 2 100 later ∧ (∀ e ∈ later, e.event.Heard 2) ∧
      ¬ SparesDead 2 later ∧ (q.state.damagesOn 1 2).map Damage.amounts = [(80, 80), (110, 20), (50, 50)] ∧
      ¬ healthTotal (q.state.damagesOn 1 2) ≤ 100 := by
  have h : Fresh { mapName := "de_dust2" } {} _ := .default rfl
  refine ⟨_, _, _, _, rfl, rfl, rfl, rfl, ?_⟩
  refine have hknown := ?_; have hshows := ?_; have hheard := ?_; have hwasted := ?_
    ⟨hknown, hshows, hheard, hwasted, ?_⟩
  · decide +kernel
  · exact ⟨by decide, by decide, by decide, trivial⟩
  · refine List.forall_mem_cons.2 ⟨?_, List.forall_mem_cons.2 ⟨?_, List.forall_mem_cons.2 ⟨?_, List.forall_mem_nil _⟩⟩⟩
    all_goals exact fun _ => ⟨rfl, _, List.mem_append_right _ List.mem_cons_self, rfl, rfl⟩
  · unfold SparesDead
    decide
  · obtain ⟨hprecise, -, -, hbound⟩ := (damage_beyond_health h hknown (by simp [Event.continues]) hshows (by simp)
      (by simp) (.closed : Reaches _ (_ ++ ⟨1, .roundStart⟩ :: _ ++ [⟨900, .roundStart⟩]) _)).2.1 hheard
    exact ⟨hprecise, fun hle => hwasted (hbound.1 hle)⟩

end Processor

end Scorebook
