import Scorebook.Proofs.Combat
import Scorebook.Proofs.Counting
/-!
# Hits and their records

A hit on a player is entered in an open round if it is complete, and leaves one record (`next_of_entered`).  So the
records of a round on a player are those of the hits on the player, in order, and from the next round on they change no
more, but for the grenades behind them.
-/
namespace Scorebook

/-! ## The hits on a player -/

/-- The player who is hit and the weapon, if the hit is entered: both must be known, and no damage negative. -/
def HurtNotice.entered? (n : HurtNotice) : Option (Actor × Weapon) :=
  match n.player, n.weapon with
  | some victim, some weapon => if n.healthDamage < 0 || n.armorDamage < 0 then none else some (victim, weapon)
  | _, _ => none

namespace Event

/-- The health that an event takes of a player who has that much: the damage of a hit, and none if it is negative. -/
def harm (id : PlayerId) : Event → Nat
  | .playerHurt n => if n.player.map (·.id) = some id then n.healthDamage.toNat else 0
  | _ => 0

/-- The health damage of a hit on a player that is entered. -/
def hit? (id : PlayerId) : Event → Option Nat
  | .playerHurt n => (n.entered?.filter (fun x => x.1.id = id)).map (fun _ => n.healthDamage.toNat)
  | _ => none

/-- An event shows a player on a side, so that a match that sees the player takes note of the health. -/
def ShowsOnSide (id : PlayerId) (e : Event) : Prop := ∃ a ∈ e.actors, a.id = id ∧ a.allegiance.side?.isSome = true

/-- What an event takes of the health of a player is entered, and the player is seen. -/
def Heard (id : PlayerId) (e : Event) : Prop := 0 < e.harm id → (e.hit? id).isSome = true ∧ e.ShowsOnSide id

end Event

/-- A hit on a player who had some health left. -/
structure Hit where
  damage : Nat
  left : Nat
deriving DecidableEq

namespace Hit

/-- The damage for which there is health. -/
def real (x : Hit) : Nat := min x.damage x.left

/-- The damage of a hit that finds no health at all. -/
def wasted (x : Hit) : Nat := if x.left = 0 then x.damage else 0

/-- The damage that is entered if the player was last seen with so much health. -/
def taken (x : Hit) (shown : Nat) : Nat := if shown = 0 then x.damage else min x.damage shown

/-- What is entered of the hit if the player was last seen as the player is. -/
def amounts (x : Hit) : Int × Int := (x.damage, (x.real + x.wasted : Nat))

/-- What is entered of the hit if the player was last seen with no less health than there is. -/
def Counts (x : Hit) (amounts : Int × Int) : Prop := ∃ shown, x.left ≤ shown ∧ amounts = (↑x.damage, ↑(x.taken shown))

/-- **From a player who was seen as the player is, a hit takes the health that is there**, and everything where there is
none. -/
theorem taken_left (x : Hit) : x.taken x.left = x.real + x.wasted := by
  unfold taken real wasted
  split <;> omega

theorem wasted_eq_zero_iff (x : Hit) : x.wasted = 0 ↔ (x.left = 0 → x.damage = 0) := by
  unfold wasted
  split <;> simp_all

end Hit

/-- The health damage of a record, and the damage that the victim had health for. -/
def Damage.amounts (d : Damage) : Int × Int := (d.healthDamage, d.healthTaken)

/-- What is left of the health of a player after events. -/
def healthLeft (id : PlayerId) (left : Nat) (events : List TimedEvent) : Nat :=
  events.foldl (fun left e => left - e.event.harm id) left

/-- The hits on a player that are entered, in order. -/
def hitsOn (id : PlayerId) : Nat → List TimedEvent → List Hit
  | _, [] => []
  | left, e :: later =>
    ((e.event.hit? id).map (fun damage => ⟨damage, left⟩)).toList ++ hitsOn id (left - e.event.harm id) later

/-- **Events show the health of a player as it is**: what was left before, less what they take. -/
def ShowsHealth (id : PlayerId) : Nat → List TimedEvent → Prop
  | _, [] => True
  | left, e :: later =>
    (∀ a ∈ e.event.actors, a.id = id → a.health = (left - e.event.harm id : Nat)) ∧
      ShowsHealth id (left - e.event.harm id) later

/-- Nobody hits a player who has no health left. -/
def SparesDead (id : PlayerId) (events : List TimedEvent) : Prop :=
  ∀ x ∈ hitsOn id 100 events, x.left = 0 → x.damage = 0

section Hits

variable {id : PlayerId} {left : Nat} {events : List TimedEvent} {e : TimedEvent} {damage : Nat}

theorem HurtNotice.nonneg_of_entered {n : HurtNotice} {x : Actor × Weapon} (h : n.entered? = some x) :
    n.player = some x.1 ∧ 0 ≤ n.healthDamage := by
  unfold entered? at h
  split at h
  · next victim weapon hv _ =>
    split at h
    · cases h
    · next hd =>
      cases h
      simp only [Bool.or_eq_true, decide_eq_true_eq, not_or, Int.not_lt] at hd
      exact ⟨hv, hd.1⟩
  · cases h

theorem Event.hit?_eq_some {e : Event} (h : e.hit? id = some damage) :
    ∃ n victim weapon, e = .playerHurt n ∧ n.entered? = some (victim, weapon) ∧ victim.id = id ∧
      n.healthDamage = damage := by
  cases e with
  | playerHurt n =>
    obtain ⟨⟨victim, weapon⟩, hx, hd⟩ := Option.map_eq_some_iff.1 h
    obtain ⟨hx, hid⟩ := Option.filter_eq_some_iff.1 hx
    have hnonneg := (HurtNotice.nonneg_of_entered hx).2
    exact ⟨n, victim, weapon, rfl, hx, of_decide_eq_true hid, by omega⟩
  | _ => cases h

/-- A hit that is entered takes its damage. -/
theorem Event.harm_of_hit {e : Event} (h : e.hit? id = some damage) : e.harm id = damage := by
  obtain ⟨n, victim, weapon, rfl, hx, hid, hd⟩ := Event.hit?_eq_some h
  rw [harm, (HurtNotice.nonneg_of_entered hx).1, Option.map_some, hid, if_pos rfl]
  omega

theorem healthLeft_concat (id : PlayerId) (left : Nat) (events : List TimedEvent) (e : TimedEvent) :
    healthLeft id left (events ++ [e]) = healthLeft id left events - e.event.harm id :=
  List.foldl_append

theorem hitsOn_concat (id : PlayerId) (e : TimedEvent) : ∀ (left : Nat) (events : List TimedEvent),
    hitsOn id left (events ++ [e]) = hitsOn id left events ++
      ((e.event.hit? id).map (fun damage => ⟨damage, healthLeft id left events⟩)).toList
  | left, [] => List.append_nil _
  | left, x :: events => by
    rw [List.cons_append, hitsOn, hitsOn_concat id e _ events, hitsOn, List.append_assoc]
    rfl

theorem showsHealth_concat (id : PlayerId) (e : TimedEvent) : ∀ (left : Nat) (events : List TimedEvent),
    ShowsHealth id left (events ++ [e]) ↔ ShowsHealth id left events ∧
      ∀ a ∈ e.event.actors, a.id = id → a.health = (healthLeft id left events - e.event.harm id : Nat)
  | left, [] => and_comm
  | left, x :: events => by
    rw [List.cons_append, ShowsHealth, showsHealth_concat id e _ events, ShowsHealth, and_assoc]
    rfl

theorem sparesDead_iff : SparesDead id events ↔ totalCount Hit.wasted (hitsOn id 100 events) = 0 := by
  rw [totalCount_eq_zero_iff, SparesDead]
  exact forall₂_congr (fun x _ => x.wasted_eq_zero_iff.symm)

theorem healthLeft_le (id : PlayerId) : ∀ (left : Nat) (events : List TimedEvent), healthLeft id left events ≤ left
  | left, [] => Nat.le_refl left
  | left, e :: events => (healthLeft_le id (left - e.event.harm id) events).trans (Nat.sub_le _ _)

/-- No hit finds less health than is left in the end. -/
theorem healthLeft_le_of_mem {x : Hit} : ∀ (left : Nat) (events : List TimedEvent), x ∈ hitsOn id left events →
    healthLeft id left events ≤ x.left
  | left, e :: events, h => by
    rcases List.mem_append.1 h with hx | hx
    · obtain ⟨damage, -, rfl⟩ := Option.map_eq_some_iff.1 (Option.mem_toList.1 hx)
      exact healthLeft_le id left (e :: events)
    · exact healthLeft_le_of_mem (left - e.event.harm id) events hx

/-- **If every loss of health is entered, hits take the health that is lost.** -/
theorem real_add_left : ∀ (left : Nat) (events : List TimedEvent),
    (∀ e ∈ events, 0 < e.event.harm id → (e.event.hit? id).isSome = true) →
      totalCount Hit.real (hitsOn id left events) + healthLeft id left events = left
  | left, [], _ => Nat.zero_add left
  | left, e :: events, h => by
    have hrest := real_add_left (left - e.event.harm id) events (fun x hx => h x (List.mem_cons_of_mem _ hx))
    have hleft : healthLeft id left (e :: events) = healthLeft id (left - e.event.harm id) events := rfl
    rw [hitsOn, totalCount_append, hleft]
    cases hx : e.event.hit? id with
    | some damage =>
      rw [Event.harm_of_hit hx] at hrest ⊢
      simp only [Option.map_some, Option.toList_some, totalCount, List.foldr_cons, List.foldr_nil, Hit.real] at hrest ⊢
      omega
    | none =>
      have hharm : e.event.harm id = 0 := by
        by_contra hne
        have hsome := h e List.mem_cons_self (Nat.pos_of_ne_zero hne)
        rw [hx] at hsome
        cases hsome
      rw [hharm] at hrest ⊢
      simp only [Option.map_none, Option.toList_none, totalCount, List.foldr_nil, Nat.zero_add] at hrest ⊢
      exact hrest

end Hits

namespace MatchState

/-! ## The records of the hits -/

/-- The records of the hits on a player in a round. -/
def damagesOn (s : MatchState) (round : Nat) (id : PlayerId) : List Damage :=
  (s.damagesIn round).filter (·.victim = id)

section Records

variable {s s' : MatchState} {c : Config} {tick : Tick} {id : PlayerId} {round damage : Nat} {e : TimedEvent}
  {n : HurtNotice}

theorem damagesOn_concat {d : Damage} (h : s'.damages = s.damages ++ [d]) (round : Nat) (id : PlayerId) :
    s'.damagesOn round id = s.damagesOn round id ++ if d.round = round ∧ d.victim = id then [d] else [] := by
  unfold damagesOn damagesIn
  rw [h, List.filter_append, List.filter_append]
  by_cases hr : d.round = round <;> by_cases hv : d.victim = id <;> simp [hr, hv]

/-- Which grenade dealt a damage does not matter to its amounts. -/
theorem amounts_of_asDealt (h : s'.damages.map Damage.asDealt = s.damages.map Damage.asDealt) (round : Nat)
    (id : PlayerId) : (s'.damagesOn round id).map Damage.amounts = (s.damagesOn round id).map Damage.amounts := by
  have hdealt (t : MatchState) : (t.damagesOn round id).map Damage.amounts =
      (((t.damages.map Damage.asDealt).filter (·.round = round)).filter (·.victim = id)).map Damage.amounts := by
    unfold damagesOn damagesIn
    simp only [List.filter_map, List.map_map]
    rfl
  rw [hdealt, h, ← hdealt]

/-- In an open round the hits are entered that can be. -/
theorem recordHurt_state (ho : s.round.isOpen = true) (n : HurtNotice) (tick : Tick) :
    (s.recordHurt n tick).state =
      match n.entered? with
      | none => s
      | some (victim, weapon) =>
        ((s.observe victim).observeOptional n.attacker).enterDamage n victim weapon
          (s.healthTaken victim.id n.healthDamage) tick := by
  unfold recordHurt HurtNotice.entered?
  simp only [ho, Bool.not_true, Bool.false_eq_true, if_false]
  cases n.player with
  | none => rfl
  | some victim =>
    cases n.weapon with
    | none => rfl
    | some weapon =>
      simp only
      split <;> rfl

/-- **What an event does to the damages of a match**: nothing, or a hit enters one of the round, or the match starts
over, or a round starts and the damages so far have their grenades found. -/
theorem Combat.dealing {e : Event} (h : Combat c s tick e s') :
    s'.round.number = s.round.number ∧ (s'.damages = s.damages ∨
      ∃ n d, e = .playerHurt n ∧ s'.damages = s.damages ++ [d] ∧ d.round = s.round.number) ∨
    e = .matchStart ∧ s' = s.restart ∨
    e = .roundStart ∧ s'.round.number = s.round.number + 1 ∧
      s'.damages.map Damage.asDealt = s.damages.map Damage.asDealt := by
  cases h with
  | spared hl => exact .inl ⟨hl.number, .inl hl.damages⟩
  | restarted => exact .inr (.inl ⟨rfl, rfl⟩)
  | begun =>
    obtain ⟨_, _, _, _, hs, -, hd, -⟩ := settled_eq s c
    rw [hs]
    exact .inr (.inr ⟨rfl, rfl, hd⟩)
  | @hit n victim weapon taken t _ hl =>
    exact .inl ⟨hl.number, .inr ⟨n, _, rfl, congrArg (· ++ [_]) hl.damages, hl.number⟩⟩
  | @fought n killer victim weapon t _ _ hl =>
    obtain ⟨_, _, _, _, _, heq⟩ := enterGunfight_eq t s c n killer victim weapon tick
    rw [heq]
    exact .inl ⟨hl.number, .inl hl.damages⟩

/-- What is not a hit leaves the damages of a round alone. -/
theorem Combat.damages_eq {e : Event} (h : Combat c s tick e s') (hc : e.continues = true)
    (hn : ∀ n, e ≠ .playerHurt n) : s'.damages = s.damages := by
  rcases h.dealing with ⟨-, hsame | ⟨n, d, he, -⟩⟩ | ⟨rfl, -⟩ | ⟨rfl, -⟩
  · exact hsame
  · exact absurd he (hn n)
  · cases hc
  · cases hc

theorem Combat.number_eq {e : Event} (h : Combat c s tick e s') (hc : e.continues = true) :
    s'.round.number = s.round.number := by
  rcases h.dealing with ⟨hnumber, -⟩ | ⟨rfl, -⟩ | ⟨rfl, -⟩
  · exact hnumber
  · cases hc
  · cases hc

theorem Combat.damage_range {e : Event} (h : Combat c s tick e s') (hs : ∀ d ∈ s.damages, d.round ≤ s.round.number) :
    ∀ d ∈ s'.damages, d.round ≤ s'.round.number := by
  rcases h.dealing with ⟨hnumber, hsame | ⟨n, d, -, hd, hround⟩⟩ | ⟨-, hrestart⟩ | ⟨-, hnumber, hdealt⟩
  · rw [hsame, hnumber]
    exact hs
  · rw [hd, hnumber]
    exact List.forall_mem_append.2 ⟨hs, fun x hx => List.mem_singleton.1 hx ▸ Nat.le_of_eq hround⟩
  · rw [hrestart]
    unfold restart
    split
    · exact hs
    · exact fun d hd => by cases hd
  · intro d hd
    obtain ⟨d₀, hd₀, hsame⟩ := mem_of_map_eq hdealt hd
    have hround : d₀.round = d.round := (congrArg Damage.round hsame :)
    exact hround ▸ (hs d₀ hd₀).trans (hnumber ▸ Nat.le_succ _)

/-- **What happens later changes no amount of a round that is over.** -/
theorem Combat.amounts_eq {e : Event} (h : Combat c s tick e s') (he : e ≠ .matchStart) (hr : round < s.round.number)
    (id : PlayerId) : round < s'.round.number ∧
      (s'.damagesOn round id).map Damage.amounts = (s.damagesOn round id).map Damage.amounts := by
  rcases h.dealing with ⟨hnumber, hsame | ⟨n, d, -, hd, hround⟩⟩ | ⟨hstart, -⟩ | ⟨-, hnumber, hdealt⟩
  · exact ⟨hnumber ▸ hr, amounts_of_asDealt (congrArg (List.map Damage.asDealt) hsame) round id⟩
  · rw [damagesOn_concat hd, if_neg (fun hin => Nat.ne_of_gt hr (hround.symm.trans hin.1)), List.append_nil]
    exact ⟨hnumber ▸ hr, rfl⟩
  · exact absurd hstart he
  · exact ⟨hnumber ▸ Nat.lt_succ_of_lt hr, amounts_of_asDealt hdealt round id⟩

theorem next_of_hurt (c : Config) (s : MatchState) (he : e.event = .playerHurt n) :
    s.next c e = Processor.sightActors ((s.advance e.tick).recordHurt n e.tick).state e := by
  unfold next
  rw [he]
  rfl

/-- **A hit that is entered leaves one record**, with what it takes from the health that was seen before, and lets its
players be seen. -/
theorem next_of_entered (c : Config) (ho : s.round.isOpen = true) (he : e.event = .playerHurt n) {victim : Actor}
    {weapon : Weapon} (hx : n.entered? = some (victim, weapon)) :
    (∃ d, (s.next c e).damages = s.damages ++ [d] ∧ d.round = s.round.number ∧ d.victim = victim.id ∧
      d.amounts = (n.healthDamage, s.healthTaken victim.id n.healthDamage)) ∧
      (s.next c e).conditions = (((s.advance e.tick).observe victim).observeOptional n.attacker).conditions := by
  have hstate := recordHurt_state (s := s.advance e.tick) ho n e.tick
  simp only [hx] at hstate
  have hlull := (Lull.observe (s.advance e.tick) victim).trans (.observeOptional _ n.attacker)
  rw [next_of_hurt c s he, hstate]
  exact ⟨⟨_, congrArg (· ++ [_]) hlull.damages, hlull.number, rfl, rfl⟩, rfl⟩

theorem damagesOn_next_of_hit (c : Config) (ho : s.round.isOpen = true) (h : e.event.hit? id = some damage) :
    ∃ d, (s.next c e).damagesOn s.round.number id = s.damagesOn s.round.number id ++ [d] ∧
      d.amounts = ((damage : Int), s.healthTaken id damage) := by
  obtain ⟨n, victim, weapon, he, hx, rfl, hd⟩ := Event.hit?_eq_some h
  obtain ⟨⟨d, hdamages, hround, hvictim, hamounts⟩, -⟩ := next_of_entered c ho he hx
  refine ⟨d, ?_, hd ▸ hamounts⟩
  rw [damagesOn_concat hdamages, if_pos ⟨hround, hvictim⟩]

/-- What is not a hit on the player enters no record of one. -/
theorem damagesOn_next_of_none (c : Config) (ho : s.round.isOpen = true) (hc : e.event.continues = true)
    (h : e.event.hit? id = none) (round : Nat) : (s.next c e).damagesOn round id = s.damagesOn round id := by
  have keep (hd : (s.next c e).damages = s.damages) : (s.next c e).damagesOn round id = s.damagesOn round id := by
    unfold damagesOn damagesIn
    rw [hd]
  by_cases hn : ∃ n, e.event = .playerHurt n
  · obtain ⟨n, he⟩ := hn
    cases hx : n.entered? with
    | none =>
      have hstate := recordHurt_state (s := s.advance e.tick) ho n e.tick
      rw [hx] at hstate
      apply keep
      rw [next_of_hurt c s he, hstate]
      rfl
    | some x =>
      obtain ⟨⟨d, hdamages, -, hvictim, -⟩, -⟩ := next_of_entered c ho he hx
      have hother : x.1.id ≠ id := by
        rw [he, Event.hit?, hx] at h
        simpa using h
      rw [damagesOn_concat hdamages, if_neg (fun hd => hother (hvictim.symm.trans hd.2)), List.append_nil]
  · have hcombat := combat_respond c (s.advance e.tick) e.tick e.event
    exact keep (hcombat.damages_eq hc (fun n he => hn ⟨n, he⟩))

theorem next_of_roundStart (c : Config) (s : MatchState) (he : e.event = .roundStart) :
    s.next c e = Processor.sightActors (((s.advance e.tick).settled c).opened e.tick) e := by
  unfold next
  rw [he]
  rfl

/-- A round that starts has the next number, and leaves the damages as they were dealt. -/
theorem dealt_next_roundStart (c : Config) (s : MatchState) (he : e.event = .roundStart) :
    (s.next c e).round.number = s.round.number + 1 ∧
      (s.next c e).damages.map Damage.asDealt = s.damages.map Damage.asDealt := by
  obtain ⟨_, _, _, _, hs, -, hd, -⟩ := settled_eq (s.advance e.tick) c
  rw [next_of_roundStart c s he, hs]
  exact ⟨rfl, hd⟩

end Records

end MatchState

namespace Processor.Fresh

open MatchState

variable {header : Header} {config : Config} {p q : Processor} {events more : List TimedEvent} {round : Nat}

/-- Every damage is of a round that was started. -/
theorem damage_range (h : Fresh header config p) (events : List TimedEvent) :
    ∀ d ∈ (p.after events).state.damages, d.round ≤ (p.after events).state.round.number :=
  h.traces_combat (P := fun s => ∀ d ∈ s.damages, d.round ≤ s.round.number) (fun d hd => by cases hd)
    (fun hl hs => hl.damages.symm ▸ hl.number.symm ▸ hs) (fun hc hs => hc.damage_range hs) events

/-- The records of a round keep their amounts in the rounds after it. -/
theorem amounts_later (h : Fresh header config p) (hround : (p.after events).state.round.number = round)
    (hhead : ∀ e ∈ more.head?, e.event = .roundStart) (hstays : ∀ e ∈ more, e.event ≠ .matchStart) (id : PlayerId) :
    (more = [] ∨ round < (p.after (events ++ more)).state.round.number) ∧
      ((p.after (events ++ more)).state.damagesOn round id).map Damage.amounts =
        ((p.after events).state.damagesOn round id).map Damage.amounts := by
  induction more using List.reverseRecOn with
  | nil =>
    rw [List.append_nil]
    exact ⟨.inl rfl, rfl⟩
  | append_singleton more e ih =>
    obtain ⟨hpast, hlast⟩ := List.forall_mem_append.1 hstays
    rw [← List.append_assoc, h.after_concat_state]
    cases more with
    | nil =>
      obtain ⟨hnumber, hdealt⟩ := dealt_next_roundStart config (p.after events).state (hhead e rfl)
      rw [List.append_nil, hnumber, hround]
      exact ⟨.inr (Nat.lt_succ_self _), amounts_of_asDealt hdealt round id⟩
    | cons first more =>
      obtain ⟨hnil | hlt, hsame⟩ := ih hhead hpast
      · cases hnil
      · have hcombat := combat_respond config ((p.after (events ++ first :: more)).state.advance e.tick) e.tick e.event
        obtain ⟨hnext, hkept⟩ := hcombat.amounts_eq (hlast e List.mem_cons_self) hlt id
        exact ⟨.inr hnext, hkept.trans hsame⟩

/-- Closing a match fills in the grenades of its damages, and no amount. -/
theorem amounts_of_reaches (h : Fresh header config p) (hq : Reaches p events q) (round : Nat) (id : PlayerId) :
    (q.state.damagesOn round id).map Damage.amounts =
      ((p.after events).state.damagesOn round id).map Damage.amounts := by
  refine h.holds_of_reaches (P := fun s => (s.damagesOn round id).map Damage.amounts =
    ((p.after events).state.damagesOn round id).map Damage.amounts) (fun s hs => ?_) rfl hq
  obtain ⟨_, hclosed⟩ := closeState_eq s config
  obtain ⟨_, _, _, _, hstate, -, hdealt, -⟩ := settled_eq s config
  rw [hclosed, hstate]
  exact (amounts_of_asDealt hdealt round id).trans hs

end Processor.Fresh

end Scorebook
