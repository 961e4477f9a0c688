import Scorebook.Proofs.Safety
/-!
# A flash and its blindings, in either order

The stream tells of a flash and of the players that it blinds apart, and a blinding that comes first waits for its
flash.  When blindings belong to the flash of the same thrower at the same tick, the order does not matter: an
explosion enters the flash with all that waited for it in one step (`exploded`), and a blinding that comes before
changes the same things as one that comes after (`exploded_placeBlinding`).
-/
namespace Scorebook

namespace MatchState

variable {s s' : MatchState}

/-! ## Flashes and their entities -/

/-- Every flash is kept under its own entity. -/
structure Keyed (s : MatchState) : Prop where
  own : ∀ {entity : EntityId} {effect : FlashEffect}, s.tables.flashes.get? entity = some effect →
    effect.entity = entity

theorem tables_modifyGrenade (s : MatchState) (place : Option Nat) (f : Grenade → Grenade) :
    (s.modifyGrenade place f).tables = s.tables := by
  unfold modifyGrenade
  split
  · split <;> rfl
  · rfl

namespace Keyed

theorem new (header : Header) (c : Config) : Keyed (MatchState.new header c) where
  own h := by cases h

theorem mono (h : Keyed s) (hf : s'.tables.flashes = s.tables.flashes) : Keyed s' where
  own he := h.own (hf ▸ he)

theorem of_empty (hf : s.tables.flashes = ∅) : Keyed s where
  own he := by
    rw [hf] at he
    cases he

theorem modifyGrenade (h : Keyed s) (place : Option Nat) (f : Grenade → Grenade) : Keyed (s.modifyGrenade place f) :=
  h.mono (by rw [tables_modifyGrenade])

theorem setFlash (h : Keyed s) (effect : FlashEffect) : Keyed (s.setFlash effect) where
  own {entity e} he := by
    have he' : (s.tables.flashes.insert effect.entity effect).get? entity = some e := he
    rw [Table.get?_insert] at he'
    split at he'
    · next hk =>
      cases he'
      exact hk
    · exact h.own he'

theorem attachBlinding (h : Keyed s) (entity : EntityId) (player : PlayerId) (duration : Float) :
    Keyed (s.attachBlinding entity player duration) := by
  unfold MatchState.attachBlinding
  split
  · exact h
  · split
    · exact h
    · exact (h.setFlash _).modifyGrenade _ _

theorem placeBlinding (h : Keyed s) (m : FlashMatching) (player thrower : PlayerId) (tick : Tick)
    (duration : Float) : Keyed (s.placeBlinding m player thrower tick duration) := by
  unfold MatchState.placeBlinding
  split
  · exact h.attachBlinding _ _ _
  · exact h.mono rfl

theorem startFlash (h : Keyed s) (c : Config) (n : ProjectileNotice) (thrower : PlayerId) (tick : Tick)
    (place : Option Nat) : Keyed (s.startFlash c n thrower tick place) := by
  unfold MatchState.startFlash drainBlindings
  simp only
  refine List.foldlRecOn _ _ ?_ (fun s hs p _ => hs.attachBlinding _ _ _)
  exact (h.setFlash _).mono rfl

theorem markFlashes (h : Keyed s) (c : Config) (killer victim : PlayerId) (tick : Tick) :
    Keyed (s.markFlashes c killer victim tick) :=
  List.foldlRecOn _ _ h (fun _ hs _ _ => hs.modifyGrenade _ _)

theorem observe (h : Keyed s) (a : Actor) : Keyed (s.observe a) := h.mono (by rw [observe_tables])

theorem observeOptional (h : Keyed s) (a : Option Actor) : Keyed (s.observeOptional a) := by
  cases a with
  | none => exact h
  | some a => exact h.observe a

theorem noteThrower (h : Keyed s) (n : ProjectileNotice) (tick : Tick) : Keyed (s.noteThrower n tick) := by
  rw [noteThrower_eq]
  exact h.mono rfl

theorem recordGrenade (h : Keyed s) (n : ProjectileNotice) (thrown : Throw) (tick : Tick) :
    Keyed (s.recordGrenade n thrown tick) := by
  unfold MatchState.recordGrenade
  rw [noteThrower_eq]
  exact h.mono rfl

/-- **Every answer of a match keeps flashes under their entities.** -/
theorem kept (c : Config) : Kept c Keyed where
  clock _ _ h := h.mono rfl
  sights _ _ h := h.mono rfl
  answer := by
    intro s tick e step ha h
    have died (a : Actor) (cause : ExitCause) : Keyed (s.recordDeath a cause tick) := (h.observe a).mono rfl
    cases ha with
    | passed | idle => exact h
    | restarted =>
      unfold restart
      split
      · exact h
      · exact .of_empty rfl
    | begun => exact .of_empty rfl
    | thawed hl =>
      unfold recordFreezeEnd
      rw [if_pos hl]
      exact h.mono rfl
    | decided =>
      rw [decideRound_eq]
      exact h.mono rfl
    | died => exact died _ _
    | weaponless => exact died _ _
    | @killed n killer victim weapon =>
      have hk := (died victim (.killed killer.id)).observe killer
      simp only [enterGunfight]
      split
      · exact hk.mono rfl
      · exact (hk.markFlashes c _ _ tick).mono rfl
    | hit => exact ((h.observe _).observeOptional _).mono rfl
    | fired =>
      refine observe ?_ _
      unfold fire
      split
      · exact h.mono rfl
      · split
        · exact h.mono rfl
        · exact h
    | thrown => exact h.mono rfl
    | unseen => exact h.noteThrower _ tick
    | detonated => exact h.recordGrenade _ _ tick
    | flashMoved => exact (h.setFlash _).modifyGrenade _ _
    | flashUnseen => exact (h.noteThrower _ tick).startFlash c _ _ tick _
    | flashStarted => exact (h.recordGrenade _ _ tick).startFlash c _ _ tick _
    | @blinded n player thrower =>
      have hb : Keyed (s.noteBlinded player.id) := h.mono rfl
      exact hb.placeBlinding _ _ _ tick _
    | bombed => exact (h.observeOptional _).mono rfl
    | shown => exact h.observe _
    | left | gone => exact h.mono rfl

end Keyed

end MatchState

/-! ## A change at a place of a longer list -/

theorem modify_concat {α : Type} (f : α → α) (a : α) :
    ∀ l : List α, (l ++ [a]).modify l.length f = l ++ [f a]
  | [] => rfl
  | b :: l => by
    rw [List.cons_append, List.length_cons, List.modify_succ_cons, modify_concat f a l]
    rfl

theorem modify_append_of_lt {α : Type} (f : α → α) (l' : List α) :
    ∀ {l : List α} {i : Nat}, i < l.length → (l ++ l').modify i f = l.modify i f ++ l'
  | [], _, h => by cases h
  | _ :: _, 0, _ => rfl
  | a :: l, i + 1, h => by
    rw [List.cons_append, List.modify_succ_cons, List.modify_succ_cons,
      modify_append_of_lt f l' (Nat.lt_of_succ_lt_succ h)]
    rfl

/-! ## A flash with its record -/

/-- A flash that detonates, with its record if its throw was seen. -/
structure Burst where
  effect : FlashEffect
  record : Option Grenade

namespace Burst

/-- The flash with a player blinded by it, unless it has blinded the player before. -/
def blind (b : Burst) (isEnemy : Bool) (player : PlayerId) (duration : Float) : Burst :=
  if b.effect.affected.any (·.player = player) then b
  else
    { effect := { b.effect with affected := b.effect.affected ++ [⟨player, isEnemy, duration⟩] }
      record := b.record.map (·.addBlinding isEnemy duration) }

/-- The flash with everybody blinded who waited for it. -/
def blindAll (b : Burst) (isEnemy : PlayerId → Bool) (waited : List PendingBlinding) : Burst :=
  waited.foldl (fun b p => b.blind (isEnemy p.player) p.player p.duration) b

/-- Blinding players changes neither the flash nor when and by whom it was thrown. -/
structure Same (b b' : Burst) : Prop where
  entity : b'.effect.entity = b.effect.entity
  round : b'.effect.round = b.effect.round
  tick : b'.effect.tick = b.effect.tick
  thrower : b'.effect.thrower = b.effect.thrower

theorem Same.refl (b : Burst) : Same b b := ⟨rfl, rfl, rfl, rfl⟩

theorem Same.trans {b b' b'' : Burst} (h : Same b b') (h' : Same b' b'') : Same b b'' :=
  ⟨h'.entity.trans h.entity, h'.round.trans h.round, h'.tick.trans h.tick, h'.thrower.trans h.thrower⟩

theorem same_blind (b : Burst) (isEnemy : Bool) (player : PlayerId) (duration : Float) :
    Same b (b.blind isEnemy player duration) := by
  unfold blind
  split
  · exact .refl b
  · exact ⟨rfl, rfl, rfl, rfl⟩

theorem same_blindAll (isEnemy : PlayerId → Bool) :
    ∀ (waited : List PendingBlinding) (b : Burst), Same b (b.blindAll isEnemy waited)
  | [], b => .refl b
  | _ :: waited, b => (same_blind b _ _ _).trans (same_blindAll isEnemy waited _)

end Burst

namespace MatchState

variable {s : MatchState} {b : Burst} {entity : EntityId} {player : PlayerId} {duration : Float}

/-! ## Entering a flash -/

/-- The match with a flash and its record entered. -/
def enterBurst (s : MatchState) (b : Burst) : MatchState :=
  { s with
    grenades := s.grenades ++ b.record.toList
    tables := { s.tables with flashes := s.tables.flashes.insert b.effect.entity b.effect } }

/-- The record of the flash, if it has one, is the next of the match. -/
def IsNext (s : MatchState) (b : Burst) : Prop := b.effect.grenade = b.record.map (fun _ => s.grenades.length)

theorem isNext_blind (h : s.IsNext b) (isEnemy : Bool) (player : PlayerId) (duration : Float) :
    s.IsNext (b.blind isEnemy player duration) := by
  unfold Burst.blind
  split
  · exact h
  · show b.effect.grenade = (b.record.map _).map _
    rw [Option.map_map]
    exact h

theorem isNext_blindAll (isEnemy : PlayerId → Bool) :
    ∀ (waited : List PendingBlinding) {b : Burst}, s.IsNext b → s.IsNext (b.blindAll isEnemy waited)
  | [], _, h => h
  | _ :: waited, _, h => isNext_blindAll isEnemy waited (isNext_blind h _ _ _)

/-- **A player whom a flash blinds right after it is entered might as well have waited for it.** -/
theorem attachBlinding_enterBurst_self (h : s.IsNext b) (player : PlayerId) (duration : Float) :
    (s.enterBurst b).attachBlinding b.effect.entity player duration =
      s.enterBurst (b.blind (s.sameTeam? b.effect.thrower player = some false) player duration) := by
  have hget : (s.enterBurst b).tables.flashes.get? b.effect.entity = some b.effect := Table.get?_insert_self _ _ _
  have hteam : (s.enterBurst b).sameTeam? b.effect.thrower player = s.sameTeam? b.effect.thrower player := rfl
  unfold attachBlinding Burst.blind
  simp only [hget, hteam]
  split
  · rfl
  · obtain ⟨effect, record⟩ := b
    have hplace : effect.grenade = record.map (fun _ => s.grenades.length) := h
    cases record with
    | none =>
      have hplace : effect.grenade = none := hplace
      simp only [modifyGrenade, hplace, setFlash, enterBurst, Table.insert_insert]
      rfl
    | some record =>
      have hplace : effect.grenade = some s.grenades.length := hplace
      simp [modifyGrenade, hplace, setFlash, enterBurst, Table.insert_insert, modify_concat]

/-- **A player whom another flash blinds has nothing to do with a flash that is entered.** -/
theorem attachBlinding_enterBurst (hk : Keyed s) (hp : Placed s) (hne : b.effect.entity ≠ entity) (player : PlayerId)
    (duration : Float) :
    (s.enterBurst b).attachBlinding entity player duration =
      (s.attachBlinding entity player duration).enterBurst b := by
  have hget : (s.enterBurst b).tables.flashes.get? entity = s.tables.flashes.get? entity :=
    Table.get?_insert_of_ne _ _ hne
  have hteam (thrower : PlayerId) : (s.enterBurst b).sameTeam? thrower player = s.sameTeam? thrower player := rfl
  unfold attachBlinding
  simp only [hget, hteam]
  cases he : s.tables.flashes.get? entity with
  | none => rfl
  | some effect =>
    simp only
    split
    · rfl
    · have hne : b.effect.entity ≠ effect.entity := by
        rw [hk.own he]
        exact hne
      cases hg : effect.grenade with
      | none =>
        simp only [modifyGrenade, setFlash, enterBurst]
        rw [Table.insert_comm _ _ _ hne]
      | some i =>
        -- the record of the other flash is one of those before, and stays where it is
        have hi : i < s.grenades.length := hp.place he i hg
        have hi' : i < (s.grenades ++ b.record.toList).length := by
          rw [List.length_append]
          omega
        simp only [modifyGrenade, setFlash, enterBurst, hi, hi', if_true, modify_append_of_lt _ _ hi]
        rw [Table.insert_comm _ _ _ hne]

/-- The players of a list who wait for a flash that is entered. -/
theorem foldl_attachBlinding_enterBurst {thrower : PlayerId} (he : b.effect.entity = entity)
    (ht : b.effect.thrower = thrower) (h : s.IsNext b) (waited : List PendingBlinding) :
    waited.foldl (fun s p => s.attachBlinding entity p.player p.duration) (s.enterBurst b) =
      s.enterBurst (b.blindAll (fun player => s.sameTeam? thrower player = some false) waited) := by
  induction waited generalizing b with
  | nil => rfl
  | cons p waited ih =>
    subst he ht
    have hsame := Burst.same_blind b (s.sameTeam? b.effect.thrower p.player = some false) p.player p.duration
    rw [List.foldl_cons, attachBlinding_enterBurst_self h]
    exact ih hsame.entity hsame.thrower (isNext_blind h _ _ _)

/-! ## An explosion in one step -/

/-- Whether a blinding that waits belongs to a flash of a thrower at a tick. -/
def awaits (p : PendingBlinding) (round : Nat) (m : FlashMatching) (thrower : PlayerId) (tick : Tick) : Bool :=
  p.round = round && p.thrower = thrower && m.allows p.tick tick

def withPending (s : MatchState) (pending : List PendingBlinding) : MatchState :=
  { s with tables := { s.tables with pendingBlindings := pending } }

/-- The match without the blindings that wait for a flash. -/
def release (s : MatchState) (m : FlashMatching) (thrower : PlayerId) (tick : Tick) : MatchState :=
  s.withPending (s.tables.pendingBlindings.filter (fun p => !awaits p s.round.number m thrower tick))

/-- The match with the throw of a projectile used up, and the detonation noted for its thrower. -/
def spend (s : MatchState) (n : ProjectileNotice) (thrower : PlayerId) (tick : Tick) : MatchState :=
  { s with
    tables := { s.tables with
      throws := s.tables.throws.erase n.entity
      records :=
        if s.tables.throws.contains n.entity then s.tables.records.insert n.entity s.grenades.length
        else s.tables.records
      detonations := s.tables.detonations.insert (thrower, tick) () } }

/-- A flash as it detonates, with nobody blinded yet. -/
def firstBurst (s : MatchState) (n : ProjectileNotice) (thrower : PlayerId) (tick : Tick) : Burst where
  effect :=
    { entity := n.entity, round := s.round.number, tick, position := n.position, thrower
      grenade := (s.tables.throws.get? n.entity).map (fun _ => s.grenades.length) }
  record := (s.tables.throws.get? n.entity).map (fun thrown => grenadeOf thrown n tick)

/-- A flash with everybody blinded who waited for it. -/
def burstOf (s : MatchState) (m : FlashMatching) (n : ProjectileNotice) (thrower : PlayerId) (tick : Tick) : Burst :=
  (s.firstBurst n thrower tick).blindAll (fun player => s.sameTeam? thrower player = some false)
    (s.tables.pendingBlindings.filter (awaits · s.round.number m thrower tick))

def exploded (s : MatchState) (m : FlashMatching) (n : ProjectileNotice) (thrower : PlayerId) (tick : Tick) :
    MatchState :=
  ((s.spend n thrower tick).release m thrower tick).enterBurst (s.burstOf m n thrower tick)

@[simp] theorem entity_burstOf (s : MatchState) (m : FlashMatching) (n : ProjectileNotice) (thrower : PlayerId)
    (tick : Tick) : (s.burstOf m n thrower tick).effect.entity = n.entity :=
  (Burst.same_blindAll _ _ (s.firstBurst n thrower tick)).entity

@[simp] theorem round_burstOf (s : MatchState) (m : FlashMatching) (n : ProjectileNotice) (thrower : PlayerId)
    (tick : Tick) : (s.burstOf m n thrower tick).effect.round = s.round.number :=
  (Burst.same_blindAll _ _ (s.firstBurst n thrower tick)).round

@[simp] theorem thrower_burstOf (s : MatchState) (m : FlashMatching) (n : ProjectileNotice) (thrower : PlayerId)
    (tick : Tick) : (s.burstOf m n thrower tick).effect.thrower = thrower :=
  (Burst.same_blindAll _ _ (s.firstBurst n thrower tick)).thrower

@[simp] theorem tick_burstOf (s : MatchState) (m : FlashMatching) (n : ProjectileNotice) (thrower : PlayerId)
    (tick : Tick) : (s.burstOf m n thrower tick).effect.tick = tick :=
  (Burst.same_blindAll _ _ (s.firstBurst n thrower tick)).tick

theorem get?_flashes_exploded (s : MatchState) (m : FlashMatching) (n : ProjectileNotice) (thrower : PlayerId)
    (tick : Tick) (k : EntityId) : (s.exploded m n thrower tick).tables.flashes.get? k =
      if n.entity = k then some (s.burstOf m n thrower tick).effect else s.tables.flashes.get? k := by
  rw [← entity_burstOf s m n thrower tick]
  exact Table.get?_insert _ _ _ _

theorem isNext_firstBurst (s : MatchState) (n : ProjectileNotice) (thrower : PlayerId) (tick : Tick) :
    (s.spend n thrower tick).IsNext (s.firstBurst n thrower tick) := by
  unfold IsNext firstBurst
  rw [Option.map_map]
  rfl

theorem drainBlindings_enterBurst (h : s.IsNext b) (m : FlashMatching) (tick : Tick) :
    (s.enterBurst b).drainBlindings m b.effect.entity b.effect.thrower tick =
      (s.release m b.effect.thrower tick).enterBurst
        (b.blindAll (fun player => s.sameTeam? b.effect.thrower player = some false)
          (s.tables.pendingBlindings.filter (awaits · s.round.number m b.effect.thrower tick))) :=
  foldl_attachBlinding_enterBurst (s := s.release m b.effect.thrower tick) rfl rfl h _

/-- **A flash that explodes for the first time is entered in one step**, unless its thrower had a grenade detonate at
that tick already. -/
theorem recordFlashExplode_state {n : ProjectileNotice} {thrower : Actor} (c : Config) (tick : Tick)
    (ho : s.round.isOpen = true) (hn : n.thrower = some thrower) (he : s.tables.flashes.get? n.entity = none) :
    (s.recordFlashExplode c n tick).state =
      if s.tables.detonations.contains (thrower.id, tick) then s
      else s.exploded c.flashMatching n thrower.id tick := by
  have hthrower : s.throwerOf? n = some thrower.id := by
    rw [throwerOf?, hn]
    rfl
  -- with a record or without, what is left is to let in whoever waited
  have started (t : MatchState) (place : Option Nat)
      (ht : t.setFlash { entity := n.entity, round := t.round.number, tick, position := n.position,
                         thrower := thrower.id, grenade := place } =
        (s.spend n thrower.id tick).enterBurst (s.firstBurst n thrower.id tick)) :
      t.startFlash c n thrower.id tick place = s.exploded c.flashMatching n thrower.id tick := by
    unfold startFlash
    rw [ht]
    exact drainBlindings_enterBurst (isNext_firstBurst s n thrower.id tick) c.flashMatching tick
  unfold recordFlashExplode detonate
  simp only [ho, hn, he, hthrower, Bool.not_true, Bool.false_eq_true, if_false]
  by_cases hd : s.tables.detonations.contains (thrower.id, tick) = true
  · simp only [hd, if_true]
  · simp only [hd]
    cases ht : s.tables.throws.get? n.entity with
    | none =>
      have herase := Table.erase_of_get?_none ht
      simp only [enterGrenade, noteDetonation, ht]
      refine started _ none ?_
      simp [setFlash, enterBurst, spend, firstBurst, Table.contains, ht, herase]
    | some thrown =>
      simp only [enterGrenade, noteDetonation, ht]
      refine started _ (some s.grenades.length) ?_
      simp [setFlash, enterBurst, spend, firstBurst, Table.contains, ht]

/-- A flash that is known moves. -/
theorem recordFlashExplode_known {n : ProjectileNotice} {thrower : Actor} {effect : FlashEffect} (c : Config) (tick : Tick)
    (ho : s.round.isOpen = true) (hn : n.thrower = some thrower) (he : s.tables.flashes.get? n.entity = some effect) :
    (s.recordFlashExplode c n tick).state = s.moveFlash effect tick n.position := by
  unfold recordFlashExplode
  simp only [ho, hn, he, Bool.not_true, Bool.false_eq_true, if_false]

/-! ## A blinding before an explosion -/

section Before

variable {m : FlashMatching} {n : ProjectileNotice} {thrower : PlayerId} {tick : Tick}

theorem side?_noteBlinded (s : MatchState) (player id : PlayerId) : (s.noteBlinded player).side? id = s.side? id := by
  have hget : (s.noteBlinded player).conditions.get? id =
      if player = id then (s.conditions.get? id).map (fun c => { c with isFlashed := true })
      else s.conditions.get? id := Table.get?_modify _ _ _ _
  have hteam : (s.noteBlinded player).team? id = s.team? id := rfl
  unfold side?
  rw [hteam, hget]
  cases s.team? id with
  | some team => rfl
  | none =>
    by_cases hid : player = id
    · rw [if_pos hid]
      cases s.conditions.get? id <;> rfl
    · rw [if_neg hid]

theorem sameTeam?_noteBlinded (s : MatchState) (player a b : PlayerId) :
    (s.noteBlinded player).sameTeam? a b = s.sameTeam? a b := by
  unfold sameTeam?
  rw [side?_noteBlinded, side?_noteBlinded]
  rfl

theorem exploded_noteBlinded (s : MatchState) (player : PlayerId) :
    (s.noteBlinded player).exploded m n thrower tick = (s.exploded m n thrower tick).noteBlinded player := by
  have hburst : (s.noteBlinded player).burstOf m n thrower tick = s.burstOf m n thrower tick := by
    unfold burstOf
    simp only [sameTeam?_noteBlinded]
    rfl
  unfold exploded
  rw [hburst]
  rfl

/-- A blinding that waits for the flash is attached to it when it explodes. -/
theorem exploded_awaitFlash {p : PendingBlinding} (h : awaits p s.round.number m thrower tick = true) :
    (s.awaitFlash p).exploded m n thrower tick =
      (s.exploded m n thrower tick).attachBlinding n.entity p.player p.duration := by
  have hnext : ((s.spend n thrower tick).release m thrower tick).IsNext (s.burstOf m n thrower tick) :=
    isNext_blindAll _ _ (isNext_firstBurst s n thrower tick)
  have hwait : ((s.awaitFlash p).spend n thrower tick).release m thrower tick =
      (s.spend n thrower tick).release m thrower tick := by
    have hfilter : (s.tables.pendingBlindings ++ [p]).filter (fun p => !awaits p s.round.number m thrower tick) =
        s.tables.pendingBlindings.filter (fun p => !awaits p s.round.number m thrower tick) := by
      simp [h]
    exact congrArg (s.spend n thrower tick).withPending hfilter
  have hburst : (s.awaitFlash p).burstOf m n thrower tick =
      (s.burstOf m n thrower tick).blind (s.sameTeam? thrower p.player = some false) p.player p.duration := by
    have hfilter : (s.awaitFlash p).tables.pendingBlindings.filter
        (awaits · (s.awaitFlash p).round.number m thrower tick) =
        s.tables.pendingBlindings.filter (awaits · s.round.number m thrower tick) ++ [p] := by
      simp [awaitFlash, h]
    unfold burstOf Burst.blindAll
    rw [hfilter, List.foldl_append]
    rfl
  have hself := attachBlinding_enterBurst_self hnext p.player p.duration
  rw [entity_burstOf, thrower_burstOf] at hself
  unfold exploded
  rw [hwait, hburst, hself]
  rfl

/-- A blinding that does not wait for the flash still waits after it. -/
theorem exploded_awaitFlash_of_not {p : PendingBlinding} (h : awaits p s.round.number m thrower tick = false) :
    (s.awaitFlash p).exploded m n thrower tick = (s.exploded m n thrower tick).awaitFlash p := by
  have hwait : ((s.awaitFlash p).spend n thrower tick).release m thrower tick =
      ((s.spend n thrower tick).release m thrower tick).awaitFlash p := by
    have hfilter : (s.tables.pendingBlindings ++ [p]).filter (fun p => !awaits p s.round.number m thrower tick) =
        s.tables.pendingBlindings.filter (fun p => !awaits p s.round.number m thrower tick) ++ [p] := by
      simp [h]
    exact congrArg (s.spend n thrower tick).withPending hfilter
  have hburst : (s.awaitFlash p).burstOf m n thrower tick = s.burstOf m n thrower tick := by
    have hfilter : (s.awaitFlash p).tables.pendingBlindings.filter
        (awaits · (s.awaitFlash p).round.number m thrower tick) =
        s.tables.pendingBlindings.filter (awaits · s.round.number m thrower tick) := by
      simp [awaitFlash, h]
    unfold burstOf
    rw [hfilter]
    rfl
  unfold exploded
  rw [hwait, hburst]
  rfl

/-- Attaching a blinding changes flashes and the records that are there. -/
theorem attachBlinding_frame (s : MatchState) (entity : EntityId) (player : PlayerId) (duration : Float) :
    ∃ flashes grenades strayed,
      s.attachBlinding entity player duration = { s with tables := { s.tables with flashes }, grenades, strayed } ∧
        grenades.length = s.grenades.length := by
  have hsame : ∃ flashes grenades strayed, s = { s with tables := { s.tables with flashes }, grenades, strayed } ∧
      grenades.length = s.grenades.length := ⟨_, _, _, rfl, rfl⟩
  unfold attachBlinding
  split
  · exact hsame
  · split
    · exact hsame
    · simp only [modifyGrenade]
      split
      · split
        · exact ⟨_, _, _, rfl, List.length_modify ..⟩
        · exact ⟨_, _, _, rfl, rfl⟩
      · exact ⟨_, _, _, rfl, rfl⟩

/-- Attaching a blinding reads nothing of what an explosion uses up. -/
theorem attachBlinding_release_spend (s : MatchState) (entity : EntityId) (player : PlayerId) (duration : Float) :
    ((s.attachBlinding entity player duration).spend n thrower tick).release m thrower tick =
      ((s.spend n thrower tick).release m thrower tick).attachBlinding entity player duration := by
  have hget : ((s.spend n thrower tick).release m thrower tick).tables.flashes.get? entity =
      s.tables.flashes.get? entity := rfl
  have hteam (a b : PlayerId) : ((s.spend n thrower tick).release m thrower tick).sameTeam? a b = s.sameTeam? a b := rfl
  unfold attachBlinding
  simp only [hget, hteam]
  cases s.tables.flashes.get? entity with
  | none => rfl
  | some effect =>
    simp only
    split
    · rfl
    · cases effect.grenade with
      | none => rfl
      | some i =>
        by_cases hi : i < s.grenades.length
        · simp only [modifyGrenade, setFlash, spend, release, withPending, hi, if_true, List.length_modify]
        · simp only [modifyGrenade, setFlash, spend, release, withPending, hi, if_false]

/-- **A blinding that belongs to another flash has nothing to do with an explosion.** -/
theorem exploded_attachBlinding (hk : Keyed s) (hp : Placed s) (hne : n.entity ≠ entity) (player : PlayerId)
    (duration : Float) :
    (s.attachBlinding entity player duration).exploded m n thrower tick =
      (s.exploded m n thrower tick).attachBlinding entity player duration := by
  have hburst : (s.attachBlinding entity player duration).burstOf m n thrower tick = s.burstOf m n thrower tick := by
    obtain ⟨flashes, grenades, strayed, hs, hl⟩ := attachBlinding_frame s entity player duration
    rw [hs]
    unfold burstOf firstBurst
    simp only [hl]
    rfl
  have hk' : Keyed ((s.spend n thrower tick).release m thrower tick) := hk.mono rfl
  have hp' : Placed ((s.spend n thrower tick).release m thrower tick) := hp.mono rfl (Nat.le_refl _) rfl
  have hne' : (s.burstOf m n thrower tick).effect.entity ≠ entity := by
    rw [entity_burstOf]
    exact hne
  unfold exploded
  rw [hburst, attachBlinding_release_spend, attachBlinding_enterBurst hk' hp' hne']

/-! ## Which flash a blinding belongs to -/

/-- Whether a blinding by a thrower at a tick of a round can belong to a flash. -/
def accepts (e : FlashEffect) (round : Nat) (m : FlashMatching) (thrower : PlayerId) (tick : Tick) : Bool :=
  e.round = round && e.thrower = thrower && m.allows tick e.tick

theorem accepts_exact_iff {e : FlashEffect} {round : Nat} :
    accepts e round .exact thrower tick = true ↔ e.round = round ∧ e.thrower = thrower ∧ e.tick = tick := by
  simp only [accepts, FlashMatching.allows, Bool.and_eq_true, decide_eq_true_eq]
  constructor
  · rintro ⟨⟨hround, hthrower⟩, htick⟩
    exact ⟨hround, hthrower, htick.symm⟩
  · rintro ⟨hround, hthrower, htick⟩
    exact ⟨⟨hround, hthrower⟩, htick.symm⟩

theorem flashOf?_congr {s' : MatchState}
    (h : s'.tables.flashes.values.filter (accepts · s'.round.number m thrower tick) =
      s.tables.flashes.values.filter (accepts · s.round.number m thrower tick)) :
    s'.flashOf? m thrower tick = s.flashOf? m thrower tick :=
  congrArg (fun flashes => (nearestTo? tick FlashEffect.tick flashes).map FlashEffect.entity) h

/-- An explosion adds its flash to those of the match. -/
theorem values_exploded (m : FlashMatching) (thrower : PlayerId) (tick : Tick)
    (hnone : s.tables.flashes.get? n.entity = none) :
    ∃ before after, s.tables.flashes.values = before ++ after ∧
      (s.exploded m n thrower tick).tables.flashes.values = before ++ (s.burstOf m n thrower tick).effect :: after := by
  rw [← entity_burstOf s m n thrower tick] at hnone
  exact Table.insert_of_get?_none hnone (s.burstOf m n thrower tick).effect

theorem flashOf?_exploded_self (hnone : s.tables.flashes.get? n.entity = none)
    (hfirst : ∀ e ∈ s.tables.flashes.values, ¬ (e.thrower = thrower ∧ e.tick = tick)) :
    (s.exploded m n thrower tick).flashOf? .exact thrower tick = some n.entity := by
  obtain ⟨before, after, hvalues, hinsert⟩ := values_exploded m thrower tick hnone
  have hother : ∀ e ∈ before ++ after, ¬ accepts e s.round.number .exact thrower tick = true := by
    intro e he hmatch
    exact hfirst e (hvalues ▸ he) (accepts_exact_iff.1 hmatch).2
  have hbefore := List.filter_eq_nil_iff.2 (fun e he => hother e (List.mem_append_left after he))
  have hafter := List.filter_eq_nil_iff.2 (fun e he => hother e (List.mem_append_right before he))
  have hself : accepts (s.burstOf m n thrower tick).effect s.round.number .exact thrower tick = true := by
    simp [accepts_exact_iff]
  have hfilter : (s.exploded m n thrower tick).tables.flashes.values.filter
      (accepts · s.round.number .exact thrower tick) = [(s.burstOf m n thrower tick).effect] := by
    rw [hinsert, List.filter_append, hbefore, List.filter_cons, hafter, hself]
    rfl
  have hfound := congrArg (fun flashes => (nearestTo? tick FlashEffect.tick flashes).map FlashEffect.entity) hfilter
  exact hfound.trans (congrArg some (entity_burstOf s m n thrower tick))

theorem flashOf?_exploded (hnone : s.tables.flashes.get? n.entity = none) {other : PlayerId} {moment : Tick}
    (hne : ¬ (other = thrower ∧ moment = tick)) :
    (s.exploded m n thrower tick).flashOf? .exact other moment = s.flashOf? .exact other moment := by
  obtain ⟨before, after, hvalues, hinsert⟩ := values_exploded m thrower tick hnone
  have hmiss : accepts (s.burstOf m n thrower tick).effect s.round.number .exact other moment = false := by
    rw [Bool.eq_false_iff, ne_eq, accepts_exact_iff]
    rintro ⟨-, hthrower, htick⟩
    rw [thrower_burstOf] at hthrower
    rw [tick_burstOf] at htick
    exact hne ⟨hthrower.symm, htick.symm⟩
  have hnumber : (s.exploded m n thrower tick).round.number = s.round.number := rfl
  apply flashOf?_congr
  rw [hnumber, hinsert, hvalues, List.filter_append, List.filter_append, List.filter_cons, hmiss]
  simp

/-- The flash that a blinding belongs to is one of the match. -/
theorem get?_of_flashOf? (hk : Keyed s) (h : s.flashOf? m thrower tick = some entity) :
    ∃ effect, s.tables.flashes.get? entity = some effect ∧ accepts effect s.round.number m thrower tick = true := by
  unfold flashOf? at h
  obtain ⟨effect, he, rfl⟩ := Option.map_eq_some_iff.1 h
  have hmem : effect ∈ s.tables.flashes.values.filter (accepts · s.round.number m thrower tick) := mem_of_leastBy? he
  obtain ⟨hvalue, haccepts⟩ := List.mem_filter.1 hmem
  obtain ⟨k, hk'⟩ := Table.mem_values_iff.1 hvalue
  refine ⟨effect, ?_, haccepts⟩
  rw [hk.own hk']
  exact hk'

end Before

/-! ## Either order -/

/-- A match for which the flash of an entity would be the first of its thrower at a tick. -/
structure Expects (s : MatchState) (entity : EntityId) (thrower : PlayerId) (tick : Tick) : Prop where
  keyed : Keyed s
  placed : Placed s
  absent : s.tables.flashes.get? entity = none
  first : ∀ e ∈ s.tables.flashes.values, ¬ (e.thrower = thrower ∧ e.tick = tick)

namespace Expects

variable {entity : EntityId} {thrower : PlayerId} {tick : Tick}

theorem frame {s' : MatchState} (h : s.Expects entity thrower tick) (hf : s'.tables.flashes = s.tables.flashes)
    (hg : s'.grenades = s.grenades) (hs : s'.strayed = s.strayed) : s'.Expects entity thrower tick where
  keyed := h.keyed.mono hf
  placed := h.placed.mono hf (Nat.le_of_eq (by rw [hg])) hs
  absent := hf ▸ h.absent
  first := hf ▸ h.first

theorem ne_of_get? (h : s.Expects entity thrower tick) {other : EntityId} {effect : FlashEffect}
    (he : s.tables.flashes.get? other = some effect) : entity ≠ other := by
  rintro rfl
  rw [h.absent] at he
  cases he

/-- A blinding that is attached leaves the flashes those of their throwers and ticks. -/
theorem attachBlinding (h : s.Expects entity thrower tick) (other : EntityId) (player : PlayerId) (duration : Float) :
    (s.attachBlinding other player duration).Expects entity thrower tick := by
  have hk := h.keyed.attachBlinding other player duration
  have hp := h.placed.attachBlinding other player duration
  unfold MatchState.attachBlinding at hk hp ⊢
  cases he : s.tables.flashes.get? other with
  | none =>
    simp only
    exact h
  | some effect =>
    simp only [he] at hk hp ⊢
    split
    · exact h
    · next hnew =>
      simp only [hnew] at hk hp
      have hother : effect.entity = other := h.keyed.own he
      have hne := h.ne_of_get? he
      refine ⟨hk, hp, ?_, fun e hmem => ?_⟩
      · rw [tables_modifyGrenade]
        show (s.tables.flashes.insert effect.entity _).get? entity = none
        rw [Table.get?_insert_of_ne _ _ (by rw [hother]; exact hne.symm)]
        exact h.absent
      · rw [tables_modifyGrenade] at hmem
        obtain ⟨k, hk⟩ := Table.mem_values_iff.1 hmem
        have hk : (s.tables.flashes.insert effect.entity _).get? k = some e := hk
        rw [Table.get?_insert] at hk
        split at hk
        · cases hk
          exact h.first effect (Table.mem_values_iff.2 ⟨other, he⟩)
        · exact h.first e (Table.mem_values_iff.2 ⟨k, hk⟩)

theorem placeBlinding (h : s.Expects entity thrower tick) (m : FlashMatching) (player other : PlayerId) (moment : Tick)
    (duration : Float) : (s.placeBlinding m player other moment duration).Expects entity thrower tick := by
  unfold MatchState.placeBlinding
  split
  · exact h.attachBlinding _ _ _
  · exact h.frame rfl rfl rfl

end Expects

/-- **A blinding does the same before an explosion and after it.** -/
theorem exploded_placeBlinding {n : ProjectileNotice} {thrower : PlayerId} {tick : Tick}
    (h : s.Expects n.entity thrower tick) (player other : PlayerId) (moment : Tick) (duration : Float) :
    (s.placeBlinding .exact player other moment duration).exploded .exact n thrower tick =
      (s.exploded .exact n thrower tick).placeBlinding .exact player other moment duration := by
  unfold placeBlinding
  -- a blinding of this flash waits before the explosion and finds the flash after it; any other finds the same flash
  -- before and after, or waits
  by_cases hown : other = thrower ∧ moment = tick
  · obtain ⟨rfl, rfl⟩ := hown
    have hnone : s.flashOf? .exact other moment = none := by
      cases hf : s.flashOf? .exact other moment with
      | none => rfl
      | some entity =>
        obtain ⟨effect, he, haccepts⟩ := get?_of_flashOf? h.keyed hf
        have hmem : effect ∈ s.tables.flashes.values := Table.mem_values_iff.2 ⟨entity, he⟩
        exact absurd (accepts_exact_iff.1 haccepts).2 (h.first effect hmem)
    rw [hnone, flashOf?_exploded_self h.absent h.first]
    exact exploded_awaitFlash (by simp [awaits, FlashMatching.allows])
  · rw [flashOf?_exploded h.absent hown]
    cases hf : s.flashOf? .exact other moment with
    | none =>
      refine exploded_awaitFlash_of_not ?_
      rw [Bool.eq_false_iff]
      intro hready
      simp only [awaits, FlashMatching.allows, Bool.and_eq_true, decide_eq_true_eq] at hready
      exact hown ⟨hready.1.2, hready.2⟩
    | some entity =>
      obtain ⟨effect, he, -⟩ := get?_of_flashOf? h.keyed hf
      exact exploded_attachBlinding h.keyed h.placed (h.ne_of_get? he) player duration

/-- **A notice of a blinding changes nothing, or blinds a player**, in whatever round it comes. -/
theorem recordFlashed_cases (c : Config) (n : FlashedNotice) (tick : Tick) :
    (∀ s : MatchState, s.round.isOpen = true → (s.recordFlashed c n tick).state = s) ∨
      ∃ player thrower duration, ∀ s : MatchState, s.round.isOpen = true →
        (s.recordFlashed c n tick).state =
          (s.noteBlinded player).placeBlinding c.flashMatching player thrower tick duration := by
  unfold recordFlashed
  cases hp : n.player with
  | none => exact .inl (fun s ho => by simp [ho, Step.stop])
  | some player =>
    cases ha : n.attacker with
    | none => exact .inl (fun s ho => by simp [ho, Step.stop])
    | some thrower =>
      by_cases hd : n.duration.toFloat ≤ 0
      · exact .inl (fun s ho => by simp [ho, hd])
      · exact .inr ⟨player.id, thrower.id, n.duration.toFloat, fun s ho => by simp [ho, hd]⟩

/-- The match after blindings, each told at its tick. -/
def flashed (c : Config) (s : MatchState) (told : List (Tick × FlashedNotice)) : MatchState :=
  told.foldl (fun s e => (s.recordFlashed c e.2 e.1).state) s

theorem placeBlinding_frame (s : MatchState) (m : FlashMatching) (player thrower : PlayerId) (tick : Tick)
    (duration : Float) :
    (s.placeBlinding m player thrower tick duration).round = s.round ∧
      (s.placeBlinding m player thrower tick duration).tables.detonations = s.tables.detonations := by
  unfold placeBlinding
  split
  · next entity _ =>
    obtain ⟨_, _, _, hs, -⟩ := attachBlinding_frame s entity player duration
    rw [hs]
    exact ⟨rfl, rfl⟩
  · exact ⟨rfl, rfl⟩

/-- **One blinding and one explosion, in either order.** -/
theorem recordFlashExplode_recordFlashed {c : Config} {n : ProjectileNotice} {thrower : Actor} {tick : Tick}
    (hm : c.flashMatching = .exact) (ho : s.round.isOpen = true) (hn : n.thrower = some thrower)
    (h : s.Expects n.entity thrower.id tick) (e : Tick × FlashedNotice) :
    (((s.recordFlashed c e.2 e.1).state).recordFlashExplode c n tick).state =
        ((s.recordFlashExplode c n tick).state.recordFlashed c e.2 e.1).state ∧
      (s.recordFlashed c e.2 e.1).state.round.isOpen = true ∧
        (s.recordFlashed c e.2 e.1).state.Expects n.entity thrower.id tick := by
  have hexplode := recordFlashExplode_state c tick ho hn h.absent
  have hopen : (s.recordFlashExplode c n tick).state.round.isOpen = true := by
    rw [hexplode]
    split <;> exact ho
  rcases recordFlashed_cases c e.2 e.1 with hidle | ⟨player, other, duration, hblind⟩
  · rw [hidle s ho, hidle _ hopen]
    exact ⟨rfl, ho, h⟩
  · rw [hblind s ho, hblind _ hopen, hexplode, hm]
    have hnoted : (s.noteBlinded player).Expects n.entity thrower.id tick := h.frame rfl rfl rfl
    have hplaced := hnoted.placeBlinding .exact player other e.1 duration
    obtain ⟨hround, hdetonations⟩ := placeBlinding_frame (s.noteBlinded player) .exact player other e.1 duration
    have hround : ((s.noteBlinded player).placeBlinding .exact player other e.1 duration).round.isOpen = true := by
      rw [hround]
      exact ho
    have hdetonations : ((s.noteBlinded player).placeBlinding .exact player other e.1 duration).tables.detonations =
        s.tables.detonations := hdetonations
    refine ⟨?_, hround, hplaced⟩
    rw [recordFlashExplode_state c tick hround hn hplaced.absent, hdetonations, hm]
    split
    · rfl
    · rw [exploded_placeBlinding hnoted, exploded_noteBlinded]

/-- **Blindings before an explosion might as well come after it.** -/
theorem flashed_recordFlashExplode {c : Config} {n : ProjectileNotice} {thrower : Actor} {tick : Tick}
    (hm : c.flashMatching = .exact) (hn : n.thrower = some thrower) :
    ∀ (early : List (Tick × FlashedNotice)) {s : MatchState}, s.round.isOpen = true →
      s.Expects n.entity thrower.id tick →
        ((s.flashed c early).recordFlashExplode c n tick).state = (s.recordFlashExplode c n tick).state.flashed c early
  | [], _, _, _ => rfl
  | e :: early, s, ho, h => by
    obtain ⟨hcomm, ho', h'⟩ := recordFlashExplode_recordFlashed hm ho hn h e
    have ih := flashed_recordFlashExplode hm hn early ho' h'
    rw [hcomm] at ih
    exact ih

end MatchState

namespace Processor

variable {header : Header} {config : Config} {p : Processor}

/-- **The order in which a flash and its blindings are told does not matter**, when a blinding belongs to the flash of
the same thrower at the same tick.  In an open round of any match, the blindings that come before the first explosion of
a flash might as well come after it. -/
theorem flash_order_irrelevant (h : Fresh header config p) (hm : config.flashMatching = .exact)
    (events : List TimedEvent) (ho : (p.after events).state.round.isOpen = true) {n : ProjectileNotice}
    {thrower : Actor} (hn : n.thrower = some thrower) {tick : Tick}
    (hnew : ∀ entity effect, (p.after events).state.tables.flashes.get? entity = some effect →
      entity ≠ n.entity ∧ ¬ (effect.thrower = thrower.id ∧ effect.tick = tick))
    (early late : List (Tick × FlashedNotice)) :
    (((p.after events).state.flashed config early).recordFlashExplode config n tick).state.flashed config late =
      ((p.after events).state.recordFlashExplode config n tick).state.flashed config (early ++ late) := by
  have hexpects : (p.after events).state.Expects n.entity thrower.id tick := by
    refine ⟨h.keeps_after (MatchState.Keyed.kept config) (.new header config) events,
      h.keeps_after (MatchState.Placed.kept config) (.new header config) events, ?_, fun e he => ?_⟩
    · cases hg : (p.after events).state.tables.flashes.get? n.entity with
      | none => rfl
      | some effect => exact absurd rfl (hnew _ _ hg).1
    · obtain ⟨entity, hg⟩ := Table.mem_values_iff.1 he
      exact (hnew _ _ hg).2
  rw [MatchState.flashed_recordFlashExplode hm hn early ho hexpects]
  unfold MatchState.flashed
  rw [List.foldl_append]

/-- A flash of player 1 that blinds player 2 before it is told to explode, and player 3 after. -/
theorem flash_order_irrelevant_between_blindings :
    ∃ (s : MatchState) (n : ProjectileNotice) (early late : List (Tick × FlashedNotice)),
      s = (({ config := {}, state := MatchState.new { mapName := "de_dust2" } {} } : Processor).after
        [⟨0, .playerConnect { id := 1, allegiance := .counterTerrorist }⟩, ⟨1, .roundStart⟩,
         ⟨50, .projectileThrow { entity := 9, weapon := .flashbang, position := .zero
                                 thrower := some { id := 1, allegiance := .counterTerrorist } }⟩]).state ∧
      n = { entity := 9, weapon := .flashbang, position := .zero
            thrower := some { id := 1, allegiance := .counterTerrorist } } ∧
      early = [(64, { player := some { id := 2, allegiance := .terrorist }, duration := 2
                      attacker := some { id := 1, allegiance := .counterTerrorist } })] ∧
      late = [(64, { player := some { id := 3, allegiance := .terrorist }, duration := 1
                     attacker := some { id := 1, allegiance := .counterTerrorist } })] ∧
      ((s.flashed {} early).recordFlashExplode {} n 64).state.flashed {} late =
        (s.recordFlashExplode {} n 64).state.flashed {} (early ++ late) := by
  have h : Fresh { mapName := "de_dust2" } {} _ := .default rfl
  refine ⟨_, _, _, _, rfl, rfl, rfl, rfl, flash_order_irrelevant h rfl _ (by decide +kernel) rfl ?_ _ _⟩
  intro entity effect he
  cases he

end Processor

end Scorebook
