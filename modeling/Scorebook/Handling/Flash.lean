import Scorebook.Handling.Throw
import Scorebook.Selection
/-!
# Flashes

A flash and the players that it blinds are told by events of their own, in either order.  A blinding is
attached to the detonation of the same thrower in the same round that it matches best, and waits as long as
there is none.  A flash that blinded the victim of a kill shortly before is part of that kill.
-/
namespace Scorebook

def FlashMatching.allows (m : FlashMatching) (blinded detonated : Tick) : Bool :=
  match m with
  | .exact => blinded = detonated
  | .nearestWithin ticks => ((blinded - detonated).natAbs : Int) ≤ ticks

namespace Grenade

def addBlinding (g : Grenade) (isEnemy : Bool) (duration : Float) : Grenade :=
  if isEnemy then
    { g with
      enemiesFlashed := g.enemiesFlashed + 1
      enemyFlashDuration := g.enemyFlashDuration + duration }
  else
    { g with
      teammatesFlashed := g.teammatesFlashed + 1
      teamFlashDuration := g.teamFlashDuration + duration }

def detonateAt (g : Grenade) (tick : Tick) (position : Vector3) : Grenade :=
  { g with detonationTick := tick, detonationPosition := position }

end Grenade

namespace MatchState

/-- The state with the grenade at a place of the records changed.  A place without a record is looked up in
vain, and that is kept in mind. -/
def modifyGrenade (s : MatchState) (place : Option Nat) (f : Grenade → Grenade) : MatchState :=
  match place with
  | some i =>
    if i < s.grenades.length then { s with grenades := s.grenades.modify i f }
    else { s with strayed := true }
  | none => s

def setFlash (s : MatchState) (effect : FlashEffect) : MatchState :=
  { s with tables := { s.tables with flashes := s.tables.flashes.insert effect.entity effect } }

/-! ## Blindings -/

/-- Attaches a blinding to the flash of an entity.  A flash blinds a player once. -/
def attachBlinding (s : MatchState) (entity : EntityId) (player : PlayerId) (duration : Float) :
    MatchState :=
  match s.tables.flashes.get? entity with
  | none => s
  | some effect =>
    if effect.affected.any (·.player = player) then s
    else
      let isEnemy := s.sameTeam? effect.thrower player = some false
      let effect := { effect with affected := effect.affected ++ [⟨player, isEnemy, duration⟩] }
      (s.setFlash effect).modifyGrenade effect.grenade (·.addBlinding isEnemy duration)

/-- The flash that a blinding belongs to: of those of the thrower in the round that it can belong to, the
one nearest in time. -/
def flashOf? (s : MatchState) (m : FlashMatching) (thrower : PlayerId) (tick : Tick) :
    Option EntityId :=
  (nearestTo? tick (·.tick) (s.tables.flashes.values.filter (fun e =>
    e.round = s.round.number && e.thrower = thrower && m.allows tick e.tick))).map (·.entity)

def noteBlinded (s : MatchState) (player : PlayerId) : MatchState :=
  { s with conditions := s.conditions.modify player (fun c => { c with isFlashed := true }) }

def awaitFlash (s : MatchState) (p : PendingBlinding) : MatchState :=
  { s with tables := { s.tables with pendingBlindings := s.tables.pendingBlindings ++ [p] } }

def placeBlinding (s : MatchState) (m : FlashMatching) (player thrower : PlayerId) (tick : Tick)
    (duration : Float) : MatchState :=
  match s.flashOf? m thrower tick with
  | some entity => s.attachBlinding entity player duration
  | none => s.awaitFlash { round := s.round.number, tick, thrower, player, duration }

/-- Handles a blinding.  One that does not last is none. -/
def recordFlashed (s : MatchState) (c : Config) (n : FlashedNotice) (tick : Tick) : Step MatchState :=
  if !s.round.isOpen then .stop s (.noRoundInProgress "player_flashed")
  else
    match n.player, n.attacker with
    | none, _ => .stop s (.missingActor "player_flashed" "player")
    | some _, none => .stop s (.missingActor "player_flashed" "attacker")
    | some player, some thrower =>
      let duration := n.duration.toFloat
      if duration ≤ 0 then { state := s }
      else
        { state := (s.noteBlinded player.id).placeBlinding c.flashMatching player.id thrower.id
            tick duration }

/-! ## Detonations -/

/-- Attaches the blindings that waited for a flash to it. -/
def drainBlindings (s : MatchState) (m : FlashMatching) (entity : EntityId) (thrower : PlayerId)
    (tick : Tick) : MatchState :=
  let ready (p : PendingBlinding) : Bool :=
    p.round = s.round.number && p.thrower = thrower && m.allows p.tick tick
  let waiting := s.tables.pendingBlindings.filter (fun p => !ready p)
  (s.tables.pendingBlindings.filter ready).foldl
    (fun s p => s.attachBlinding entity p.player p.duration)
    { s with tables := { s.tables with pendingBlindings := waiting } }

/-- A flash that is known already detonates again, at another tick or place. -/
def moveFlash (s : MatchState) (effect : FlashEffect) (tick : Tick) (position : Vector3) :
    MatchState :=
  (s.setFlash { effect with tick, position }).modifyGrenade effect.grenade
    (·.detonateAt tick position)

/-- A flash detonates for the first time, with its record at a place of the records if its throw was
seen. -/
def startFlash (s : MatchState) (c : Config) (n : ProjectileNotice) (thrower : PlayerId) (tick : Tick)
    (place : Option Nat) : MatchState :=
  (s.setFlash
    { entity := n.entity, round := s.round.number, tick, position := n.position, thrower
      grenade := place }).drainBlindings c.flashMatching n.entity thrower tick

def recordFlashExplode (s : MatchState) (c : Config) (n : ProjectileNotice) (tick : Tick) :
    Step MatchState :=
  if !s.round.isOpen then .stop s (.noRoundInProgress "flash_explode")
  else
    match n.thrower with
    | none => .stop s (.missingActor "flash_explode" "thrower")
    | some thrower =>
      match s.tables.flashes.get? n.entity with
      | some effect => { state := s.moveFlash effect tick n.position }
      | none =>
        match s.detonate n tick with
        | (s, .repeated) => { state := s }
        | (s, .recorded place) => { state := s.startFlash c n thrower.id tick (some place) }
        | (s, .unseen) =>
          { state := s.startFlash c n thrower.id tick none
            remarks := [.flashWithoutRecord n.entity (.missingThrow n.entity)] }

/-! ## The part of flashes in a kill -/

/-- How a flash swung a kill. -/
inductive FlashOutcome where
  /-- It helped the killer's team. -/
  | leadsToKill
  /-- It blinded a player of the thrower's own team. -/
  | leadsToDeath
deriving DecidableEq

def flashOutcome? (s : MatchState) (killer victim : PlayerId) (e : FlashEffect) :
    Option FlashOutcome :=
  (e.affected.find? (·.player = victim)).bind (fun blinding =>
    match s.sameTeam? e.thrower killer, blinding.isEnemy with
    | some false, false => some .leadsToDeath
    | some true, true => some .leadsToKill
    | _, _ => none)

/-- The flashes of the round that swung a kill, the latest first, those of one tick by entity. -/
def swingingFlashes (s : MatchState) (c : Config) (killer victim : PlayerId) (tick : Tick) :
    List (FlashEffect × FlashOutcome) :=
  let window := Clock.ticks c.flashWindowSeconds s.tickRate
  sortByKey (fun h => (-h.1.tick, h.1.entity)) (s.tables.flashes.values.filterMap (fun e =>
    if e.round = s.round.number && e.tick ≤ tick && tick - e.tick ≤ window then
      (s.flashOutcome? killer victim e).map (e, ·)
    else none))

/-- Who assisted a kill by a flash: the thrower of the latest flash that led to it, the killer excepted. -/
def flashAssister? (s : MatchState) (c : Config) (killer victim : PlayerId) (tick : Tick) :
    Option PlayerId :=
  ((s.swingingFlashes c killer victim tick).find? (fun h =>
    h.2 = .leadsToKill && h.1.thrower != killer)).map (·.1.thrower)

def markFlashes (s : MatchState) (c : Config) (killer victim : PlayerId) (tick : Tick) : MatchState :=
  (s.swingingFlashes c killer victim tick).foldl
    (fun s h =>
      s.modifyGrenade h.1.grenade (fun g =>
        match h.2 with
        | .leadsToKill => { g with leadsToKill := true }
        | .leadsToDeath => { g with leadsToDeath := true }))
    s

def attributeFlashes (s : MatchState) (c : Config) (killer victim : PlayerId) (tick : Tick) :
    MatchState × Option PlayerId :=
  (s.markFlashes c killer victim tick, s.flashAssister? c killer victim tick)

end MatchState

end Scorebook
