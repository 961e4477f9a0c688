import Scorebook.Handling.Flash
import Scorebook.Impact
import Scorebook.Selection
/-!
# Kills

A kill takes the victim out of the round and, when somebody else did it, becomes a gunfight.  How many
players lived on either side is counted before the victim leaves.
-/
namespace Scorebook

/-! ## Damage that led to a kill -/

def Damage.isOn (d : Damage) (round : Nat) (victim : PlayerId) (tick : Tick) : Bool :=
  d.round = round && d.victim = victim && d.tick ≤ tick

/-- The health that an attacker took from a victim in a round up to a tick. -/
def damageBetween (damages : List Damage) (round : Nat) (attacker victim : PlayerId) (tick : Tick) :
    Int :=
  total (·.healthTaken)
    (damages.filter (fun d => d.isOn round victim tick && d.attacker = some attacker))

/-- The health that each enemy but the killer took from a victim in a round up to a tick. -/
def damageTotals (damages : List Damage) (round : Nat) (killer victim : PlayerId) (tick : Tick) :
    Table PlayerId Int :=
  damages.foldl
    (fun totals d =>
      if d.isOn round victim tick && d.isEnemyDamage then
        match d.attacker with
        | some attacker =>
          if attacker = killer then totals
          else totals.update attacker (fun n => n.getD 0 + d.healthTaken)
        | none => totals
      else totals)
    ∅

/-- Who assisted a kill by damage: of the enemies of the victim, the killer excepted, who took at least
`threshold` health, the one who took most, and of several the one with the least id. -/
def damageAssister? (damages : List Damage) (round : Nat) (killer victim : PlayerId) (tick : Tick)
    (threshold : Int) : Option PlayerId :=
  ((damageTotals damages round killer victim tick).entries.filter (fun e => threshold ≤ e.2)
    |> leastBy? (fun a b => b.2 < a.2)).map (·.1)

namespace MatchState

/-! ## Gunfights -/

def combatant (s : MatchState) (a : Actor) (weapon : Option Weapon) : Combatant where
  id := a.id
  name := a.name
  team := s.team? a.id
  side := s.actorSide? a
  position := a.position
  health := max a.health 0
  armor := a.armor
  flashed := a.isFlashed || (s.conditions.get? a.id).any (·.isFlashed)
  weapon := weapon
  equipmentValue := a.equipmentValue
  grenadeValue := a.grenadeValue

/-- How many lived on a side, and with what equipment, if the side is known. -/
def aliveOnSide? (s : MatchState) (side : Option Side) : Nat × Int :=
  match side with
  | some side => s.aliveOn side
  | none => (0, 0)

def tallyKill (s : MatchState) (killer : PlayerId) (isHeadshot isWallbang : Bool) : MatchState :=
  let headshot := if isHeadshot then 1 else 0
  let wallbang := if isWallbang then 1 else 0
  { s with
    conditions := s.conditions.modify killer (fun c =>
      { c with
        kills := c.kills + 1
        headshots := c.headshots + headshot
        wallbangs := c.wallbangs + wallbang })
    players := s.players.modify killer (fun p =>
      { p with
        kills := p.kills + 1
        headshots := p.headshots + headshot
        wallbangs := p.wallbangs + wallbang }) }

/-- The victim after a death: seen, and out of the round. -/
def recordDeath (s : MatchState) (victim : Actor) (cause : ExitCause) (tick : Tick) : MatchState :=
  (s.observe victim).recordExit victim.id cause tick

def onOneSide (s : MatchState) (killer victim : Actor) : Bool :=
  (s.actorSide? killer).isSome && s.actorSide? killer = s.actorSide? victim

/-- The gunfight of a kill.  `before` is the state in which the victim still lived. -/
def gunfightOf (s before : MatchState) (c : Config) (n : KillNotice) (killer victim : Actor)
    (weapon : Weapon) (tick : Tick) (flashAssister : Option PlayerId) : Gunfight :=
  let killerAlive := before.aliveOnSide? (before.actorSide? killer)
  let victimAlive := before.aliveOnSide? (before.actorSide? victim)
  { round := s.round.number
    tick := tick
    roundTime := s.roundTime tick
    killer := s.combatant killer (some weapon)
    victim := s.combatant victim victim.activeWeapon
    distance := killer.position.distance victim.position
    weapon := weapon
    isHeadshot := n.isHeadshot
    isWallbang := 0 < n.penetratedObjects
    penetratedObjects := n.penetratedObjects
    victor := killer.id
    isFirstKill := s.round.kills = 0
    isTeamKill := before.onOneSide killer victim
    assister :=
      damageAssister? s.damages s.round.number killer.id victim.id tick c.damageAssistThreshold
    flashAssister := flashAssister
    damageDealt := damageBetween s.damages s.round.number killer.id victim.id tick
    scenario := Impact.scenarioText killerAlive.1 victimAlive.1
    killerTeamAlive := killerAlive.1
    victimTeamAlive := victimAlive.1
    killerTeamEquipment := killerAlive.2
    victimTeamEquipment := victimAlive.2 }

def addGunfight (s : MatchState) (g : Gunfight) : MatchState :=
  { s with
    gunfights := s.gunfights ++ [g]
    round := { s.round with kills := s.round.kills + 1 } }

/-- Enters a gunfight.  A team kill marks no flashes, and is not tallied. -/
def enterGunfight (s before : MatchState) (c : Config) (n : KillNotice) (killer victim : Actor)
    (weapon : Weapon) (tick : Tick) : MatchState :=
  if before.onOneSide killer victim then
    s.addGunfight (s.gunfightOf before c n killer victim weapon tick none)
  else
    let (s, flashAssister) := s.attributeFlashes c killer.id victim.id tick
    (s.addGunfight (s.gunfightOf before c n killer victim weapon tick flashAssister)).tallyKill
      killer.id n.isHeadshot (0 < n.penetratedObjects)

/-- Handles a kill.  The victim dies even when there is no killer, or no weapon is known. -/
def recordKill (s : MatchState) (c : Config) (n : KillNotice) (tick : Tick) : Step MatchState :=
  if !s.round.isOpen then .stop s (.noRoundInProgress "kill")
  else
    match n.victim with
    | none => .stop s (.missingActor "kill" "victim")
    | some victim =>
      match n.killer with
      | none => .stop (s.recordDeath victim .world tick) (.missingActor "kill" "killer")
      | some killer =>
        if killer.id = victim.id then
          .stop (s.recordDeath victim .selfKill tick) (.selfKill victim.id)
        else
          let died := s.recordDeath victim (.killed killer.id) tick
          match n.weapon with
          | none => .stop died (.missingActor "kill" "weapon")
          | some weapon =>
            { state := (died.observe killer).enterGunfight s c n killer victim weapon tick }

end MatchState

end Scorebook
