import Scorebook.Teams
/-!
# Gunfights

A gunfight is a kill with the situation of both players.  A player has at most one role in it.
-/
namespace Scorebook

/-- What made a kill count for more. -/
inductive ImpactContext where
  | firstKill
  | wonClutch
  | failedClutch
  | standard
deriving DecidableEq, Inhabited

namespace ImpactContext

def name : ImpactContext → String
  | .firstKill => "FirstKill"
  | .wonClutch => "WonClutch"
  | .failedClutch => "FailedClutch"
  | .standard => "Standard"

def ofName? : String → Option ImpactContext
  | "FirstKill" => some .firstKill
  | "WonClutch" => some .wonClutch
  | "FailedClutch" => some .failedClutch
  | "Standard" => some .standard
  | _ => none

end ImpactContext

structure Combatant where
  id : PlayerId
  name : String
  team : Option Team
  side : Option Side
  position : Vector3
  health : Int
  armor : Int
  flashed : Bool
  weapon : Option Weapon
  equipmentValue : Int
  grenadeValue : Int
deriving Inhabited

def Combatant.toJson (c : Combatant) : Json :=
  .object
    [("id", .nat c.id), ("name", .text c.name), ("team", .option Team.toJson c.team),
     ("side", .option Side.toJson c.side), ("position", c.position.toJson),
     ("health", .int c.health), ("armor", .int c.armor), ("flashed", .bool c.flashed),
     ("weapon", .option Weapon.toJson c.weapon), ("equipment_value", .int c.equipmentValue),
     ("grenade_value", .int c.grenadeValue)]

structure Gunfight where
  round : Nat
  tick : Tick
  roundTime : Float
  killer : Combatant
  victim : Combatant
  distance : Float32
  weapon : Weapon
  isHeadshot : Bool
  isWallbang : Bool
  penetratedObjects : Nat
  victor : PlayerId
  isFirstKill : Bool
  isTeamKill : Bool
  assister : Option PlayerId
  flashAssister : Option PlayerId
  /-- The health that the killer took from the victim in the round. -/
  damageDealt : Int
  /-- The players alive on either side, as the killer's side against the victim's. -/
  scenario : String
  killerTeamAlive : Nat
  victimTeamAlive : Nat
  killerTeamEquipment : Int
  victimTeamEquipment : Int
  impactContext : ImpactContext := .standard
  killerImpact : Float := 0
  victimImpact : Float := 0
  assistImpact : Float := 0
  flashAssistImpact : Float := 0
deriving Inhabited

inductive Role where
  | killer
  | victim
  | assister
  | flashAssister
deriving DecidableEq

namespace Gunfight

/-- The role of a player, the first in the order of roles. -/
def role? (g : Gunfight) (id : PlayerId) : Option Role :=
  if g.killer.id = id then some .killer
  else if g.victim.id = id then some .victim
  else if g.assister = some id then some .assister
  else if g.flashAssister = some id then some .flashAssister
  else none

def hasRole (g : Gunfight) (id : PlayerId) (r : Role) : Bool := g.role? id = some r

/-- The killer or the victim, if it is the given player. -/
def combatant? (g : Gunfight) (id : PlayerId) : Option Combatant :=
  if g.killer.id = id then some g.killer
  else if g.victim.id = id then some g.victim
  else none

def toJson (g : Gunfight) : Json :=
  .object
    [("round_number", .nat g.round), ("tick", .int g.tick), ("round_time", .double g.roundTime),
     ("player1", g.killer.toJson), ("player2", g.victim.toJson), ("distance", .single g.distance),
     ("weapon", g.weapon.toJson), ("is_headshot", .bool g.isHeadshot),
     ("is_wallbang", .bool g.isWallbang), ("penetrated_objects", .nat g.penetratedObjects),
     ("victor_id", .nat g.victor), ("is_first_kill", .bool g.isFirstKill),
     ("is_team_kill", .bool g.isTeamKill), ("assister_id", .option Json.nat g.assister),
     ("flash_assister_id", .option Json.nat g.flashAssister), ("damage_dealt", .int g.damageDealt),
     ("round_scenario", .text g.scenario), ("player1_team_alive", .nat g.killerTeamAlive),
     ("player2_team_alive", .nat g.victimTeamAlive),
     ("player1_team_equipment", .int g.killerTeamEquipment),
     ("player2_team_equipment", .int g.victimTeamEquipment),
     ("impact_context", .text g.impactContext.name), ("player1_impact", .double g.killerImpact),
     ("player2_impact", .double g.victimImpact), ("assist_impact", .double g.assistImpact),
     ("flash_assist_impact", .double g.flashAssistImpact)]

end Gunfight

end Scorebook
