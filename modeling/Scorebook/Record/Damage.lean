import Scorebook.Teams
/-!
# Damage

A record for every hit.  `healthTaken` is the damage that the victim had health for.
-/
namespace Scorebook

structure Damage where
  round : Nat
  tick : Tick
  roundTime : Float
  attacker : Option PlayerId
  attackerTeam : Option Team
  attackerSide : Option Side
  attackerPosition : Option Vector3
  victim : PlayerId
  victimTeam : Option Team
  victimSide : Option Side
  victimPosition : Vector3
  weapon : Weapon
  healthDamage : Int
  /-- The health damage, at most the health that the victim had. -/
  healthTaken : Int
  armorDamage : Int
  victimHealthAfter : Int
  hitGroup : Option String
  distance : Option Float32
  isTeamDamage : Bool
  isSelfDamage : Bool
  /-- The grenade that dealt the damage. -/
  grenade : Option EntityId := none
deriving Inhabited, BEq

namespace Damage

def isEnemyDamage (d : Damage) : Bool := d.attacker.isSome && !d.isTeamDamage && !d.isSelfDamage

def toJson (d : Damage) : Json :=
  .object
    [("round_number", .nat d.round), ("tick", .int d.tick), ("round_time", .double d.roundTime),
     ("attacker_id", .option Json.nat d.attacker),
     ("attacker_team", .option Team.toJson d.attackerTeam),
     ("attacker_side", .option Side.toJson d.attackerSide),
     ("attacker_position", .option Vector3.toJson d.attackerPosition),
     ("victim_id", .nat d.victim), ("victim_team", .option Team.toJson d.victimTeam),
     ("victim_side", .option Side.toJson d.victimSide),
     ("victim_position", d.victimPosition.toJson), ("weapon", d.weapon.toJson),
     ("health_damage", .int d.healthDamage), ("health_damage_taken", .int d.healthTaken),
     ("armor_damage", .int d.armorDamage), ("victim_health_after", .int d.victimHealthAfter),
     ("hit_group", .option Json.text d.hitGroup), ("distance", .option Json.single d.distance),
     ("is_team_damage", .bool d.isTeamDamage), ("is_self_damage", .bool d.isSelfDamage),
     ("grenade_entity_id", .option Json.int d.grenade)]

end Damage

end Scorebook
