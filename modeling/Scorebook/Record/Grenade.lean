import Scorebook.Teams
/-!
# Grenades

A record for every grenade that was seen thrown and seen detonating.  What belongs to the throw is fixed by
the throw; the detonation, the players blinded and the damage are filled in as they become known.
-/
namespace Scorebook

structure Grenade where
  round : Nat
  entity : EntityId
  thrower : PlayerId
  throwerName : String
  throwerTeam : Option Team
  throwerSide : Option Side
  kind : GrenadeKind
  throwTick : Tick
  /-- The seconds of the round at the throw. -/
  roundTime : Float
  throwPosition : Vector3
  aim : ViewAngles
  movement : String
  detonationTick : Tick
  detonationPosition : Vector3
  throwDistance : Float32
  enemiesFlashed : Nat := 0
  teammatesFlashed : Nat := 0
  enemyFlashDuration : Float := 0
  teamFlashDuration : Float := 0
  leadsToKill : Bool := false
  leadsToDeath : Bool := false
  enemyDamage : Int := 0
  teamDamage : Int := 0
  enemiesDamaged : Nat := 0
  teammatesDamaged : Nat := 0
  rating : Float := 0
deriving Inhabited, BEq

namespace Grenade

def netEnemyDamage (g : Grenade) : Int := g.enemyDamage - g.teamDamage

def toJson (g : Grenade) : Json :=
  .object
    [("round_number", .nat g.round), ("entity_id", .int g.entity), ("thrower_id", .nat g.thrower),
     ("thrower_name", .text g.throwerName), ("thrower_team", .option Team.toJson g.throwerTeam),
     ("thrower_side", .option Side.toJson g.throwerSide), ("grenade", .text g.kind.name),
     ("tick_timestamp", .int g.throwTick), ("round_time", .double g.roundTime),
     ("player_position", g.throwPosition.toJson), ("player_aim", g.aim.toJson),
     ("movement", .text g.movement), ("detonation_tick", .int g.detonationTick),
     ("final_position", g.detonationPosition.toJson), ("throw_distance", .single g.throwDistance),
     ("enemies_flashed", .nat g.enemiesFlashed), ("teammates_flashed", .nat g.teammatesFlashed),
     ("enemy_flash_duration", .double g.enemyFlashDuration),
     ("team_flash_duration", .double g.teamFlashDuration),
     ("flash_leads_to_kill", .bool g.leadsToKill), ("flash_leads_to_death", .bool g.leadsToDeath),
     ("enemy_damage", .int g.enemyDamage), ("team_damage", .int g.teamDamage),
     ("enemies_damaged", .nat g.enemiesDamaged), ("teammates_damaged", .nat g.teammatesDamaged),
     ("effectiveness_rating", .double g.rating)]

end Grenade

end Scorebook
