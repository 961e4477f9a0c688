import Scorebook.MatchState
/-!
# A match in progress, to look into

What a match keeps besides its records: who the players are, how they fare in the round, and what waits
for its other half.  `MatchState.toJson` shows it as one document.
-/
namespace Scorebook

def Player.toJson (p : Player) : Json :=
  .object
    [("id", .nat p.id), ("name", .text p.name), ("connected", .bool p.connected),
     ("kills", .nat p.kills), ("deaths", .nat p.deaths), ("headshots", .nat p.headshots),
     ("wallbangs", .nat p.wallbangs)]

def Condition.toJson (player : PlayerId) (c : Condition) : Json :=
  .object
    [("id", .nat player), ("demo_team", c.allegiance.toJson), ("health", .int c.health),
     ("armor", .int c.armor), ("active_weapon", .option Weapon.toJson c.activeWeapon),
     ("is_flashed", .bool c.isFlashed), ("is_alive", .bool c.isAlive),
     ("equipment_value", .int c.equipmentValue), ("grenade_value", .int c.grenadeValue),
     ("position", c.position.toJson), ("round_kills", .nat c.kills), ("round_deaths", .nat c.deaths),
     ("round_headshots", .nat c.headshots), ("round_wallbangs", .nat c.wallbangs)]

def ExitCause.toJson : ExitCause → Json
  | .killed killer => .list [.text "Killed", .nat killer]
  | .selfKill => .list [.text "SelfKill"]
  | .world => .list [.text "World"]
  | .disconnect => .list [.text "Disconnect"]

def Exit.toJson (e : Exit) : Json :=
  .list
    [.int e.tick, .double e.roundTime, .nat e.player, .option Side.toJson e.side, e.cause.toJson]

def Throw.toJson (t : Throw) : Json :=
  .object
    [("thrower_id", .nat t.thrower), ("thrower_name", .text t.throwerName),
     ("thrower_team", .option Team.toJson t.throwerTeam),
     ("thrower_side", .option Side.toJson t.throwerSide), ("grenade", .text t.kind.name),
     ("round", .nat t.round), ("tick", .int t.tick), ("round_time", .double t.roundTime),
     ("position", t.position.toJson), ("aim", t.aim.toJson), ("movement", .text t.movement)]

def Blinding.toJson (b : Blinding) : Json :=
  .list [.nat b.player, .bool b.isEnemy, .double b.duration]

def FlashEffect.toJson (e : FlashEffect) : Json :=
  .object
    [("entity_id", .int e.entity), ("round", .nat e.round), ("tick", .int e.tick),
     ("position", e.position.toJson), ("thrower_id", .nat e.thrower),
     ("affected", .listOf Blinding.toJson e.affected),
     ("grenade_index", .option Json.nat e.grenade)]

def PendingBlinding.toJson (p : PendingBlinding) : Json :=
  .list [.nat p.round, .int p.tick, .nat p.thrower, .nat p.player, .double p.duration]

def MatchState.toJson (s : MatchState) : Json :=
  .object
    [("players", .listOf Player.toJson s.players.values),
     ("player_states", .listOf (fun e => Condition.toJson e.1 e.2) s.conditions.entries),
     ("roster", .listOf (fun e => .list [.nat e.1, e.2.toJson]) s.round.roster.entries),
     ("exits", .listOf Exit.toJson s.round.exits),
     ("flash_effects", .listOf FlashEffect.toJson s.tables.flashes.values),
     ("pending_flashed", .listOf PendingBlinding.toJson s.tables.pendingBlindings),
     ("throws", .listOf (fun e => .list [.int e.1, e.2.toJson]) s.tables.throws.entries),
     ("shots_fired", .listOf (fun e => .list [.nat e.1.1, .nat e.1.2, .nat e.2])
       s.shotsFired.entries)]

end Scorebook
