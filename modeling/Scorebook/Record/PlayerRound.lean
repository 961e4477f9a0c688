import Scorebook.Teams
/-!
# A player's round

One record for every registered player and every round.  A player without a side did not take part.
-/
namespace Scorebook

structure PlayerRound where
  round : Nat
  player : PlayerId
  name : String
  team : Option Team := none
  side : Option Side := none
  roundWon : Bool := false
  kills : Nat := 0
  deaths : Nat := 0
  assists : Nat := 0
  flashAssists : Nat := 0
  headshots : Nat := 0
  wallbangs : Nat := 0
  awpKills : Nat := 0
  teamKills : Nat := 0
  firstKill : Bool := false
  firstDeath : Bool := false
  damage : Int := 0
  teamDamage : Int := 0
  utilityDamage : Int := 0
  shotsFired : Nat := 0
  shotsHit : Nat := 0
  flashesThrown : Nat := 0
  smokesThrown : Nat := 0
  heThrown : Nat := 0
  fireThrown : Nat := 0
  decoysThrown : Nat := 0
  enemiesFlashed : Nat := 0
  teammatesFlashed : Nat := 0
  enemyFlashDuration : Float := 0
  grenadeValueLost : Int := 0
  grenadeEffectiveness : Float := 0
  tradeKills : Nat := 0
  tradeOpportunities : Nat := 0
  tradedDeath : Bool := false
  clutchAttempt : Bool := false
  clutchWon : Bool := false
  clutchOpponents : Nat := 0
  equipmentValue : Int := 0
  isEco : Bool := false
  isForceBuy : Bool := false
  isFullBuy : Bool := false
  ecoKills : Nat := 0
  forceBuyKills : Nat := 0
  fullBuyKills : Nat := 0
  timeToContact : Option Float := none
  timeToDeath : Option Float := none
  survived : Bool := false
  kast : Bool := false
  bombPlants : Nat := 0
  bombDefuses : Nat := 0
  killImpact : Float := 0
  deathImpact : Float := 0
  assistImpact : Float := 0
  impact : Float := 0
deriving Inhabited

def PlayerRound.toJson (r : PlayerRound) : Json :=
  .object
    [("round_number", .nat r.round), ("player_id", .nat r.player), ("player_name", .text r.name),
     ("team", .option Team.toJson r.team), ("side", .option Side.toJson r.side),
     ("round_won", .bool r.roundWon), ("kills", .nat r.kills), ("deaths", .nat r.deaths),
     ("assists", .nat r.assists), ("flash_assists", .nat r.flashAssists),
     ("headshots", .nat r.headshots), ("wallbangs", .nat r.wallbangs),
     ("awp_kills", .nat r.awpKills), ("team_kills", .nat r.teamKills),
     ("first_kill", .bool r.firstKill), ("first_death", .bool r.firstDeath),
     ("damage", .int r.damage), ("team_damage", .int r.teamDamage),
     ("utility_damage", .int r.utilityDamage), ("shots_fired", .nat r.shotsFired),
     ("shots_hit", .nat r.shotsHit), ("flashes_thrown", .nat r.flashesThrown),
     ("smokes_thrown", .nat r.smokesThrown), ("he_thrown", .nat r.heThrown),
     ("fire_thrown", .nat r.fireThrown), ("decoys_thrown", .nat r.decoysThrown),
     ("enemies_flashed", .nat r.enemiesFlashed), ("teammates_flashed", .nat r.teammatesFlashed),
     ("enemy_flash_duration", .double r.enemyFlashDuration),
     ("grenade_value_lost", .int r.grenadeValueLost),
     ("grenade_effectiveness", .double r.grenadeEffectiveness), ("trade_kills", .nat r.tradeKills),
     ("trade_opportunities", .nat r.tradeOpportunities), ("traded_death", .bool r.tradedDeath),
     ("clutch_attempt", .bool r.clutchAttempt), ("clutch_won", .bool r.clutchWon),
     ("clutch_opponents", .nat r.clutchOpponents), ("equipment_value", .int r.equipmentValue),
     ("is_eco", .bool r.isEco), ("is_force_buy", .bool r.isForceBuy),
     ("is_full_buy", .bool r.isFullBuy), ("eco_kills", .nat r.ecoKills),
     ("force_buy_kills", .nat r.forceBuyKills), ("full_buy_kills", .nat r.fullBuyKills),
     ("time_to_contact", .option Json.double r.timeToContact),
     ("time_to_death", .option Json.double r.timeToDeath), ("survived", .bool r.survived),
     ("kast", .bool r.kast), ("bomb_plants", .nat r.bombPlants),
     ("bomb_defuses", .nat r.bombDefuses), ("kill_impact", .double r.killImpact),
     ("death_impact", .double r.deathImpact), ("assist_impact", .double r.assistImpact),
     ("impact", .double r.impact)]

end Scorebook
