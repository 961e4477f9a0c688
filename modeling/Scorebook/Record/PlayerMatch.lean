import Scorebook.Teams
/-!
# A player's match

The totals, rates and scores of one player over the rounds in which the player took part.
-/
namespace Scorebook

inductive Achievement where
  | fragger
  | support
  | opener
  | closer
  | topAim
  | mostImpact
  | matchSwing
deriving DecidableEq, Inhabited

namespace Achievement

/-- The achievements in the order in which they are awarded. -/
def all : List Achievement :=
  [.fragger, .support, .opener, .closer, .topAim, .mostImpact, .matchSwing]

def name : Achievement → String
  | .fragger => "Fragger"
  | .support => "Support"
  | .opener => "Opener"
  | .closer => "Closer"
  | .topAim => "TopAim"
  | .mostImpact => "MostImpact"
  | .matchSwing => "MatchSwing"

end Achievement

structure PlayerMatch where
  player : PlayerId := 0
  name : String := ""
  team : Option Team := none
  roundsPlayed : Nat := 0
  roundsWon : Nat := 0
  kills : Nat := 0
  deaths : Nat := 0
  assists : Nat := 0
  flashAssists : Nat := 0
  headshots : Nat := 0
  wallbangs : Nat := 0
  awpKills : Nat := 0
  teamKills : Nat := 0
  firstKills : Nat := 0
  firstDeaths : Nat := 0
  damage : Int := 0
  utilityDamage : Int := 0
  shotsFired : Nat := 0
  shotsHit : Nat := 0
  flashesThrown : Nat := 0
  smokesThrown : Nat := 0
  heThrown : Nat := 0
  fireThrown : Nat := 0
  enemiesFlashed : Nat := 0
  teammatesFlashed : Nat := 0
  tradeKills : Nat := 0
  tradedDeaths : Nat := 0
  clutchAttempts : Nat := 0
  clutchWins : Nat := 0
  ecoKills : Nat := 0
  forceBuyKills : Nat := 0
  fullBuyKills : Nat := 0
  multiKills2 : Nat := 0
  multiKills3 : Nat := 0
  multiKills4 : Nat := 0
  multiKills5 : Nat := 0
  bombPlants : Nat := 0
  bombDefuses : Nat := 0
  kastRounds : Nat := 0
  adr : Float := 0
  kpr : Float := 0
  dpr : Float := 0
  headshotPercentage : Float := 0
  accuracy : Float := 0
  kastPercentage : Float := 0
  averageTimeToDeath : Float := 0
  averageTimeToContact : Float := 0
  averageGrenadeEffectiveness : Float := 0
  totalImpact : Float := 0
  averageImpact : Float := 0
  aimRating : Float := 0
  matchSwingPercentage : Float := 0
  fraggerScore : Float := 0
  supportScore : Float := 0
  openerScore : Float := 0
  closerScore : Float := 0
  achievements : List Achievement := []
  rank : Nat := 0
deriving Inhabited

def PlayerMatch.toJson (r : PlayerMatch) : Json :=
  .object
    [("player_id", .nat r.player), ("player_name", .text r.name),
     ("team", .option Team.toJson r.team), ("rounds_played", .nat r.roundsPlayed),
     ("rounds_won", .nat r.roundsWon), ("kills", .nat r.kills), ("deaths", .nat r.deaths),
     ("assists", .nat r.assists), ("flash_assists", .nat r.flashAssists),
     ("headshots", .nat r.headshots), ("wallbangs", .nat r.wallbangs),
     ("awp_kills", .nat r.awpKills), ("team_kills", .nat r.teamKills),
     ("first_kills", .nat r.firstKills), ("first_deaths", .nat r.firstDeaths),
     ("damage", .int r.damage), ("utility_damage", .int r.utilityDamage),
     ("shots_fired", .nat r.shotsFired), ("shots_hit", .nat r.shotsHit),
     ("flashes_thrown", .nat r.flashesThrown), ("smokes_thrown", .nat r.smokesThrown),
     ("he_thrown", .nat r.heThrown), ("fire_thrown", .nat r.fireThrown),
     ("enemies_flashed", .nat r.enemiesFlashed), ("teammates_flashed", .nat r.teammatesFlashed),
     ("trade_kills", .nat r.tradeKills), ("traded_deaths", .nat r.tradedDeaths),
     ("clutch_attempts", .nat r.clutchAttempts), ("clutch_wins", .nat r.clutchWins),
     ("eco_kills", .nat r.ecoKills), ("force_buy_kills", .nat r.forceBuyKills),
     ("full_buy_kills", .nat r.fullBuyKills), ("multi_kills_2k", .nat r.multiKills2),
     ("multi_kills_3k", .nat r.multiKills3), ("multi_kills_4k", .nat r.multiKills4),
     ("multi_kills_5k", .nat r.multiKills5), ("bomb_plants", .nat r.bombPlants),
     ("bomb_defuses", .nat r.bombDefuses), ("kast_rounds", .nat r.kastRounds),
     ("adr", .double r.adr), ("kpr", .double r.kpr), ("dpr", .double r.dpr),
     ("headshot_percentage", .double r.headshotPercentage), ("accuracy", .double r.accuracy),
     ("kast_percentage", .double r.kastPercentage),
     ("average_time_to_death", .double r.averageTimeToDeath),
     ("average_time_to_contact", .double r.averageTimeToContact),
     ("average_grenade_effectiveness", .double r.averageGrenadeEffectiveness),
     ("total_impact", .double r.totalImpact), ("average_impact", .double r.averageImpact),
     ("aim_rating", .double r.aimRating),
     ("match_swing_percentage", .double r.matchSwingPercentage),
     ("fragger_score", .double r.fraggerScore), ("support_score", .double r.supportScore),
     ("opener_score", .double r.openerScore), ("closer_score", .double r.closerScore),
     ("achievements", .listOf (fun a => .text a.name) r.achievements), ("rank", .nat r.rank)]

end Scorebook
