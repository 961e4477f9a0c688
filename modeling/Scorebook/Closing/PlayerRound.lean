import Scorebook.Buy
import Scorebook.GrenadeRating
import Scorebook.Impact
import Scorebook.Trade
/-!
# What a round was for one player

The records of a round are read once for all players (`RoundFacts`) and then for each of them.
-/
namespace Scorebook

/-- What is known of a round when it is closed. -/
structure RoundFacts where
  round : Nat
  /-- The gunfights in the order of their ticks. -/
  fights : List Gunfight
  damages : List Damage
  grenades : List Grenade
  marks : List RoundMark
  /-- The exits in the order of their ticks. -/
  exits : List Exit
  clutches : List Clutch
  trades : Trade.Summary
  winner : Option Team

namespace RoundFacts

def maxContactTime : Float := 120

/-- The ticks at which a player dealt or took enemy damage or fought a gunfight with an enemy. -/
def contactTicks (f : RoundFacts) (id : PlayerId) : List Tick :=
  (f.damages.filter (fun d => d.isEnemyDamage && (d.attacker = some id || d.victim = id))).map
      (·.tick) ++
    (f.fights.filter (fun g => !g.isTeamKill && (g.combatant? id).isSome)).map (·.tick)

def fightsAs (f : RoundFacts) (id : PlayerId) (r : Role) : List Gunfight :=
  f.fights.filter (·.hasRole id r)

/-- The enemies that a player killed. -/
def kills (f : RoundFacts) (id : PlayerId) : List Gunfight :=
  (f.fightsAs id .killer).filter (!·.isTeamKill)

def damagesBy (f : RoundFacts) (id : PlayerId) : List Damage :=
  f.damages.filter (·.attacker = some id)

def grenadesBy (f : RoundFacts) (id : PlayerId) : List Grenade := f.grenades.filter (·.thrower = id)

def marksBy (f : RoundFacts) (id : PlayerId) (kind : RoundMarkKind) : Nat :=
  f.marks.countP (fun m => m.player = some id && m.kind = kind)

end RoundFacts

def healthTotal (damages : List Damage) : Int := total (·.healthTaken) damages

/-- Damage dealt by a grenade or its fire. -/
def Damage.isUtility (d : Damage) : Bool := d.weapon.isGrenade || d.weapon = .inferno

namespace MatchState

def timeToContact? (s : MatchState) (f : RoundFacts) (id : PlayerId) : Option Float :=
  (f.contactTicks id).min?.map (fun first =>
    Ratio.clamp 0 RoundFacts.maxContactTime
      (Clock.seconds (first - s.round.referenceTick) s.tickRate))

def playerRound (s : MatchState) (c : Config) (f : RoundFacts) (p : Player) : PlayerRound :=
  let id := p.id
  let condition := (s.conditions.get? id).getD {}
  let team := s.team? id
  let side := s.round.roster.get? id
  let kills := f.kills id
  let deathFights := f.fightsAs id .victim
  let enemyDamages := (f.damagesBy id).filter (·.isEnemyDamage)
  let grenades := f.grenadesBy id
  let thrown (k : GrenadeKind) := grenades.countP (·.kind = k)
  let clutch := f.clutches.find? (·.player = id)
  let shares := f.fights.map (Impact.share · id)
  let killImpact := Ratio.total (shares.map (·.kill))
  let deathImpact := Ratio.total (shares.map (·.death))
  let assistImpact := Ratio.total (shares.map (·.assist))
  let assists := (f.fightsAs id .assister).length
  let flashAssists := (f.fightsAs id .flashAssister).length
  let grenadeValueLost := (deathFights.getLast?.map (·.victim.grenadeValue)).getD 0
  let tradedDeath := f.trades.tradedDeaths.contains id
  let survived := side.isSome && condition.deaths = 0
  let equipment := if side.isSome then roundEquipment f.fights id condition.equipmentValue else 0
  let bought (b : BuyType) : Bool := side.isSome && BuyType.classify f.round equipment c = b
  let killsAgainst (b : BuyType) : Nat :=
    kills.countP (fun g => BuyType.classify f.round g.victim.equipmentValue c = b)
  { round := f.round
    player := id
    name := p.name
    team := team
    side := side
    roundWon := team.isSome && team = f.winner
    kills := kills.length
    deaths := condition.deaths
    assists := assists
    flashAssists := flashAssists
    headshots := kills.countP (·.isHeadshot)
    wallbangs := kills.countP (·.isWallbang)
    awpKills := kills.countP (·.weapon = .awp)
    teamKills := (f.fightsAs id .killer).countP (·.isTeamKill)
    firstKill := kills.any (·.isFirstKill)
    firstDeath := deathFights.any (·.isFirstKill)
    damage := healthTotal enemyDamages
    teamDamage := healthTotal ((f.damagesBy id).filter (fun d => !d.isEnemyDamage && d.isTeamDamage))
    utilityDamage := healthTotal (enemyDamages.filter (·.isUtility))
    shotsFired := (s.shotsFired.get? (f.round, id)).getD 0
    shotsHit := (f.damagesBy id).countP (fun d => d.weapon.isFirearm && !d.isSelfDamage)
    flashesThrown := thrown .flashbang
    smokesThrown := thrown .smoke
    heThrown := thrown .highExplosive
    fireThrown := grenades.countP (fun g => g.kind = .molotov || g.kind = .incendiary)
    decoysThrown := thrown .decoy
    enemiesFlashed := totalCount (·.enemiesFlashed) grenades
    teammatesFlashed := totalCount (·.teammatesFlashed) grenades
    enemyFlashDuration := Ratio.total (grenades.map (·.enemyFlashDuration))
    grenadeValueLost := grenadeValueLost
    grenadeEffectiveness :=
      Grenade.effectiveness grenades.length grenadeValueLost (grenades.map (·.rating))
    tradeKills := (f.trades.kills.get? id).getD 0
    tradeOpportunities := (f.trades.opportunities.get? id).getD 0
    tradedDeath := tradedDeath
    clutchAttempt := clutch.isSome
    clutchWon := clutch.any (·.won)
    clutchOpponents := (clutch.map (·.opponents)).getD 0
    equipmentValue := equipment
    isEco := bought .eco
    isForceBuy := bought .forceBuy
    isFullBuy := bought .fullBuy
    ecoKills := killsAgainst .eco
    forceBuyKills := killsAgainst .forceBuy
    fullBuyKills := killsAgainst .fullBuy
    timeToContact := s.timeToContact? f id
    timeToDeath :=
      (f.exits.find? (fun e => e.player = id && e.cause.isDeath)).map (·.roundTime)
    survived := survived
    kast := 0 < kills.length || 0 < assists || 0 < flashAssists || survived || tradedDeath
    bombPlants := f.marksBy id .bombPlanted
    bombDefuses := f.marksBy id .bombDefused
    killImpact := killImpact
    deathImpact := deathImpact
    assistImpact := assistImpact
    impact := killImpact + deathImpact + assistImpact }

end MatchState

end Scorebook
