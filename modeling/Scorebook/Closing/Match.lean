import Scorebook.MatchState
import Scorebook.Selection
/-!
# Closing a match

The rounds of each player are summed up, rated and compared: scores for four roles, a rank by impact, and
achievements for the best.
-/
namespace Scorebook

namespace PlayerMatch

/-! ## Ratings -/

def perRound (value : Float) (rounds : Nat) : Float := Ratio.safeDiv value (Ratio.ofNat rounds)

def aim (r : PlayerMatch) : Float :=
  Ratio.weightedMean
    [(r.headshotPercentage, 0.4), (r.accuracy, 0.3), (Ratio.ofReference r.kpr 1, 0.3)]

def multiKillRounds (r : PlayerMatch) : Nat :=
  r.multiKills2 + r.multiKills3 + r.multiKills4 + r.multiKills5

def fragger (r : PlayerMatch) : Float :=
  Ratio.weightedMean
    [(Ratio.ofReference r.kpr 1, 0.4), (Ratio.ofReference r.adr 100, 0.3),
     (r.headshotPercentage, 0.15),
     (Ratio.ofReference (perRound (Ratio.ofNat r.multiKillRounds) r.roundsPlayed) 0.3, 0.15)]

def support (r : PlayerMatch) : Float :=
  Ratio.weightedMean
    [(Ratio.ofReference (perRound (Ratio.ofNat r.assists) r.roundsPlayed) 0.3, 0.25),
     (Ratio.ofReference (perRound (Ratio.ofNat r.flashAssists) r.roundsPlayed) 0.15, 0.25),
     (Ratio.ofReference (perRound (Float.ofInt r.utilityDamage) r.roundsPlayed) 25, 0.2),
     (r.averageGrenadeEffectiveness, 0.15),
     (Ratio.ofReference (perRound (Ratio.ofNat r.enemiesFlashed) r.roundsPlayed) 1.5, 0.15)]

def opener (r : PlayerMatch) : Float :=
  Ratio.weightedMean
    [(Ratio.ofReference (perRound (Ratio.ofNat r.firstKills) r.roundsPlayed) 0.25, 0.5),
     (Ratio.percentage (Ratio.ofNat r.firstKills) (Ratio.ofNat (r.firstKills + r.firstDeaths)),
      0.3),
     (Ratio.ofReference (perRound (Ratio.ofNat r.tradeKills) r.roundsPlayed) 0.2, 0.2)]

def closer (r : PlayerMatch) : Float :=
  Ratio.weightedMean
    [(Ratio.percentage (Ratio.ofNat r.clutchWins) (Ratio.ofNat r.clutchAttempts), 0.4),
     (Ratio.ofReference (Ratio.ofNat r.clutchWins) 3, 0.3),
     (Ratio.percentage (Ratio.ofNat (r.roundsPlayed - r.deaths)) (Ratio.ofNat r.roundsPlayed),
      0.3)]

/-! ## Totals -/

/-- The totals of a player over the rounds in which the player took part. -/
def totals (p : Player) (team : Option Team) (rounds : List PlayerRound) : PlayerMatch :=
  let count (f : PlayerRound → Nat) : Nat := totalCount f rounds
  let flag (f : PlayerRound → Bool) : Nat := rounds.countP f
  { player := p.id
    name := p.name
    team := team
    roundsPlayed := rounds.length
    roundsWon := flag (·.roundWon)
    kills := count (·.kills)
    deaths := count (·.deaths)
    assists := count (·.assists)
    flashAssists := count (·.flashAssists)
    headshots := count (·.headshots)
    wallbangs := count (·.wallbangs)
    awpKills := count (·.awpKills)
    teamKills := count (·.teamKills)
    firstKills := flag (·.firstKill)
    firstDeaths := flag (·.firstDeath)
    damage := total (·.damage) rounds
    utilityDamage := total (·.utilityDamage) rounds
    shotsFired := count (·.shotsFired)
    shotsHit := count (·.shotsHit)
    flashesThrown := count (·.flashesThrown)
    smokesThrown := count (·.smokesThrown)
    heThrown := count (·.heThrown)
    fireThrown := count (·.fireThrown)
    enemiesFlashed := count (·.enemiesFlashed)
    teammatesFlashed := count (·.teammatesFlashed)
    tradeKills := count (·.tradeKills)
    tradedDeaths := flag (·.tradedDeath)
    clutchAttempts := flag (·.clutchAttempt)
    clutchWins := flag (·.clutchWon)
    ecoKills := count (·.ecoKills)
    forceBuyKills := count (·.forceBuyKills)
    fullBuyKills := count (·.fullBuyKills)
    multiKills2 := flag (·.kills = 2)
    multiKills3 := flag (·.kills = 3)
    multiKills4 := flag (·.kills = 4)
    multiKills5 := flag (fun r => 5 ≤ r.kills)
    bombPlants := count (·.bombPlants)
    bombDefuses := count (·.bombDefuses)
    kastRounds := flag (·.kast)
    totalImpact := Ratio.total (rounds.map (·.impact)) }

def withRates (r : PlayerMatch) (rounds : List PlayerRound) : PlayerMatch :=
  { r with
    adr := perRound (Float.ofInt r.damage) r.roundsPlayed
    kpr := perRound (Ratio.ofNat r.kills) r.roundsPlayed
    dpr := perRound (Ratio.ofNat r.deaths) r.roundsPlayed
    headshotPercentage := Ratio.percentage (Ratio.ofNat r.headshots) (Ratio.ofNat r.kills)
    accuracy :=
      Ratio.clampPercent (Ratio.percentage (Ratio.ofNat r.shotsHit) (Ratio.ofNat r.shotsFired))
    kastPercentage := Ratio.percentage (Ratio.ofNat r.kastRounds) (Ratio.ofNat r.roundsPlayed)
    averageTimeToDeath := Ratio.mean (rounds.filterMap (·.timeToDeath))
    averageTimeToContact := Ratio.mean (rounds.filterMap (·.timeToContact))
    averageGrenadeEffectiveness :=
      Ratio.mean ((rounds.map (·.grenadeEffectiveness)).filter (fun e => 0 < e))
    averageImpact := perRound r.totalImpact r.roundsPlayed }

def withRatings (r : PlayerMatch) : PlayerMatch :=
  { r with
    aimRating := r.aim
    fraggerScore := r.fragger
    supportScore := r.support
    openerScore := r.opener
    closerScore := r.closer }

/-- The match of a player, from the records of the player's rounds.  Rounds without a side do not count. -/
def summarize (p : Player) (team : Option Team) (rounds : List PlayerRound) : PlayerMatch :=
  let played := rounds.filter (·.side.isSome)
  ((totals p team played).withRates played).withRatings

/-! ## Comparing players -/

/-- The part of each player in all impact that is positive. -/
def shareImpact (records : List PlayerMatch) : List PlayerMatch :=
  let positive := Ratio.sum (records.map (fun r => Ratio.atLeastZero r.totalImpact))
  records.map (fun r =>
    { r with
      matchSwingPercentage := Ratio.percentage (Ratio.atLeastZero r.totalImpact) positive })

/-- What an achievement is awarded for. -/
def achievementValue (a : Achievement) (r : PlayerMatch) : Float :=
  match a with
  | .fragger => r.fraggerScore
  | .support => r.supportScore
  | .opener => r.openerScore
  | .closer => r.closerScore
  | .topAim => r.aimRating
  | .mostImpact => r.totalImpact
  | .matchSwing => r.matchSwingPercentage

/-- The place of the record that earns an achievement: the greatest positive value, and of several the
first. -/
def winner? (records : List PlayerMatch) (a : Achievement) : Option Nat :=
  (lastGreatest? (fun e => Ratio.place (achievementValue a e.1))
    (records.zipIdx.reverse.filter (fun e => 0 < achievementValue a e.1))).map (·.2)

def award (records : List PlayerMatch) (a : Achievement) : List PlayerMatch :=
  match winner? records a with
  | some i => records.modify i (fun r => { r with achievements := r.achievements ++ [a] })
  | none => records

/-- Whether a record stands before another, or as high: more impact, then more kills, then the lower id. -/
def ranksBefore (r r' : PlayerMatch) : Bool :=
  match compare (Ratio.place r'.totalImpact) (Ratio.place r.totalImpact) with
  | .lt => true
  | .gt => false
  | .eq =>
    match compare r'.kills r.kills with
    | .lt => true
    | .gt => false
    | .eq => r.player ≤ r'.player

def rankAll (records : List PlayerMatch) : List PlayerMatch :=
  let order := (records.zipIdx.mergeSort (fun a b => ranksBefore a.1 b.1)).map (·.2)
  records.zipIdx.map (fun e => { e.1 with rank := order.idxOf e.2 + 1 })

end PlayerMatch

namespace MatchState

/-- Closes the match: a record for every registered player. -/
def closeMatch (s : MatchState) : MatchState :=
  let records := s.players.values.map (fun p =>
    PlayerMatch.summarize p (s.team? p.id) (s.playerRounds.filter (·.player = p.id)))
  let awarded := Achievement.all.foldl PlayerMatch.award (PlayerMatch.shareImpact records)
  { s with playerMatches := PlayerMatch.rankAll awarded }

end MatchState

end Scorebook
