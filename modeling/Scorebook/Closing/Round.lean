import Scorebook.Closing.PlayerRound
import Scorebook.Handling.Kill
/-!
# Closing a round

When the next round starts, or the match ends, the round before is complete and everything that needs all
of it is worked out: damage assists, the damage of grenades, clutches, impact and trades, and then a record
for every registered player.
-/
namespace Scorebook.MatchState

/-- Works out the damage assist of a gunfight again, since damage of the tick of a kill may have been
reported after it. -/
def withAssister (s : MatchState) (c : Config) (g : Gunfight) : Gunfight :=
  { g with
    assister :=
      damageAssister? s.damages g.round g.killer.id g.victim.id g.tick c.damageAssistThreshold }

def sortedExits (s : MatchState) : List Exit := sortByKey (·.tick) s.round.exits

def clutches (s : MatchState) : List Clutch := Clutch.detect s.round.roster s.sortedExits

/-- Fills in what the gunfights and grenades of a round leave open until it is over. -/
def settleRecords (s : MatchState) (c : Config) (round : Nat) : MatchState :=
  let s : MatchState :=
    { s with
      gunfights := s.gunfights.map (fun g =>
        if g.round = round && !g.isTeamKill then s.withAssister c g else g) }
  let s := s.creditGrenades round c
  { s with
    gunfights := s.gunfights.map (fun g =>
      if g.round = round then Impact.apply s.clutches c.impact g else g) }

/-- The team that won a round, by the last mark of its end. -/
def winnerOf? (s : MatchState) (round : Nat) : Option Team :=
  (s.marks.reverse.find? (fun m => m.round = round && m.kind = .finish)).bind (·.winnerTeam)

def facts (s : MatchState) (c : Config) (round : Nat) : RoundFacts :=
  let fights := sortByKey (·.tick) (s.gunfightsIn round)
  { round := round
    fights := fights
    damages := s.damagesIn round
    grenades := s.grenadesIn round
    marks := s.marks.filter (·.round = round)
    exits := s.sortedExits
    clutches := s.clutches
    trades :=
      Trade.detect s.round.roster fights s.sortedExits
        { distance := c.tradeDistance, ticks := Clock.ticks c.tradeWindowSeconds s.tickRate }
    winner := s.winnerOf? round }

/-- Closes the round in progress.  A round without a number, or one that has records already, is left as
it is. -/
def closeRound (s : MatchState) (c : Config) : MatchState :=
  let round := s.round.number
  if round = 0 || s.playerRounds.any (·.round = round) then s
  else
    let s := s.settleRecords c round
    let facts := s.facts c round
    { s with playerRounds := s.playerRounds ++ s.players.values.map (s.playerRound c facts) }

end Scorebook.MatchState
