import Scorebook.MatchState
import Scorebook.Text
/-!
# The report of a match

What a finished match leaves: who played, who won, and all records.
-/
namespace Scorebook

inductive GameMode where
  | competitive
  | premier
  | wingman
  | casual
  | other
deriving DecidableEq, Inhabited

namespace GameMode

def name : GameMode → String
  | .competitive => "Competitive"
  | .premier => "Premier"
  | .wingman => "Wingman"
  | .casual => "Casual"
  | .other => "Other"

/-- The mode that a name speaks of, in the order in which the words are looked for. -/
def classify (name : String) : GameMode :=
  let cs := Text.lower name.toList
  let speaksOf (word : String) : Bool := Text.occursIn word.toList cs
  if speaksOf "premier" then .premier
  else if speaksOf "competitive" || speaksOf "scrimcomp5v5" then .competitive
  else if speaksOf "wingman" || speaksOf "scrimcomp2v2" then .wingman
  else if speaksOf "casual" then .casual
  else .other

end GameMode

inductive MapType where
  | defusal
  | hostage
  | custom
deriving DecidableEq, Inhabited

namespace MapType

def name : MapType → String
  | .defusal => "Defusal"
  | .hostage => "Hostage"
  | .custom => "Custom"

/-- The type of a map, by the start of its name after the last slash. -/
def classify (mapName : String) : MapType :=
  let base := Text.afterLast '/' mapName.toList
  if "de_".toList.isPrefixOf base then .defusal
  else if "cs_".toList.isPrefixOf base then .hostage
  else .custom

end MapType

structure MatchSummary where
  mapName : String
  serverName : String
  gameMode : GameMode
  mapType : MapType
  tickRate : Float
  roundsPlayed : Nat
  teamAScore : Nat
  teamBScore : Nat
  winner : Option Team
deriving Inhabited

def MatchSummary.toJson (m : MatchSummary) : Json :=
  .object
    [("map_name", .text m.mapName), ("server_name", .text m.serverName),
     ("game_mode", .text m.gameMode.name), ("map_type", .text m.mapType.name),
     ("tick_rate", .double m.tickRate), ("rounds_played", .nat m.roundsPlayed),
     ("team_a_score", .nat m.teamAScore), ("team_b_score", .nat m.teamBScore),
     ("winner", .option Team.toJson m.winner)]

structure PlayerEntry where
  player : PlayerId
  name : String
  team : Option Team
  connected : Bool
deriving Inhabited

def PlayerEntry.toJson (p : PlayerEntry) : Json :=
  .object
    [("player_id", .nat p.player), ("name", .text p.name), ("team", .option Team.toJson p.team),
     ("connected", .bool p.connected)]

structure Report where
  summary : MatchSummary
  players : List PlayerEntry
  marks : List RoundMark
  gunfights : List Gunfight
  damages : List Damage
  grenades : List Grenade
  playerRounds : List PlayerRound
  playerMatches : List PlayerMatch
deriving Inhabited

namespace Report

/-- The team with more wins, if one has more. -/
def leader? (a b : Nat) : Option Team := if b < a then some .a else if a < b then some .b else none

def ofState (s : MatchState) : Report where
  summary :=
    { mapName := s.header.mapName
      serverName := s.header.serverName
      gameMode := GameMode.classify s.header.gameMode
      mapType := MapType.classify s.header.mapName
      tickRate := s.tickRate
      roundsPlayed := s.round.number
      teamAScore := s.teams.wins .a
      teamBScore := s.teams.wins .b
      winner := leader? (s.teams.wins .a) (s.teams.wins .b) }
  players := s.players.values.map (fun p =>
    { player := p.id, name := p.name, team := s.team? p.id, connected := p.connected })
  marks := s.marks
  gunfights := s.gunfights
  damages := s.damages
  grenades := s.grenades
  playerRounds := s.playerRounds
  playerMatches := s.playerMatches

def toJson (r : Report) : Json :=
  .object
    [("match_record", r.summary.toJson), ("players", .listOf PlayerEntry.toJson r.players),
     ("rounds", .listOf RoundMark.toJson r.marks),
     ("gunfights", .listOf Gunfight.toJson r.gunfights),
     ("damages", .listOf Damage.toJson r.damages),
     ("grenades", .listOf Grenade.toJson r.grenades),
     ("player_rounds", .listOf PlayerRound.toJson r.playerRounds),
     ("player_matches", .listOf PlayerMatch.toJson r.playerMatches)]

end Report

end Scorebook
