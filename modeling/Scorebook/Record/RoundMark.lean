import Scorebook.Event
import Scorebook.Teams
/-!
# Marks of a round

A mark is a moment of a round worth a record: its start, the end of its freeze time, its end, and what
happens to the bomb.  Each mark carries the score at that moment.
-/
namespace Scorebook

inductive RoundMarkKind where
  | start
  | freezeEnd
  | finish
  | bombPlanted
  | bombDefused
  | bombExploded
deriving DecidableEq, Inhabited

def RoundMarkKind.name : RoundMarkKind → String
  | .start => "Start"
  | .freezeEnd => "FreezeEnd"
  | .finish => "End"
  | .bombPlanted => "BombPlanted"
  | .bombDefused => "BombDefused"
  | .bombExploded => "BombExploded"

structure RoundMark where
  round : Nat
  kind : RoundMarkKind
  tick : Tick
  roundTime : Float
  player : Option PlayerId := none
  site : Option String := none
  winnerSide : Option Side := none
  winnerTeam : Option Team := none
  endReason : Option RoundEndReason := none
  teamASide : Side
  teamAScore : Nat
  teamBScore : Nat
deriving Inhabited

def RoundMark.toJson (m : RoundMark) : Json :=
  .object
    [("round_number", .nat m.round), ("event_type", .text m.kind.name), ("tick", .int m.tick),
     ("round_time", .double m.roundTime), ("player_id", .option Json.nat m.player),
     ("site", .option Json.text m.site), ("winner_side", .option Side.toJson m.winnerSide),
     ("winner_team", .option Team.toJson m.winnerTeam),
     ("end_reason", .option (fun r => .text r.name) m.endReason),
     ("team_a_side", m.teamASide.toJson), ("team_a_score", .nat m.teamAScore),
     ("team_b_score", .nat m.teamBScore)]

end Scorebook
