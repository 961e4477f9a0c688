import Scorebook.MatchState
/-!
# Players who come and go

A player who disconnects stays registered and keeps the records so far.  Whoever leaves while alive in a
live round is out of it from that tick on.
-/
namespace Scorebook.MatchState

def isInPlay (s : MatchState) (id : PlayerId) : Bool :=
  s.round.phase = .live && s.round.roster.contains id && (s.conditions.get? id).any (·.isAlive)

def setConnected (s : MatchState) (id : PlayerId) (connected : Bool) : MatchState :=
  { s with players := s.players.modify id (fun p => { p with connected := connected }) }

def recordDisconnect (s : MatchState) (a : Actor) (tick : Tick) : Step MatchState :=
  if !s.players.contains a.id then .stop s (.unregisteredPlayer a.id)
  else
    let left := s.setConnected a.id false
    if left.isInPlay a.id then { state := left.recordExit a.id .disconnect tick }
    else
      { state :=
          { left with
            conditions := left.conditions.modify a.id (fun c => { c with isAlive := false }) } }

/-- Handles a player who changes teams: seen where the player goes. -/
def recordTeamChange (s : MatchState) (n : TeamChangeNotice) : Step MatchState :=
  match n.player with
  | none => .stop s (.missingActor "player_team_change" "player")
  | some a => { state := s.observe { a with allegiance := n.newTeam } }

end Scorebook.MatchState
