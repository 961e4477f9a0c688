import Scorebook.MatchState
/-!
# Marks

The start and the end of a round, the end of its freeze time, and the bomb leave a mark with the score and
the sides of the moment.
-/
namespace Scorebook.MatchState

def mark (s : MatchState) (kind : RoundMarkKind) (tick : Tick) : RoundMark where
  round := s.round.number
  kind := kind
  tick := tick
  roundTime := s.roundTime tick
  teamASide := s.teams.sideOf .a
  teamAScore := s.teams.wins .a
  teamBScore := s.teams.wins .b

def addMark (s : MatchState) (m : RoundMark) : MatchState := { s with marks := s.marks ++ [m] }

/-- Handles the end of the freeze time, from which the time of a live round counts. -/
def recordFreezeEnd (s : MatchState) (tick : Tick) : MatchState :=
  if s.round.phase = .live then
    let s := { s with round := { s.round with freezeEndTick := some tick } }
    s.addMark (s.mark .freezeEnd tick)
  else s

/-- Decides a live round, and schedules the swap of sides if the next round needs one. -/
def decideRound (s : MatchState) (n : RoundEndNotice) (tick : Tick) : MatchState :=
  let winnerTeam := n.winner.map s.teams.onSide
  let teams := match n.winner with
    | some side => s.teams.addWin side
    | none => s.teams
  let s := { s with teams, round := { s.round with phase := .ended } }
  let s := s.addMark
    { s.mark .finish tick with
      winnerSide := n.winner, winnerTeam := winnerTeam, endReason := some n.reason }
  if isSwapRound (s.round.number + 1) then { s with teams := s.teams.scheduleSwap } else s

def recordBomb (s : MatchState) (kind : RoundMarkKind) (n : BombNotice) (tick : Tick) :
    Step MatchState :=
  if !s.round.isOpen then .stop s (.noRoundInProgress "bomb")
  else
    let s := s.observeOptional n.player
    { state := s.addMark { s.mark kind tick with player := n.player.map (·.id), site := n.site } }

/-- Starts the match over: everything recorded so far was a warm-up.  Who the players are and which team
they belong to is kept.  Nothing changes as long as no round was started. -/
def restart (s : MatchState) : MatchState :=
  if s.round.number = 0 && s.gunfights.isEmpty then s
  else
    { s with
      round := {}
      marks := []
      gunfights := []
      damages := []
      grenades := []
      playerRounds := []
      shotsFired := ∅
      tables := {}
      teams := s.teams.resetScore
      players := s.players.mapValues (fun _ p =>
        { p with kills := 0, deaths := 0, headshots := 0, wallbangs := 0 }) }

end Scorebook.MatchState
