import Scorebook.Teams
/-!
# The round in progress

A round is open from its start until the next one begins; it is live until it is decided.  The roster holds
the side of everybody who takes part, the exits hold who left the living players, in the order in which the
stream told it.
-/
namespace Scorebook

/-- How a player left the living players of a round. -/
inductive ExitCause where
  | killed (killer : PlayerId)
  | selfKill
  /-- Killed by nobody: a fall, the bomb, the world. -/
  | world
  | disconnect
deriving DecidableEq, Inhabited

/-- A player who disconnects is gone, but not dead. -/
def ExitCause.isDeath : ExitCause → Bool
  | .disconnect => false
  | .killed _ | .selfKill | .world => true

structure Exit where
  tick : Tick
  roundTime : Float
  player : PlayerId
  side : Option Side
  cause : ExitCause
deriving Inhabited

inductive Phase where
  | notStarted
  | live
  | ended
deriving DecidableEq, Inhabited

def Phase.name : Phase → String
  | .notStarted => "NotStarted"
  | .live => "Live"
  | .ended => "Ended"

structure Round where
  number : Nat := 0
  startTick : Tick := 0
  freezeEndTick : Option Tick := none
  phase : Phase := .notStarted
  kills : Nat := 0
  roster : Table PlayerId Side := ∅
  exits : List Exit := []
deriving Inhabited

namespace Round

def isOpen (r : Round) : Bool := r.phase != .notStarted

/-- The tick from which the time of the round counts. -/
def referenceTick (r : Round) : Tick := r.freezeEndTick.getD r.startTick

end Round

end Scorebook
