import Scorebook.Actor
import Scorebook.Table
/-!
# Teams and sides

A team is the same group of players throughout a match, whichever side it plays.  Team A starts as
counter-terrorists; a player belongs to the team whose side the player was first seen on.  Ten players are
labelled, and nobody after them.
-/
namespace Scorebook

inductive Team where
  | a
  | b
deriving DecidableEq, Inhabited

namespace Team

def other : Team → Team
  | .a => .b
  | .b => .a

def name : Team → String
  | .a => "A"
  | .b => "B"

def ofName? : String → Option Team
  | "A" => some .a
  | "B" => some .b
  | _ => none

def toJson (t : Team) : Json := .text t.name

end Team

/-! ## When sides swap -/

def teamSize : Nat := 5

def regulationRounds : Nat := 24

/-- The first round of the second half. -/
def halftimeRound : Nat := 13

/-- Rounds of one half of overtime. -/
def overtimeHalf : Nat := 3

/-- Sides swap when this round begins: at halftime, and every three rounds of overtime after its first
three. -/
def isSwapRound (round : Nat) : Bool :=
  if round = halftimeRound then true
  else if round ≤ regulationRounds then false
  else
    overtimeHalf < round - regulationRounds && (round - regulationRounds) % overtimeHalf = 1

/-! ## Labels and score -/

structure Teams where
  labels : Table PlayerId Team := ∅
  sideOfA : Side := .ct
  winsA : Nat := 0
  winsB : Nat := 0
  /-- Sides swap when the next round begins. -/
  swapDue : Bool := false
deriving Inhabited

namespace Teams

/-- Nobody is labelled any more. -/
def isFull (t : Teams) : Bool := 2 * teamSize ≤ t.labels.size

def label? (t : Teams) (id : PlayerId) : Option Team := t.labels.get? id

def sideOf (t : Teams) : Team → Side
  | .a => t.sideOfA
  | .b => t.sideOfA.opposite

def onSide (t : Teams) (s : Side) : Team := if t.sideOfA = s then .a else .b

def wins (t : Teams) : Team → Nat
  | .a => t.winsA
  | .b => t.winsB

/-- Labels a player who plays on side `s`, unless the player has a label or nobody is labelled any
more. -/
def assign (t : Teams) (id : PlayerId) (s : Side) : Teams :=
  if t.labels.contains id || t.isFull then t
  else { t with labels := t.labels.insert id (t.onSide s) }

def addWin (t : Teams) (s : Side) : Teams :=
  match t.onSide s with
  | .a => { t with winsA := t.winsA + 1 }
  | .b => { t with winsB := t.winsB + 1 }

def scheduleSwap (t : Teams) : Teams := { t with swapDue := true }

/-- The teams after the swap that is due, if one is. -/
def applySwap (t : Teams) : Teams :=
  if t.swapDue then { t with swapDue := false, sideOfA := t.sideOfA.opposite } else t

/-- No wins, and the sides of the first round. -/
def resetScore (t : Teams) : Teams :=
  { t with winsA := 0, winsB := 0, swapDue := false, sideOfA := .ct }

end Teams

end Scorebook
