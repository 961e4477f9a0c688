import Scorebook.Round
/-!
# Clutches

A player is in a clutch from the moment in which the player is the last alive of a side against one to
five enemies.  The clutch is won when all enemies are gone while the player lives.  The exits of a round
are replayed from its roster; a player has at most one clutch in a round.
-/
namespace Scorebook

structure Clutch where
  player : PlayerId
  opponents : Nat
  won : Bool
deriving Inhabited

namespace Clutch

inductive Status where
  | undecided
  | won
  | lost
deriving DecidableEq, Inhabited

structure Attempt where
  player : PlayerId
  side : Side
  opponents : Nat
  status : Status := .undecided
deriving Inhabited

def Attempt.outcome (a : Attempt) : Clutch := ⟨a.player, a.opponents, a.status = .won⟩

/-- Who is still alive, and the clutches so far. -/
structure Replay where
  living : Table PlayerId Side
  attempts : List Attempt := []

namespace Replay

def livingOn (r : Replay) (side : Side) : List PlayerId :=
  (r.living.entries.filter (fun e => e.2 = side)).map (·.1)

/-- The clutch after `gone` left: lost if it was that player's, won if nobody is left against it. -/
def resolve (r : Replay) (gone : PlayerId) (a : Attempt) : Attempt :=
  if a.status = .undecided then
    if a.player = gone then { a with status := .lost }
    else if (r.livingOn a.side.opposite).isEmpty then { a with status := .won }
    else a
  else a

/-- Starts a clutch for the last player alive on `side`, if there is one and enough enemies, but not too
many. -/
def begin (r : Replay) (side : Side) : Replay :=
  match r.livingOn side with
  | [player] =>
    let enemies := (r.livingOn side.opposite).length
    if enemies = 0 || teamSize < enemies || r.attempts.any (·.player = player) then r
    else { r with attempts := r.attempts ++ [{ player, side, opponents := enemies }] }
  | _ => r

/-- The replay after one exit.  An exit of somebody who is not alive changes nothing. -/
def step (r : Replay) (e : Exit) : Replay :=
  if r.living.contains e.player then
    let r := { r with living := r.living.erase e.player }
    let r := { r with attempts := r.attempts.map (r.resolve e.player) }
    (r.begin .ct).begin .t
  else r

/-- A clutch that the exits left undecided is won if its player is alive and nobody is left against it. -/
def settle (r : Replay) (a : Attempt) : Attempt :=
  if a.status = .undecided && (r.livingOn a.side).contains a.player &&
      (r.livingOn a.side.opposite).isEmpty then
    { a with status := .won }
  else a

end Replay

def detect (roster : Table PlayerId Side) (exits : List Exit) : List Clutch :=
  let r := exits.foldl Replay.step { living := roster }
  (r.attempts.map r.settle).map Attempt.outcome

end Clutch

end Scorebook
