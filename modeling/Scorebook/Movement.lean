import Scorebook.Actor
import Scorebook.Table
/-!
# How a player moves

Movement is read off the flags of an actor.  Where the stream gives no velocity, the speed is estimated
from the position at which the player was last seen in the round.
-/
namespace Scorebook

inductive Stance where
  | jumping
  | crouched
deriving DecidableEq

inductive Motion where
  | walking
  | running
  | moving
deriving DecidableEq

/-- The movement of a player at one tick; a player with neither stance nor motion stands. -/
structure Movement where
  stance : Option Stance
  motion : Option Motion
deriving DecidableEq

def Stance.name : Stance → String
  | .jumping => "Jumping"
  | .crouched => "Crouched"

def Motion.name : Motion → String
  | .walking => "Walking"
  | .running => "Running"
  | .moving => "Moving"

def Movement.label (m : Movement) : String :=
  match m.stance, m.motion with
  | none, none => "Standing"
  | some s, none => s.name
  | none, some m => m.name
  | some s, some m => s!"{s.name} {m.name}"

def Movement.toJson (m : Movement) : Json :=
  .object
    [("stance", .option (fun s => .text s.name) m.stance),
     ("motion", .option (fun s => .text s.name) m.motion)]

/-- Where and when each player was last seen. -/
abbrev Sightings := Table PlayerId (Tick × Vector3)

namespace Sightings

/-- The speed from which a player runs, and above which a player moves at all. -/
def runSpeed : Float32 := 150

def moveSpeed : Float32 := 10

def observe (s : Sightings) (a : Actor) (tick : Tick) : Sightings :=
  s.insert a.id (tick, a.position)

/-- The speed over ground since the last sighting, if time has passed since. -/
def estimatedSpeed? (s : Sightings) (a : Actor) (tick : Tick) (tickRate : Float) : Option Float32 :=
  match s.get? a.id with
  | none => none
  | some (lastTick, lastPosition) =>
    let elapsed := Clock.seconds (tick - lastTick) tickRate
    if elapsed ≤ 0 then none
    else some ((a.position.sub lastPosition).groundLength / elapsed.toFloat32)

def speed? (s : Sightings) (a : Actor) (tick : Tick) (tickRate : Float) : Option Float32 :=
  match a.movement.velocity with
  | some v => some v.groundLength
  | none => s.estimatedSpeed? a tick tickRate

def stance? (m : MovementFlags) : Option Stance :=
  if !m.onGround then some .jumping else if m.ducking then some .crouched else none

def classify (s : Sightings) (a : Actor) (tick : Tick) (tickRate : Float) : Movement :=
  let speed := s.speed? a tick tickRate
  let moving := a.movement.hasIntent || speed.any (fun v => moveSpeed < v)
  let motion :=
    if !moving then none
    else if a.movement.walking then some .walking
    else if speed.any (fun v => runSpeed ≤ v) then some .running
    else some .moving
  ⟨stance? a.movement, motion⟩

end Sightings

end Scorebook
