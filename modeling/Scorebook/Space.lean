import Scorebook.Json.Decoder
/-!
# Positions and view angles

Coordinates are singles, and so is all arithmetic on them.
-/
namespace Scorebook

structure Vector3 where
  x : Float32
  y : Float32
  z : Float32
deriving Inhabited, BEq, DecidableEq

namespace Vector3

def zero : Vector3 := ⟨0, 0, 0⟩

def sub (a b : Vector3) : Vector3 := ⟨a.x - b.x, a.y - b.y, a.z - b.z⟩

def length (v : Vector3) : Float32 := (v.x * v.x + v.y * v.y + v.z * v.z).sqrt

def groundLength (v : Vector3) : Float32 := (v.x * v.x + v.y * v.y).sqrt

def distance (a b : Vector3) : Float32 := (a.sub b).length

/-- The vector scaled to length one by the reciprocal of its length, or zero when that is no positive
number. -/
def unit (v : Vector3) : Vector3 :=
  let r := 1 / v.length
  if r.isFinite && 0 < r then ⟨v.x * r, v.y * r, v.z * r⟩ else zero

def toJson (v : Vector3) : Json :=
  .object [("x", .single v.x), ("y", .single v.y), ("z", .single v.z)]

def ofJson? (j : Json) : Option Vector3 := do
  let [x, y, z] ← j.slots? ["x", "y", "z"] | none
  return ⟨← x.required? Json.single?, ← y.required? Json.single?, ← z.required? Json.single?⟩

end Vector3

/-- A direction of view, in degrees. -/
structure ViewAngles where
  pitch : Float32
  yaw : Float32
deriving Inhabited, BEq, DecidableEq

namespace ViewAngles

def radian : Float32 := 3.14159265358979323846 / 180

/-- The unit vector that points where the view does.  A positive pitch looks down. -/
def forward (v : ViewAngles) : Vector3 :=
  let pitch := v.pitch * radian
  let yaw := v.yaw * radian
  Vector3.unit ⟨pitch.cos * yaw.cos, pitch.cos * yaw.sin, -pitch.sin⟩

def toJson (v : ViewAngles) : Json :=
  .object [("pitch", .single v.pitch), ("yaw", .single v.yaw)]

def ofJson? (j : Json) : Option ViewAngles := do
  let [pitch, yaw] ← j.slots? ["pitch", "yaw"] | none
  return ⟨← pitch.required? Json.single?, ← yaw.required? Json.single?⟩

end ViewAngles

end Scorebook
