import Scorebook.GrenadeKind
import Scorebook.Selection
import Scorebook.Space
/-!
# Players as the stream shows them

An event carries an `Actor` for every player that takes part in it: a snapshot of that player at the tick
of the event.  What a player carries is worth its price; armor is worth what it cost to buy.
-/
namespace Scorebook

inductive Side where
  | ct
  | t
deriving DecidableEq, Inhabited

namespace Side

def opposite : Side → Side
  | .ct => .t
  | .t => .ct

def name : Side → String
  | .ct => "CT"
  | .t => "T"

def ofName? : String → Option Side
  | "CT" => some .ct
  | "T" => some .t
  | _ => none

def toJson (s : Side) : Json := .text s.name

end Side

/-- Where a player stands according to the stream.  It flips at halftime, as the sides do. -/
inductive Allegiance where
  | unassigned
  | spectator
  | terrorist
  | counterTerrorist
deriving DecidableEq, Inhabited

namespace Allegiance

def side? : Allegiance → Option Side
  | .terrorist => some .t
  | .counterTerrorist => some .ct
  | .unassigned | .spectator => none

def name : Allegiance → String
  | .unassigned => "Unassigned"
  | .spectator => "Spectator"
  | .terrorist => "Terrorist"
  | .counterTerrorist => "CounterTerrorist"

def ofName? : String → Option Allegiance
  | "Unassigned" => some .unassigned
  | "Spectator" => some .spectator
  | "Terrorist" => some .terrorist
  | "CounterTerrorist" => some .counterTerrorist
  | _ => none

def toJson (a : Allegiance) : Json := .text a.name

end Allegiance

/-- How a player moves, and which movement keys are held. -/
structure MovementFlags where
  onGround : Bool := false
  ducking : Bool := false
  walking : Bool := false
  velocity : Option Vector3 := none
  forward : Bool := false
  back : Bool := false
  left : Bool := false
  right : Bool := false
deriving Inhabited

namespace MovementFlags

def hasIntent (m : MovementFlags) : Bool := m.forward || m.back || m.left || m.right

def toJson (m : MovementFlags) : Json :=
  .object
    [("on_ground", .bool m.onGround), ("ducking", .bool m.ducking), ("walking", .bool m.walking),
     ("velocity", .option Vector3.toJson m.velocity), ("forward", .bool m.forward),
     ("back", .bool m.back), ("left", .bool m.left), ("right", .bool m.right)]

/-- Every field may be left out. -/
def ofJson? (j : Json) : Option MovementFlags := do
  let [onGround, ducking, walking, velocity, forward, back, left, right] ←
    j.slots? ["on_ground", "ducking", "walking", "velocity", "forward", "back", "left", "right"]
    | none
  return {
    onGround := ← onGround.orElse? false Json.bool?
    ducking := ← ducking.orElse? false Json.bool?
    walking := ← walking.orElse? false Json.bool?
    velocity := ← velocity.orElse? none (Json.nullable? Vector3.ofJson?)
    forward := ← forward.orElse? false Json.bool?
    back := ← back.orElse? false Json.bool?
    left := ← left.orElse? false Json.bool?
    right := ← right.orElse? false Json.bool? }

end MovementFlags

/-- A player at the tick of an event. -/
structure Actor where
  id : PlayerId := 0
  name : String := ""
  allegiance : Allegiance := .unassigned
  position : Vector3 := .zero
  view : ViewAngles := ⟨0, 0⟩
  health : Int := 0
  armor : Int := 0
  hasHelmet : Bool := false
  hasDefuseKit : Bool := false
  isAlive : Bool := false
  activeWeapon : Option Weapon := none
  inventory : List Weapon := []
  flashDuration : Float32 := 0
  money : Int := 0
  movement : MovementFlags := {}
deriving Inhabited

namespace Actor

def isFlashed (a : Actor) : Bool := 0 < a.flashDuration

/-! ## What a player carries -/

/-- The price of armor, of a helmet and of a defuse kit. -/
def kevlarPrice : Int := 650

def helmetPrice : Int := 350

def defuseKitPrice : Int := 400

/-- The worth of armor.  A helmet alone is worth nothing. -/
def armorValue (a : Actor) : Int :=
  if 0 < a.armor then (if a.hasHelmet then kevlarPrice + helmetPrice else kevlarPrice) else 0

def equipmentValue (a : Actor) : Int :=
  total Weapon.price a.inventory + a.armorValue + (if a.hasDefuseKit then defuseKitPrice else 0)

def grenadeValue (a : Actor) : Int := total Weapon.price (a.inventory.filter Weapon.isGrenade)

/-! ## JSON -/

def toJson (a : Actor) : Json :=
  .object
    [("id", .nat a.id), ("name", .text a.name), ("team", a.allegiance.toJson),
     ("position", a.position.toJson), ("view", a.view.toJson), ("health", .int a.health),
     ("armor", .int a.armor), ("has_helmet", .bool a.hasHelmet),
     ("has_defuse_kit", .bool a.hasDefuseKit), ("is_alive", .bool a.isAlive),
     ("active_weapon", .option Weapon.toJson a.activeWeapon),
     ("inventory", .listOf Weapon.toJson a.inventory), ("flash_duration", .single a.flashDuration),
     ("money", .int a.money), ("movement", a.movement.toJson)]

def fieldNames : List String :=
  ["id", "name", "team", "position", "view", "health", "armor", "has_helmet", "has_defuse_kit",
   "is_alive", "active_weapon", "inventory", "flash_duration", "money", "movement"]

/-- Every field may be left out. -/
def ofJson? (route : Json.Route) (j : Json) : Option Actor := do
  let [id, name, allegiance, position, view, health, armor, hasHelmet, hasDefuseKit, isAlive,
      activeWeapon, inventory, flashDuration, money, movement] ← j.slots? fieldNames
    | none
  return {
    id := ← id.orElse? 0 (Json.natBelow? 64)
    name := ← name.orElse? "" Json.text?
    allegiance := ← allegiance.orElse? .unassigned (Json.named? route Allegiance.ofName?)
    position := ← position.orElse? .zero Vector3.ofJson?
    view := ← view.orElse? ⟨0, 0⟩ ViewAngles.ofJson?
    health := ← health.orElse? 0 Json.int32?
    armor := ← armor.orElse? 0 Json.int32?
    hasHelmet := ← hasHelmet.orElse? false Json.bool?
    hasDefuseKit := ← hasDefuseKit.orElse? false Json.bool?
    isAlive := ← isAlive.orElse? false Json.bool?
    activeWeapon := ← activeWeapon.orElse? none (Json.nullable? Weapon.ofJson?)
    inventory := ← inventory.orElse? [] (Json.listOf? Weapon.ofJson?)
    flashDuration := ← flashDuration.orElse? 0 Json.single?
    money := ← money.orElse? 0 Json.int32?
    movement := ← movement.orElse? {} MovementFlags.ofJson? }

end Actor

end Scorebook
