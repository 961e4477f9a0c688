import Scorebook.Event
/-!
# Events as JSON

A notice is a structure; an event is its notice with the kind of the event beside it, under the key
`type`.  A structure may be read from an object, whose unknown keys are passed over, or from a list.
-/
namespace Scorebook

namespace Header

def toJson (h : Header) : Json :=
  .object
    [("map_name", .text h.mapName), ("server_name", .text h.serverName),
     ("game_mode", .text h.gameMode), ("tick_rate", .option Json.double h.tickRate)]

/-- All but the name of the map may be left out. -/
def ofJson? (j : Json) : Option Header := do
  let [mapName, serverName, gameMode, tickRate] ←
    j.slots? ["map_name", "server_name", "game_mode", "tick_rate"] | none
  return {
    mapName := ← mapName.required? Json.text?
    serverName := ← serverName.orElse? "" Json.text?
    gameMode := ← gameMode.orElse? "" Json.text?
    tickRate := ← tickRate.orElse? none (Json.nullable? Json.double?) }

end Header

/-! ## Notices

Each notice has the list of its fields, to which an event adds its kind, and a reader.  The reader of an
event holds the notice until it has the kind. -/

def Actor.optionJson (a : Option Actor) : Json := .option Actor.toJson a

def Actor.ofSlot? (route : Json.Route) (s : Json.Slot) : Option (Option Actor) :=
  s.optional? (Actor.ofJson? route)

namespace RoundEndNotice

def fields (n : RoundEndNotice) : List (String × Json) :=
  [("winner", .option Side.toJson n.winner), ("reason", .text n.reason.name)]

def ofJson? (route : Json.Route) (j : Json) : Option RoundEndNotice := do
  let [winner, reason] ← j.slots? ["winner", "reason"] | none
  return {
    winner := ← winner.optional? (Json.named? route Side.ofName?)
    reason := ← reason.required? (Json.named? route RoundEndReason.ofName?) }

end RoundEndNotice

namespace KillNotice

def fields (n : KillNotice) : List (String × Json) :=
  [("killer", Actor.optionJson n.killer), ("victim", Actor.optionJson n.victim),
   ("assister", Actor.optionJson n.assister), ("weapon", .option Weapon.toJson n.weapon),
   ("is_headshot", .bool n.isHeadshot), ("penetrated_objects", .nat n.penetratedObjects),
   ("assisted_flash", .bool n.assistedFlash)]

def ofJson? (route : Json.Route) (j : Json) : Option KillNotice := do
  let [killer, victim, assister, weapon, isHeadshot, penetratedObjects, assistedFlash] ←
    j.slots? ["killer", "victim", "assister", "weapon", "is_headshot", "penetrated_objects",
      "assisted_flash"]
    | none
  return {
    killer := ← Actor.ofSlot? route killer
    victim := ← Actor.ofSlot? route victim
    assister := ← assister.orElse? none (Json.nullable? (Actor.ofJson? route))
    weapon := ← weapon.optional? Weapon.ofJson?
    isHeadshot := ← isHeadshot.orElse? false Json.bool?
    penetratedObjects := ← penetratedObjects.orElse? 0 (Json.natBelow? 32)
    assistedFlash := ← assistedFlash.orElse? false Json.bool? }

end KillNotice

namespace HurtNotice

def fields (n : HurtNotice) : List (String × Json) :=
  [("attacker", Actor.optionJson n.attacker), ("player", Actor.optionJson n.player),
   ("weapon", .option Weapon.toJson n.weapon), ("health_damage", .int n.healthDamage),
   ("armor_damage", .int n.armorDamage), ("hit_group", .option Json.text n.hitGroup)]

def ofJson? (route : Json.Route) (j : Json) : Option HurtNotice := do
  let [attacker, player, weapon, healthDamage, armorDamage, hitGroup] ←
    j.slots? ["attacker", "player", "weapon", "health_damage", "armor_damage", "hit_group"] | none
  return {
    attacker := ← Actor.ofSlot? route attacker
    player := ← Actor.ofSlot? route player
    weapon := ← weapon.optional? Weapon.ofJson?
    healthDamage := ← healthDamage.required? Json.int32?
    armorDamage := ← armorDamage.orElse? 0 Json.int32?
    hitGroup := ← hitGroup.orElse? none (Json.nullable? Json.text?) }

end HurtNotice

namespace FireNotice

def fields (n : FireNotice) : List (String × Json) :=
  [("shooter", Actor.optionJson n.shooter), ("weapon", .option Weapon.toJson n.weapon)]

def ofJson? (route : Json.Route) (j : Json) : Option FireNotice := do
  let [shooter, weapon] ← j.slots? ["shooter", "weapon"] | none
  return { shooter := ← Actor.ofSlot? route shooter, weapon := ← weapon.optional? Weapon.ofJson? }

end FireNotice

namespace ProjectileNotice

def fields (n : ProjectileNotice) : List (String × Json) :=
  [("entity_id", .int n.entity), ("weapon", n.weapon.toJson),
   ("thrower", Actor.optionJson n.thrower), ("position", n.position.toJson)]

def ofJson? (route : Json.Route) (j : Json) : Option ProjectileNotice := do
  let [entity, weapon, thrower, position] ←
    j.slots? ["entity_id", "weapon", "thrower", "position"] | none
  return {
    entity := ← entity.required? Json.int64?
    weapon := ← weapon.required? Weapon.ofJson?
    thrower := ← Actor.ofSlot? route thrower
    position := ← position.required? Vector3.ofJson? }

end ProjectileNotice

namespace FlashedNotice

def fields (n : FlashedNotice) : List (String × Json) :=
  [("player", Actor.optionJson n.player), ("attacker", Actor.optionJson n.attacker),
   ("flash_duration", .single n.duration)]

def ofJson? (route : Json.Route) (j : Json) : Option FlashedNotice := do
  let [player, attacker, duration] ← j.slots? ["player", "attacker", "flash_duration"] | none
  return {
    player := ← Actor.ofSlot? route player
    attacker := ← Actor.ofSlot? route attacker
    duration := ← duration.required? Json.single? }

end FlashedNotice

namespace BombNotice

def fields (n : BombNotice) : List (String × Json) :=
  [("player", Actor.optionJson n.player), ("site", .option Json.text n.site)]

def ofJson? (route : Json.Route) (j : Json) : Option BombNotice := do
  let [player, site] ← j.slots? ["player", "site"] | none
  return {
    player := ← Actor.ofSlot? route player
    site := ← site.orElse? none (Json.nullable? Json.text?) }

end BombNotice

namespace TeamChangeNotice

def fields (n : TeamChangeNotice) : List (String × Json) :=
  [("player", Actor.optionJson n.player), ("new_team", n.newTeam.toJson),
   ("old_team", n.oldTeam.toJson)]

def ofJson? (route : Json.Route) (j : Json) : Option TeamChangeNotice := do
  let [player, newTeam, oldTeam] ← j.slots? ["player", "new_team", "old_team"] | none
  return {
    player := ← Actor.ofSlot? route player
    newTeam := ← newTeam.required? (Json.named? route Allegiance.ofName?)
    oldTeam := ← oldTeam.required? (Json.named? route Allegiance.ofName?) }

end TeamChangeNotice

/-! ## Events -/

namespace Event

def kind : Event → String
  | .matchStart => "MatchStart"
  | .roundStart => "RoundStart"
  | .freezeEnd => "RoundFreezeEnd"
  | .roundEnd _ => "RoundEnd"
  | .kill _ => "Kill"
  | .playerHurt _ => "PlayerHurt"
  | .weaponFire _ => "WeaponFire"
  | .projectileThrow _ => "GrenadeProjectileThrow"
  | .projectileDestroy _ => "GrenadeProjectileDestroy"
  | .flashExplode _ => "FlashExplode"
  | .playerFlashed _ => "PlayerFlashed"
  | .smokeStart _ => "SmokeStart"
  | .bombPlanted _ => "BombPlanted"
  | .bombDefused _ => "BombDefused"
  | .bombExploded _ => "BombExploded"
  | .playerConnect _ => "PlayerConnect"
  | .playerDisconnect _ => "PlayerDisconnect"
  | .playerTeamChange _ => "PlayerTeamChange"

def fields : Event → List (String × Json)
  | .matchStart | .roundStart | .freezeEnd => []
  | .roundEnd n => n.fields
  | .kill n => n.fields
  | .playerHurt n => n.fields
  | .weaponFire n => n.fields
  | .projectileThrow n | .projectileDestroy n | .flashExplode n | .smokeStart n => n.fields
  | .playerFlashed n => n.fields
  | .bombPlanted n | .bombDefused n | .bombExploded n => n.fields
  | .playerConnect a | .playerDisconnect a =>
    match a.toJson with
    | .object fields => fields
    | _ => []
  | .playerTeamChange n => n.fields

def toJson (e : Event) : Json := .object (("type", .text e.kind) :: e.fields)

def bare? (e : Event) : Json → Option Event
  | .object _ | .list [] => some e
  | _ => none

/-- The event of a kind, with its notice read from `body`. -/
def ofKind? (kind : String) (body : Json) : Option Event :=
  match kind with
  | "MatchStart" => bare? .matchStart body
  | "RoundStart" => bare? .roundStart body
  | "RoundFreezeEnd" => bare? .freezeEnd body
  | "RoundEnd" => (RoundEndNotice.ofJson? .held body).map .roundEnd
  | "Kill" => (KillNotice.ofJson? .held body).map .kill
  | "PlayerHurt" => (HurtNotice.ofJson? .held body).map .playerHurt
  | "WeaponFire" => (FireNotice.ofJson? .held body).map .weaponFire
  | "GrenadeProjectileThrow" => (ProjectileNotice.ofJson? .held body).map .projectileThrow
  | "GrenadeProjectileDestroy" => (ProjectileNotice.ofJson? .held body).map .projectileDestroy
  | "FlashExplode" => (ProjectileNotice.ofJson? .held body).map .flashExplode
  | "PlayerFlashed" => (FlashedNotice.ofJson? .held body).map .playerFlashed
  | "SmokeStart" => (ProjectileNotice.ofJson? .held body).map .smokeStart
  | "BombPlanted" => (BombNotice.ofJson? .held body).map .bombPlanted
  | "BombDefused" => (BombNotice.ofJson? .held body).map .bombDefused
  | "BombExploded" => (BombNotice.ofJson? .held body).map .bombExploded
  | "PlayerConnect" => (Actor.ofJson? .held body).map .playerConnect
  | "PlayerDisconnect" => (Actor.ofJson? .held body).map .playerDisconnect
  | "PlayerTeamChange" => (TeamChangeNotice.ofJson? .held body).map .playerTeamChange
  | _ => none

/-- The kind and the body of an event: the field `type` and the other fields, or the first item of a list
and the others. -/
def split? : Json → Option (String × Json)
  | .object fields =>
    match fields.filter (fun f => f.1 == "type") with
    | [(_, .text kind)] => some (kind, .object (fields.filter (fun f => f.1 != "type")))
    | _ => none
  | .list (.text kind :: items) => some (kind, .list items)
  | _ => none

def ofJson? (j : Json) : Option Event := (split? j).bind (fun e => ofKind? e.1 e.2)

/-- Whether a reader of documents can follow an event that stands inside `around` containers.  All of it has
to be readable, fields that are passed over included. -/
def isLegible (around : Nat) (j : Json) : Bool :=
  j.isReadable && j.depth + around ≤ Json.depthLimit

end Event

namespace TimedEvent

def toJson (e : TimedEvent) : Json := .object [("tick", .int e.tick), ("event", e.event.toJson)]

def ofJson? (j : Json) : Option TimedEvent := do
  let [tick, event] ← j.slots? ["tick", "event"] | none
  return { tick := ← tick.required? Json.int64?, event := ← event.required? Event.ofJson? }

/-- Reads an event and its tick out of a document, where they stand inside `around` containers. -/
def ofDocument? (around : Nat) (j : Json) : Option TimedEvent := do
  let [_, event] ← j.slots? ["tick", "event"] | none
  if ← event.required? (fun j => some (Event.isLegible (around + 1) j)) then ofJson? j else none

end TimedEvent

end Scorebook
