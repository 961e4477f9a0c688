import Scorebook.Actor
/-!
# The event stream

A stream is a list of events with the ticks at which they happened.  A player that could not be resolved is
absent from the notice; what that means is decided where the notice is handled.
-/
namespace Scorebook

/-- What a recording says about itself. -/
structure Header where
  mapName : String
  serverName : String := ""
  gameMode : String := ""
  tickRate : Option Float := none
deriving Inhabited

inductive RoundEndReason where
  | targetBombed
  | bombDefused
  | ctWin
  | terroristsWin
  | targetSaved
  | hostagesRescued
  | hostagesNotRescued
  | draw
  | surrender
  | unknown
deriving DecidableEq, Inhabited

namespace RoundEndReason

def all : List RoundEndReason :=
  [.targetBombed, .bombDefused, .ctWin, .terroristsWin, .targetSaved, .hostagesRescued,
   .hostagesNotRescued, .draw, .surrender, .unknown]

def name : RoundEndReason → String
  | .targetBombed => "TargetBombed"
  | .bombDefused => "BombDefused"
  | .ctWin => "CTWin"
  | .terroristsWin => "TerroristsWin"
  | .targetSaved => "TargetSaved"
  | .hostagesRescued => "HostagesRescued"
  | .hostagesNotRescued => "HostagesNotRescued"
  | .draw => "Draw"
  | .surrender => "Surrender"
  | .unknown => "Unknown"

def ofName? (s : String) : Option RoundEndReason := all.find? (fun r => r.name == s)

end RoundEndReason

/-! ## Notices -/

structure RoundEndNotice where
  winner : Option Side
  reason : RoundEndReason

structure KillNotice where
  killer : Option Actor
  victim : Option Actor
  assister : Option Actor := none
  weapon : Option Weapon
  isHeadshot : Bool := false
  penetratedObjects : Nat := 0
  assistedFlash : Bool := false

structure HurtNotice where
  attacker : Option Actor
  player : Option Actor
  weapon : Option Weapon
  healthDamage : Int
  armorDamage : Int := 0
  hitGroup : Option String := none

structure FireNotice where
  shooter : Option Actor
  weapon : Option Weapon

/-- A grenade in flight or at its end.  The entity is the same from the throw to the detonation. -/
structure ProjectileNotice where
  entity : EntityId
  weapon : Weapon
  thrower : Option Actor
  position : Vector3

structure FlashedNotice where
  player : Option Actor
  attacker : Option Actor
  duration : Float32

structure BombNotice where
  player : Option Actor
  site : Option String := none

structure TeamChangeNotice where
  player : Option Actor
  newTeam : Allegiance
  oldTeam : Allegiance

inductive Event where
  | matchStart
  | roundStart
  | freezeEnd
  | roundEnd (notice : RoundEndNotice)
  | kill (notice : KillNotice)
  | playerHurt (notice : HurtNotice)
  | weaponFire (notice : FireNotice)
  | projectileThrow (notice : ProjectileNotice)
  | projectileDestroy (notice : ProjectileNotice)
  | flashExplode (notice : ProjectileNotice)
  | playerFlashed (notice : FlashedNotice)
  | smokeStart (notice : ProjectileNotice)
  | bombPlanted (notice : BombNotice)
  | bombDefused (notice : BombNotice)
  | bombExploded (notice : BombNotice)
  | playerConnect (player : Actor)
  | playerDisconnect (player : Actor)
  | playerTeamChange (notice : TeamChangeNotice)

namespace Event

def name : Event → String
  | .matchStart => "match_start"
  | .roundStart => "round_start"
  | .freezeEnd => "round_freeze_end"
  | .roundEnd _ => "round_end"
  | .kill _ => "kill"
  | .playerHurt _ => "player_hurt"
  | .weaponFire _ => "weapon_fire"
  | .projectileThrow _ => "grenade_projectile_throw"
  | .projectileDestroy _ => "grenade_projectile_destroy"
  | .flashExplode _ => "flash_explode"
  | .playerFlashed _ => "player_flashed"
  | .smokeStart _ => "smoke_start"
  | .bombPlanted _ => "bomb_planted"
  | .bombDefused _ => "bomb_defused"
  | .bombExploded _ => "bomb_exploded"
  | .playerConnect _ => "player_connect"
  | .playerDisconnect _ => "player_disconnect"
  | .playerTeamChange _ => "player_team_change"

def actors : Event → List Actor
  | .matchStart | .roundStart | .freezeEnd | .roundEnd _ => []
  | .kill n => n.killer.toList ++ n.victim.toList ++ n.assister.toList
  | .playerHurt n => n.attacker.toList ++ n.player.toList
  | .weaponFire n => n.shooter.toList
  | .projectileThrow n | .projectileDestroy n | .flashExplode n | .smokeStart n => n.thrower.toList
  | .playerFlashed n => n.player.toList ++ n.attacker.toList
  | .bombPlanted n | .bombDefused n | .bombExploded n => n.player.toList
  | .playerConnect a | .playerDisconnect a => [a]
  | .playerTeamChange n => n.player.toList

end Event

structure TimedEvent where
  tick : Tick
  event : Event

end Scorebook
