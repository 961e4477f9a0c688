import Scorebook.Teams
import Scorebook.Fault
/-!
# What a round keeps in mind

Events that belong together arrive apart: a weapon fires, a projectile appears, it detonates, players are
blinded.  These tables hold what is waiting for its other half.  All of them are emptied when a round
begins.
-/
namespace Scorebook

structure Throw where
  thrower : PlayerId
  throwerName : String
  throwerTeam : Option Team
  throwerSide : Option Side
  kind : GrenadeKind
  round : Nat
  tick : Tick
  roundTime : Float
  position : Vector3
  aim : ViewAngles
  movement : String
deriving Inhabited, DecidableEq

structure Blinding where
  player : PlayerId
  isEnemy : Bool
  duration : Float
deriving Inhabited

structure FlashEffect where
  entity : EntityId
  round : Nat
  tick : Tick
  position : Vector3
  thrower : PlayerId
  affected : List Blinding := []
  /-- The place of its record among the grenades, if its throw was seen. -/
  grenade : Option Nat
deriving Inhabited

/-- A blinding whose flash has not detonated yet. -/
structure PendingBlinding where
  round : Nat
  tick : Tick
  thrower : PlayerId
  player : PlayerId
  duration : Float
deriving Inhabited

structure RoundTables where
  flashes : Table EntityId FlashEffect := ∅
  pendingBlindings : List PendingBlinding := []
  /-- Throws whose projectile has not appeared yet. -/
  pendingThrows : Table (PlayerId × GrenadeKind) Throw := ∅
  /-- Throws whose projectile is in flight. -/
  throws : Table EntityId Throw := ∅
  /-- The place of each grenade of the round among the records. -/
  records : Table EntityId Nat := ∅
  detonations : Table (PlayerId × Tick) Unit := ∅
deriving Inhabited

def PendingBlinding.fault (p : PendingBlinding) : Fault := .unmatchedFlash p.round p.tick p.thrower

def RoundTables.unmatched (t : RoundTables) : List Fault := t.pendingBlindings.map (·.fault)

end Scorebook
