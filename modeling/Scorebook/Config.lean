import Scorebook.Fault
import Scorebook.Space
/-!
# Configuration

Every setting has a default, and a document names only those that differ.  `Config.flaw?` finds the first
setting that makes no sense.
-/
namespace Scorebook

/-- Which detonation blinded a player. -/
inductive FlashMatching where
  /-- The one of the same thrower at the same tick. -/
  | exact
  /-- The nearest one of the same thrower, at most so many ticks away. -/
  | nearestWithin (ticks : Tick)
deriving DecidableEq, Inhabited

structure ImpactConfig where
  basePlayerValue : Float := 1000
  manCountWeight : Float := 1
  equipmentWeight : Float := 0.2
  maxPlayerEquipment : Float := 8000
  strengthDiffMultiplier : Float := 0.5
  baseKillImpact : Float := 100
  firstKillMultiplier : Float := 1.5
  wonClutchMultiplier : Float := 2
  failedClutchMultiplier : Float := 1.2
  standardMultiplier : Float := 1
  assistFraction : Float := 0.35
  flashAssistFraction : Float := 0.2
deriving Inhabited

/-- How often a batch is sent, and how long to wait in between. -/
structure RetryPolicy where
  attempts : Nat := 3
  delayMillis : Nat := 2000
deriving Inhabited

structure Config where
  /-- Used when the header does not carry a tick rate. -/
  tickRate : Float := 64
  flashWindowSeconds : Float := 4.5
  flashMatching : FlashMatching := .exact
  damageAssistThreshold : Int := 41
  tradeDistance : Float32 := 1000
  tradeWindowSeconds : Float := 5
  ecoThreshold : Int := 1500
  fullBuyThreshold : Int := 3500
  heDamageWindowSeconds : Float := 1
  fireDamageWindowSeconds : Float := 8
  impact : ImpactConfig := {}
  batchSize : Nat := 100
  retry : RetryPolicy := {}
deriving Inhabited

inductive ConfigFlaw where
  | tickRate
  | correlationWindow
  | damageWindow
  | tradeDistance
  | thresholds
  | batchSize
  | attempts
  | flashWindow
deriving DecidableEq

def ConfigFlaw.reason : ConfigFlaw → String
  | .tickRate => "tick_rate must be positive"
  | .correlationWindow => "correlation windows must be positive"
  | .damageWindow => "grenade damage windows must be positive"
  | .tradeDistance => "trade_distance must be positive"
  | .thresholds => "eco_threshold must not exceed full_buy_threshold"
  | .batchSize => "batch_size must be positive"
  | .attempts => "retry.attempts must be positive"
  | .flashWindow => "flash correlation window must not be negative"

namespace Config

def flaw? (c : Config) : Option ConfigFlaw :=
  if c.tickRate ≤ 0 then some .tickRate
  else if c.flashWindowSeconds ≤ 0 || c.tradeWindowSeconds ≤ 0 then some .correlationWindow
  else if c.heDamageWindowSeconds ≤ 0 || c.fireDamageWindowSeconds ≤ 0 then some .damageWindow
  else if c.tradeDistance ≤ 0 then some .tradeDistance
  else if c.fullBuyThreshold < c.ecoThreshold then some .thresholds
  else if c.batchSize = 0 then some .batchSize
  else if c.retry.attempts = 0 then some .attempts
  else
    match c.flashMatching with
    | .exact => none
    | .nearestWithin ticks => if ticks < 0 then some .flashWindow else none

def validated (c : Config) : Except Fault Config :=
  match c.flaw? with
  | none => .ok c
  | some flaw => .error (.invalidConfig flaw.reason)

end Config

end Scorebook
