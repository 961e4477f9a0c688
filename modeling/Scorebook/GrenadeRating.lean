import Scorebook.MatchState
import Scorebook.Selection
/-!
# Damage and rating of grenades

Damage is not reported with the grenade that dealt it.  It is credited to the latest detonation of the same
thrower that could have dealt it in time; then every grenade of the round is rated from 0 to 100.
-/
namespace Scorebook

namespace Grenade

/-! ## Rating -/

/-- Enemies blinded count for a flash, teammates blinded against it. -/
def flashScore (g : Grenade) : Float :=
  let score :=
    Ratio.ofNat g.enemiesFlashed * 20 + g.enemyFlashDuration * 10 - Ratio.ofNat g.teammatesFlashed * 15 -
      g.teamFlashDuration * 5
  let score := if g.leadsToKill then score + 30 else score
  let score := if g.leadsToDeath then score - 30 else score
  Ratio.clampPercent score

def fullRatingDamage : Float := 150

def explosiveScore (g : Grenade) : Float :=
  Ratio.ofReference (Float.ofInt g.netEnemyDamage) fullRatingDamage

/-- Smokes and decoys are not rated. -/
def utilityScore (_ : Grenade) : Float := 0

def score (g : Grenade) : Float :=
  match g.kind.category with
  | .flash => g.flashScore
  | .explosive => g.explosiveScore
  | .utility => g.utilityScore

/-- The effectiveness of a player's grenades in a round, at most 100: points for every throw, points for
not dying with grenades in hand, and the mean rating. -/
def effectiveness (thrown : Nat) (valueLost : Int) (ratings : List Float) : Float :=
  if thrown = 0 && valueLost ≤ 0 then 0
  else
    let lost := Ratio.atMost 1000 (Float.ofInt (max valueLost 0))
    Ratio.atMost 100
      (10 * Ratio.ofNat thrown + 20 * (1 - lost / 1000) + Ratio.mean ratings)

/-! ## Crediting damage -/

def damageTicks (k : GrenadeKind) (c : Config) (tickRate : Float) : Tick :=
  Clock.ticks (if k = .highExplosive then c.heDamageWindowSeconds else c.fireDamageWindowSeconds)
    tickRate

def canHaveDealt (c : Config) (tickRate : Float) (d : Damage) (g : Grenade) : Bool :=
  d.attacker = some g.thrower && g.kind.dealsDamageAs d.weapon && g.detonationTick ≤ d.tick &&
    d.tick - g.detonationTick ≤ damageTicks g.kind c tickRate

end Grenade

structure Credit where
  enemyDamage : Int := 0
  teamDamage : Int := 0
  enemies : Table PlayerId Unit := ∅
  teammates : Table PlayerId Unit := ∅
deriving Inhabited

namespace Credit

def add (c : Credit) (d : Damage) : Credit :=
  if d.isEnemyDamage then
    { c with
      enemyDamage := c.enemyDamage + d.healthTaken, enemies := c.enemies.insert d.victim () }
  else if d.isTeamDamage then
    { c with
      teamDamage := c.teamDamage + d.healthTaken, teammates := c.teammates.insert d.victim () }
  else { c with teamDamage := c.teamDamage + d.healthTaken }

end Credit

namespace MatchState

/-- The place among the grenades of the one that dealt the damage: of the grenades of the round that can
have dealt it the one that detonated last, and of several at that tick the last in the list. -/
def damageSource? (s : MatchState) (round : Nat) (c : Config) (d : Damage) : Option Nat :=
  (lastGreatest? (fun e => e.1.detonationTick) (s.grenades.zipIdx.filter (fun e =>
    e.1.round = round && e.1.canHaveDealt c s.tickRate d))).map (·.2)

/-- The credit of each grenade, by its place, for the damage of a round. -/
def credits (s : MatchState) (round : Nat) (c : Config) : Table Nat Credit :=
  (s.damagesIn round).foldl
    (fun t d =>
      match s.damageSource? round c d with
      | some i => t.update i (fun credit => (credit.getD {}).add d)
      | none => t)
    ∅

/-- A grenade with its credit and the rating that follows from it. -/
def withCredit (g : Grenade) (credit : Credit) : Grenade :=
  let g :=
    { g with
      enemyDamage := credit.enemyDamage
      teamDamage := credit.teamDamage
      enemiesDamaged := credit.enemies.size
      teammatesDamaged := credit.teammates.size }
  { g with rating := g.score }

/-- Finds the grenade behind every damage of a round, and rates the grenades of the round. -/
def creditGrenades (s : MatchState) (round : Nat) (c : Config) : MatchState :=
  let credits := s.credits round c
  { s with
    damages := s.damages.map (fun d =>
      if d.round = round then
        { d with
          grenade := (s.damageSource? round c d).bind (fun i => (s.grenades[i]?).map (·.entity)) }
      else d)
    grenades := s.grenades.zipIdx.map (fun e =>
      if e.1.round = round then withCredit e.1 ((credits.get? e.2).getD {}) else e.1) }

end MatchState

end Scorebook
