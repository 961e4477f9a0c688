import Scorebook.Clutch
import Scorebook.Config
import Scorebook.Ratio
import Scorebook.Text
import Scorebook.Record.Gunfight
/-!
# The impact of a kill

A kill is worth more when the killer's side is weaker than the victim's, in players and in equipment, and
more again when it opens the round or decides a clutch.  The victim loses what the killer gains, and who
assisted gets a fraction.
-/
namespace Scorebook.Impact

structure Strength where
  men : Nat
  equipment : Float

def Strength.value (s : Strength) (c : ImpactConfig) : Float :=
  Ratio.ofNat s.men * c.basePlayerValue * c.manCountWeight + s.equipment * c.equipmentWeight

def maxValue (c : ImpactConfig) : Float :=
  Strength.value ⟨teamSize, Ratio.ofNat teamSize * c.maxPlayerEquipment⟩ c

/-- How much stronger the opponent is, from -1 to 1. -/
def differential (own opponent : Strength) (c : ImpactConfig) : Float :=
  if maxValue c ≤ 0 then 0
  else Ratio.clamp (-1) 1 ((opponent.value c - own.value c) / maxValue c)

def baseMultiplier (differential : Float) (c : ImpactConfig) : Float :=
  1 + differential * c.strengthDiffMultiplier

/-! ## The context of a kill -/

def scenarioText (killerAlive victimAlive : Nat) : String := s!"{killerAlive}v{victimAlive}"

def parseScenario? (scenario : String) : Option (Nat × Nat) := do
  let (left, right) ← Text.splitAt? 'v' scenario.toList
  return (← Text.natural? 32 (Text.trim left), ← Text.natural? 32 (Text.trim right))

/-- The first kill of the round comes before a clutch.  A kill while either side is down to its last player
belongs to a clutch, which counts as won only for a killer who was alone and went on to win. -/
def context (isFirstKill : Bool) (scenario : String) (killerWonClutch : Bool) : ImpactContext :=
  if isFirstKill then .firstKill
  else
    match parseScenario? scenario with
    | some (killerAlive, victimAlive) =>
      if killerAlive = 1 && killerWonClutch then .wonClutch
      else if killerAlive = 1 || victimAlive = 1 then .failedClutch
      else .standard
    | none => .standard

def contextMultiplier (context : ImpactContext) (c : ImpactConfig) : Float :=
  match context with
  | .firstKill => c.firstKillMultiplier
  | .wonClutch => c.wonClutchMultiplier
  | .failedClutch => c.failedClutchMultiplier
  | .standard => c.standardMultiplier

def ofKill (own opponent : Strength) (context : ImpactContext) (c : ImpactConfig) : Float :=
  c.baseKillImpact * baseMultiplier (differential own opponent c) c * contextMultiplier context c

/-! ## The impact of a gunfight -/

/-- Fills in the impact of a gunfight.  A team kill has none. -/
def apply (clutches : List Clutch) (c : ImpactConfig) (g : Gunfight) : Gunfight :=
  if g.isTeamKill then
    { g with
      impactContext := .standard
      killerImpact := 0
      victimImpact := 0
      assistImpact := 0
      flashAssistImpact := 0 }
  else
    let wonClutch := clutches.any (fun k => k.player = g.killer.id && k.won)
    let context := context g.isFirstKill g.scenario wonClutch
    let impact :=
      ofKill ⟨g.killerTeamAlive, Float.ofInt g.killerTeamEquipment⟩
        ⟨g.victimTeamAlive, Float.ofInt g.victimTeamEquipment⟩ context c
    { g with
      impactContext := context
      killerImpact := impact
      victimImpact := -impact
      assistImpact := if g.assister.isSome then impact * c.assistFraction else 0
      flashAssistImpact := if g.flashAssister.isSome then impact * c.flashAssistFraction else 0 }

/-- What a gunfight is worth to a player: as killer, as victim, and for assisting. -/
structure Share where
  kill : Float := 0
  death : Float := 0
  assist : Float := 0

def share (g : Gunfight) (id : PlayerId) : Share :=
  match g.role? id with
  | some .killer => { kill := g.killerImpact }
  | some .victim => { death := g.victimImpact }
  | some .assister => { assist := g.assistImpact }
  | some .flashAssister => { assist := g.flashAssistImpact }
  | none => {}

end Scorebook.Impact
