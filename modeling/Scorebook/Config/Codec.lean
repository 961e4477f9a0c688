import Scorebook.Config
import Scorebook.Json.Parser
/-!
# Configuration as JSON
-/
namespace Scorebook

namespace FlashMatching

def toJson : FlashMatching → Json
  | .exact => .text "Exact"
  | .nearestWithin ticks => .object [("NearestWithin", .object [("ticks", .int ticks)])]

def ofJson? (j : Json) : Option FlashMatching :=
  match j with
  | .object [("NearestWithin", body)] => do
    let [ticks] ← body.slots? ["ticks"] | none
    return .nearestWithin (← ticks.required? Json.int64?)
  | _ => j.named? .direct (fun s => if s = "Exact" then some .exact else none)

end FlashMatching

namespace ImpactConfig

def toJson (c : ImpactConfig) : Json :=
  .object
    [("base_player_value", .double c.basePlayerValue),
     ("man_count_weight", .double c.manCountWeight),
     ("equipment_weight", .double c.equipmentWeight),
     ("max_player_equipment_value", .double c.maxPlayerEquipment),
     ("strength_diff_multiplier", .double c.strengthDiffMultiplier),
     ("base_kill_impact", .double c.baseKillImpact),
     ("first_kill_multiplier", .double c.firstKillMultiplier),
     ("won_clutch_multiplier", .double c.wonClutchMultiplier),
     ("failed_clutch_multiplier", .double c.failedClutchMultiplier),
     ("standard_multiplier", .double c.standardMultiplier),
     ("assist_fraction", .double c.assistFraction),
     ("flash_assist_fraction", .double c.flashAssistFraction)]

def ofJson? (j : Json) : Option ImpactConfig := do
  let standard : ImpactConfig := {}
  let [basePlayerValue, manCountWeight, equipmentWeight, maxPlayerEquipment,
      strengthDiffMultiplier, baseKillImpact, firstKillMultiplier, wonClutchMultiplier,
      failedClutchMultiplier, standardMultiplier, assistFraction, flashAssistFraction] ←
    j.slots? ["base_player_value", "man_count_weight", "equipment_weight",
      "max_player_equipment_value", "strength_diff_multiplier", "base_kill_impact",
      "first_kill_multiplier", "won_clutch_multiplier", "failed_clutch_multiplier",
      "standard_multiplier", "assist_fraction", "flash_assist_fraction"]
    | none
  return {
    basePlayerValue := ← basePlayerValue.orElse? standard.basePlayerValue Json.double?
    manCountWeight := ← manCountWeight.orElse? standard.manCountWeight Json.double?
    equipmentWeight := ← equipmentWeight.orElse? standard.equipmentWeight Json.double?
    maxPlayerEquipment := ← maxPlayerEquipment.orElse? standard.maxPlayerEquipment Json.double?
    strengthDiffMultiplier :=
      ← strengthDiffMultiplier.orElse? standard.strengthDiffMultiplier Json.double?
    baseKillImpact := ← baseKillImpact.orElse? standard.baseKillImpact Json.double?
    firstKillMultiplier := ← firstKillMultiplier.orElse? standard.firstKillMultiplier Json.double?
    wonClutchMultiplier := ← wonClutchMultiplier.orElse? standard.wonClutchMultiplier Json.double?
    failedClutchMultiplier :=
      ← failedClutchMultiplier.orElse? standard.failedClutchMultiplier Json.double?
    standardMultiplier := ← standardMultiplier.orElse? standard.standardMultiplier Json.double?
    assistFraction := ← assistFraction.orElse? standard.assistFraction Json.double?
    flashAssistFraction :=
      ← flashAssistFraction.orElse? standard.flashAssistFraction Json.double? }

end ImpactConfig

namespace RetryPolicy

def toJson (p : RetryPolicy) : Json :=
  .object [("attempts", .nat p.attempts), ("delay_millis", .nat p.delayMillis)]

/-- A policy that is given is given whole. -/
def ofJson? (j : Json) : Option RetryPolicy := do
  let [attempts, delayMillis] ← j.slots? ["attempts", "delay_millis"] | none
  return {
    attempts := ← attempts.required? (Json.natBelow? 32)
    delayMillis := ← delayMillis.required? (Json.natBelow? 64) }

end RetryPolicy

namespace Config

def toJson (c : Config) : Json :=
  .object
    [("tick_rate", .double c.tickRate), ("flash_window_seconds", .double c.flashWindowSeconds),
     ("flash_correlation", c.flashMatching.toJson),
     ("damage_assist_threshold", .int c.damageAssistThreshold),
     ("trade_distance", .single c.tradeDistance),
     ("trade_window_seconds", .double c.tradeWindowSeconds),
     ("eco_threshold", .int c.ecoThreshold), ("full_buy_threshold", .int c.fullBuyThreshold),
     ("he_damage_window_seconds", .double c.heDamageWindowSeconds),
     ("fire_damage_window_seconds", .double c.fireDamageWindowSeconds),
     ("impact", c.impact.toJson), ("batch_size", .nat c.batchSize), ("retry", c.retry.toJson)]

/-- Every setting may be left out. -/
def ofJson? (j : Json) : Option Config := do
  let standard : Config := {}
  let [tickRate, flashWindowSeconds, flashMatching, damageAssistThreshold, tradeDistance,
      tradeWindowSeconds, ecoThreshold, fullBuyThreshold, heDamageWindowSeconds,
      fireDamageWindowSeconds, impact, batchSize, retry] ←
    j.slots? ["tick_rate", "flash_window_seconds", "flash_correlation", "damage_assist_threshold",
      "trade_distance", "trade_window_seconds", "eco_threshold", "full_buy_threshold",
      "he_damage_window_seconds", "fire_damage_window_seconds", "impact", "batch_size", "retry"]
    | none
  return {
    tickRate := ← tickRate.orElse? standard.tickRate Json.double?
    flashWindowSeconds := ← flashWindowSeconds.orElse? standard.flashWindowSeconds Json.double?
    flashMatching := ← flashMatching.orElse? standard.flashMatching FlashMatching.ofJson?
    damageAssistThreshold :=
      ← damageAssistThreshold.orElse? standard.damageAssistThreshold Json.int32?
    tradeDistance := ← tradeDistance.orElse? standard.tradeDistance Json.single?
    tradeWindowSeconds := ← tradeWindowSeconds.orElse? standard.tradeWindowSeconds Json.double?
    ecoThreshold := ← ecoThreshold.orElse? standard.ecoThreshold Json.int32?
    fullBuyThreshold := ← fullBuyThreshold.orElse? standard.fullBuyThreshold Json.int32?
    heDamageWindowSeconds :=
      ← heDamageWindowSeconds.orElse? standard.heDamageWindowSeconds Json.double?
    fireDamageWindowSeconds :=
      ← fireDamageWindowSeconds.orElse? standard.fireDamageWindowSeconds Json.double?
    impact := ← impact.orElse? standard.impact ImpactConfig.ofJson?
    batchSize := ← batchSize.orElse? standard.batchSize (Json.natBelow? 64)
    retry := ← retry.orElse? standard.retry RetryPolicy.ofJson? }

def ofText (s : String) : Except Fault Config :=
  match (Json.parse? s).bind ofJson? with
  | none => .error (.unreadableDocument "not a configuration")
  | some c => c.validated

end Config

end Scorebook
