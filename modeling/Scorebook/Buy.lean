import Scorebook.Config
import Scorebook.Record.Gunfight
/-!
# Buys

What a player spent on a round, by the worth of the player's equipment.
-/
namespace Scorebook

inductive BuyType where
  | eco
  | forceBuy
  | fullBuy
deriving DecidableEq, Inhabited

namespace BuyType

def name : BuyType → String
  | .eco => "Eco"
  | .forceBuy => "ForceBuy"
  | .fullBuy => "FullBuy"

/-- Pistol rounds, the first of either half, count as full buys whatever was spent. -/
def classify (round : Nat) (value : Int) (c : Config) : BuyType :=
  if round = 1 || round = halftimeRound then .fullBuy
  else if value < c.ecoThreshold then .eco
  else if value < c.fullBuyThreshold then .forceBuy
  else .fullBuy

end BuyType

/-- The worth of a player's equipment in the last of the gunfights that the player fought, or else
`fallback`. -/
def roundEquipment (fights : List Gunfight) (id : PlayerId) (fallback : Int) : Int :=
  (fights.reverse.findSome? (fun g => (g.combatant? id).map (·.equipmentValue))).getD fallback

end Scorebook
