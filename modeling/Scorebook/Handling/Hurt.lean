import Scorebook.MatchState
/-!
# Damage

A hit takes at most the health that the victim was last seen with.  A victim whose health is not known, or
was last seen dead, is credited with the damage as reported.
-/
namespace Scorebook.MatchState

/-- The damage that the victim had health for. -/
def healthTaken (s : MatchState) (victim : PlayerId) (damage : Int) : Int :=
  match (s.conditions.get? victim).map (·.health) with
  | some health => if 0 < health then min damage health else damage
  | none => damage

/-- Whether the attacker is another player of the victim's team. -/
def isTeamDamage (s : MatchState) (attacker : Option PlayerId) (victim : PlayerId) : Bool :=
  match attacker with
  | some attacker => attacker != victim && s.sameTeam? attacker victim = some true
  | none => false

/-- Enters the record of a hit.  `taken` is the damage that the victim had health for. -/
def enterDamage (s : MatchState) (n : HurtNotice) (victim : Actor) (weapon : Weapon) (taken : Int)
    (tick : Tick) : MatchState :=
  let attacker := n.attacker.map (·.id)
  let damage : Damage :=
    { round := s.round.number
      tick := tick
      roundTime := s.roundTime tick
      attacker := attacker
      attackerTeam := attacker.bind s.team?
      attackerSide := attacker.bind s.side?
      attackerPosition := n.attacker.map (·.position)
      victim := victim.id
      victimTeam := s.team? victim.id
      victimSide := s.side? victim.id
      victimPosition := victim.position
      weapon := weapon
      healthDamage := n.healthDamage
      healthTaken := taken
      armorDamage := n.armorDamage
      victimHealthAfter := max victim.health 0
      hitGroup := n.hitGroup
      distance := n.attacker.map (fun a => a.position.distance victim.position)
      isTeamDamage := s.isTeamDamage attacker victim.id
      isSelfDamage := attacker = some victim.id }
  { s with damages := s.damages ++ [damage] }

def recordHurt (s : MatchState) (n : HurtNotice) (tick : Tick) : Step MatchState :=
  if !s.round.isOpen then .stop s (.noRoundInProgress "player_hurt")
  else
    match n.player, n.weapon with
    | none, _ => .stop s (.missingActor "player_hurt" "player")
    | some _, none => .stop s (.missingActor "player_hurt" "weapon")
    | some victim, some weapon =>
      if n.healthDamage < 0 || n.armorDamage < 0 then
        .stop s (.negativeDamage (n.attacker.map (·.id)) victim.id
          (min n.healthDamage n.armorDamage))
      else
        let seen := (s.observe victim).observeOptional n.attacker
        { state := seen.enterDamage n victim weapon (s.healthTaken victim.id n.healthDamage) tick }

end Scorebook.MatchState
