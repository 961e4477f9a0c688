import Scorebook.MatchState
/-!
# Throws and detonations

A grenade is recorded as it was thrown.  The throw is captured when the weapon fires, or else when the
projectile appears; it is bound to the projectile, and becomes a record when the projectile detonates.
-/
namespace Scorebook.MatchState

/-! ## Throws -/

def captureThrow (s : MatchState) (a : Actor) (kind : GrenadeKind) (tick : Tick) : Throw where
  thrower := a.id
  throwerName := a.name
  throwerTeam := s.team? a.id
  throwerSide := s.actorSide? a
  kind := kind
  round := s.round.number
  tick := tick
  roundTime := s.roundTime tick
  position := a.position
  aim := a.view
  movement := (s.sightings.classify a tick s.tickRate).label

/-- A grenade left the hand; its projectile has yet to appear. -/
def recordGrenadeFire (s : MatchState) (a : Actor) (kind : GrenadeKind) (tick : Tick) : MatchState :=
  { s with
    tables := { s.tables with
      pendingThrows := s.tables.pendingThrows.insert (a.id, kind) (s.captureThrow a kind tick) } }

def countShot (s : MatchState) (id : PlayerId) : MatchState :=
  { s with shotsFired := s.shotsFired.update (s.round.number, id) (fun n => n.getD 0 + 1) }

/-- What firing a weapon means: a throw for a grenade, a shot for a firearm. -/
def fire (s : MatchState) (shooter : Actor) (weapon : Weapon) (tick : Tick) : MatchState :=
  match weapon.grenadeKind? with
  | some kind => s.recordGrenadeFire shooter kind tick
  | none => if weapon.isFirearm then s.countShot shooter.id else s

def recordFire (s : MatchState) (n : FireNotice) (tick : Tick) : Step MatchState :=
  if !s.round.isOpen then .stop s (.noRoundInProgress "weapon_fire")
  else
    match n.shooter, n.weapon with
    | none, _ => .stop s (.missingActor "weapon_fire" "shooter")
    | some _, none => .stop s (.missingActor "weapon_fire" "weapon")
    | some shooter, some weapon => { state := (s.fire shooter weapon tick).observe shooter }

/-- Binds a projectile to the throw that waits for it, or else to a throw captured now. -/
def bindThrow (s : MatchState) (entity : EntityId) (a : Actor) (kind : GrenadeKind) (tick : Tick) :
    MatchState :=
  let thrown := (s.tables.pendingThrows.get? (a.id, kind)).getD (s.captureThrow a kind tick)
  { s with
    tables := { s.tables with
      pendingThrows := s.tables.pendingThrows.erase (a.id, kind)
      throws := s.tables.throws.insert entity thrown } }

def recordProjectileThrow (s : MatchState) (n : ProjectileNotice) (tick : Tick) : Step MatchState :=
  if !s.round.isOpen then .stop s (.noRoundInProgress "grenade_projectile_throw")
  else
    match n.thrower, n.weapon.grenadeKind? with
    | none, _ => .stop s (.missingActor "grenade_projectile_throw" "thrower")
    | some _, none => .stop s (.unknownGrenade n.entity n.weapon)
    | some thrower, some kind => { state := s.bindThrow n.entity thrower kind tick }

/-! ## Detonations -/

inductive Detonation where
  /-- It is the grenade at this place of the records. -/
  | recorded (place : Nat)
  /-- The thrower had a grenade detonate at that tick already. -/
  | repeated
  /-- Its throw was not seen. -/
  | unseen
deriving DecidableEq

/-- Who threw the projectile, by the event and else by the throw. -/
def throwerOf? (s : MatchState) (n : ProjectileNotice) : Option PlayerId :=
  n.thrower.map (·.id) <|> (s.tables.throws.get? n.entity).map (·.thrower)

def grenadeOf (thrown : Throw) (n : ProjectileNotice) (tick : Tick) : Grenade where
  round := thrown.round
  entity := n.entity
  thrower := thrown.thrower
  throwerName := thrown.throwerName
  throwerTeam := thrown.throwerTeam
  throwerSide := thrown.throwerSide
  kind := thrown.kind
  throwTick := thrown.tick
  roundTime := thrown.roundTime
  throwPosition := thrown.position
  aim := thrown.aim
  movement := thrown.movement
  detonationTick := tick
  detonationPosition := n.position
  throwDistance := thrown.position.distance n.position

/-- Enters the record of a throw that is in flight. -/
def enterGrenade (s : MatchState) (n : ProjectileNotice) (tick : Tick) : MatchState × Detonation :=
  match s.tables.throws.get? n.entity with
  | none => (s, .unseen)
  | some thrown =>
    ({ s with
        grenades := s.grenades ++ [grenadeOf thrown n tick]
        tables := { s.tables with
          throws := s.tables.throws.erase n.entity
          records := s.tables.records.insert n.entity s.grenades.length } },
      .recorded s.grenades.length)

def noteDetonation (s : MatchState) (thrower : PlayerId) (tick : Tick) : MatchState :=
  { s with
    tables := { s.tables with detonations := s.tables.detonations.insert (thrower, tick) () } }

/-- A grenade detonates.  A second detonation of one thrower at one tick is the same one reported again. -/
def detonate (s : MatchState) (n : ProjectileNotice) (tick : Tick) : MatchState × Detonation :=
  match s.throwerOf? n with
  | none => s.enterGrenade n tick
  | some thrower =>
    if s.tables.detonations.contains (thrower, tick) then (s, .repeated)
    else (s.noteDetonation thrower tick).enterGrenade n tick

/-- Handles a smoke that starts or a projectile that is gone.  Flashes are recorded when they explode. -/
def recordDetonation (s : MatchState) (n : ProjectileNotice) (tick : Tick) : Step MatchState :=
  if !s.round.isOpen then .stop s (.noRoundInProgress "grenade_detonation")
  else
    match n.weapon.grenadeKind? with
    | none => .stop s (.unknownGrenade n.entity n.weapon)
    | some kind =>
      if kind = .flashbang || s.tables.records.contains n.entity then { state := s }
      else
        match s.detonate n tick with
        | (s, .unseen) => .stop s (.missingThrow n.entity)
        | (s, _) => { state := s }

end Scorebook.MatchState
