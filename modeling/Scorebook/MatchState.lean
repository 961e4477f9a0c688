import Scorebook.Movement
import Scorebook.Ratio
import Scorebook.Round
import Scorebook.RoundTables
import Scorebook.Config
import Scorebook.Event
import Scorebook.Record.RoundMark
import Scorebook.Record.Gunfight
import Scorebook.Record.Damage
import Scorebook.Record.Grenade
import Scorebook.Record.PlayerRound
import Scorebook.Record.PlayerMatch
/-!
# A match in progress

`MatchState` holds everything known of a match so far.  The operations of this module are those that
several handlers share: seeing a player, taking a player out of the round, and starting a round.
-/
namespace Scorebook

/-- A registered player with the running tallies of the match. -/
structure Player where
  id : PlayerId
  name : String
  connected : Bool := true
  kills : Nat := 0
  deaths : Nat := 0
  headshots : Nat := 0
  wallbangs : Nat := 0
deriving Inhabited

/-- A player after being seen: registered, connected, and called by the latest name that is not empty. -/
def Player.seen (a : Actor) (p : Option Player) : Player :=
  let p := p.getD { id := a.id, name := a.name }
  { p with connected := true, name := if a.name.isEmpty then p.name else a.name }

structure Condition where
  allegiance : Allegiance := .unassigned
  health : Int := 0
  armor : Int := 0
  activeWeapon : Option Weapon := none
  isFlashed : Bool := false
  isAlive : Bool := false
  equipmentValue : Int := 0
  grenadeValue : Int := 0
  position : Vector3 := .zero
  kills : Nat := 0
  deaths : Nat := 0
  headshots : Nat := 0
  wallbangs : Nat := 0
deriving Inhabited

namespace Condition

/-- Alive and in full health at the start of a round, with what was last seen of the equipment. -/
def atRoundStart (c : Condition) : Condition where
  allegiance := c.allegiance
  equipmentValue := c.equipmentValue
  grenadeValue := c.grenadeValue
  position := c.position
  health := 100
  isAlive := true

/-- What an event shows of a player.  Whether the player lives is not taken from it. -/
def refresh (c : Condition) (a : Actor) : Condition :=
  { c with
    allegiance := a.allegiance
    health := a.health
    armor := a.armor
    activeWeapon := a.activeWeapon
    isFlashed := a.isFlashed
    equipmentValue := a.equipmentValue
    grenadeValue := a.grenadeValue
    position := a.position }

end Condition

structure MatchState where
  header : Header
  tickRate : Float
  currentTick : Tick := 0
  round : Round := {}
  players : Table PlayerId Player := ∅
  conditions : Table PlayerId Condition := ∅
  teams : Teams := {}
  sightings : Sightings := ∅
  marks : List RoundMark := []
  gunfights : List Gunfight := []
  damages : List Damage := []
  grenades : List Grenade := []
  playerRounds : List PlayerRound := []
  playerMatches : List PlayerMatch := []
  shotsFired : Table (Nat × PlayerId) Nat := ∅
  tables : RoundTables := {}
  finalized : Bool := false
  /-- A grenade was looked up at a place that no record stands at. -/
  strayed : Bool := false
deriving Inhabited

/-- What handling an event leaves: the state, the fault if the event was passed over, and remarks. -/
structure Step (σ : Type) where
  state : σ
  fault : Option Fault := none
  remarks : List Remark := []

def Step.stop {σ : Type} (state : σ) (fault : Fault) : Step σ := { state, fault := some fault }

namespace MatchState

/-- A match before its first event.  The tick rate of the header counts if it is positive. -/
def new (header : Header) (config : Config) : MatchState :=
  { header, tickRate := (header.tickRate.filter (fun r => 0 < r)).getD config.tickRate }

/-! ## Looking up -/

def team? (s : MatchState) (id : PlayerId) : Option Team := s.teams.label? id

/-- The side of a player: that of the player's team, or where the stream last showed a player without
one. -/
def side? (s : MatchState) (id : PlayerId) : Option Side :=
  match s.team? id with
  | some team => some (s.teams.sideOf team)
  | none => (s.conditions.get? id).bind (fun c => c.allegiance.side?)

/-- The side of an actor, by the state and else by the event. -/
def actorSide? (s : MatchState) (a : Actor) : Option Side := s.side? a.id <|> a.allegiance.side?

/-- Whether two players play together, as far as that is known: by their teams if both have one, else by
their sides. -/
def sameTeam? (s : MatchState) (a b : PlayerId) : Option Bool :=
  match s.team? a, s.team? b with
  | some ta, some tb => some (ta = tb)
  | _, _ =>
    match s.side? a, s.side? b with
    | some sa, some sb => some (sa = sb)
    | _, _ => none

/-- The seconds of the round at a tick, none before its reference tick. -/
def roundTime (s : MatchState) (tick : Tick) : Float :=
  Ratio.atLeastZero (Clock.seconds (tick - s.round.referenceTick) s.tickRate)

def livingOn (s : MatchState) (side : Side) : List Condition :=
  ((s.round.roster.keys.filter (fun id => s.side? id = some side)).filterMap s.conditions.get?).filter
    (·.isAlive)

/-- How many players live on a side, and the worth of what they carry. -/
def aliveOn (s : MatchState) (side : Side) : Nat × Int :=
  ((s.livingOn side).length, total (·.equipmentValue) (s.livingOn side))

def gunfightsIn (s : MatchState) (round : Nat) : List Gunfight :=
  s.gunfights.filter (·.round = round)

def damagesIn (s : MatchState) (round : Nat) : List Damage := s.damages.filter (·.round = round)

def grenadesIn (s : MatchState) (round : Nat) : List Grenade := s.grenades.filter (·.round = round)

/-! ## Seeing a player -/

/-- The condition of a player who was not seen before.  A newcomer to a live round lives if the event says
so. -/
def newcomer (s : MatchState) (a : Actor) : Condition :=
  { isAlive := s.round.phase != .live || a.isAlive }

/-- Enters a player on the roster of an open round, on the side of the player's team. -/
def enroll (s : MatchState) (id : PlayerId) (side : Side) : MatchState :=
  if s.round.isOpen then
    let side := ((s.team? id).map s.teams.sideOf).getD side
    { s with round := { s.round with roster := s.round.roster.insertNew id side } }
  else s

/-- Sees a player in an event.  A player on a side is registered, labelled, refreshed and entered on the
roster; of a spectator only the allegiance is noted, and only if the player is known. -/
def observe (s : MatchState) (a : Actor) : MatchState :=
  match a.allegiance.side? with
  | none =>
    { s with conditions := s.conditions.modify a.id (fun c => { c with allegiance := a.allegiance }) }
  | some side =>
    let condition := ((s.conditions.get? a.id).getD (s.newcomer a)).refresh a
    enroll
      { s with
        players := s.players.update a.id (Player.seen a)
        teams := s.teams.assign a.id side
        conditions := s.conditions.insert a.id condition }
      a.id side

def observeOptional (s : MatchState) (a : Option Actor) : MatchState :=
  match a with
  | none => s
  | some a => s.observe a

/-! ## Leaving a round -/

/-- Takes a player out of the living players.  Every cause but a disconnect is a death and is tallied. -/
def recordExit (s : MatchState) (id : PlayerId) (cause : ExitCause) (tick : Tick) : MatchState :=
  let died := if cause.isDeath then 1 else 0
  let exit : Exit :=
    { tick, roundTime := s.roundTime tick, player := id
      side := s.round.roster.get? id <|> s.side? id, cause }
  { s with
    conditions := s.conditions.modify id (fun c =>
      { c with isAlive := false, deaths := c.deaths + died })
    players := s.players.modify id (fun p => { p with deaths := p.deaths + died })
    round := { s.round with exits := s.round.exits ++ [exit] } }

/-! ## Starting a round -/

/-- The roster at the start of a round: everybody who is connected and has a side. -/
def startingRoster (s : MatchState) : Table PlayerId Side :=
  Table.ofList (s.players.entries.filterMap (fun e =>
    if e.2.connected then (s.side? e.1).map (fun side => (e.1, side)) else none))

/-- Starts the next round, and with it forgets what the last one kept in mind. -/
def beginRound (s : MatchState) (tick : Tick) : Step MatchState :=
  let s' : MatchState :=
    { s with
      round := { number := s.round.number + 1, startTick := tick, phase := .live }
      conditions := s.conditions.mapValues (fun _ c => c.atRoundStart)
      sightings := ∅
      tables := {} }
  { state := { s' with round := { s'.round with roster := s'.startingRoster } }
    remarks := s.tables.unmatched.map Remark.discardedFlash }

end MatchState

end Scorebook
