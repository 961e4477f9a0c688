import Scorebook.Round
import Scorebook.Selection
import Scorebook.Record.Gunfight
/-!
# Trades

A death is traded when a teammate who was near kills the killer in time.  Near are the teammates who had
not left the round and whose last known position was within reach of the dead.
-/
namespace Scorebook

namespace Trade

/-- How near a teammate has to be, and how many ticks there are to answer. -/
structure Window where
  distance : Float32
  ticks : Tick

def positionNear? (fights : List Gunfight) (id : PlayerId) (tick : Tick) : Option Vector3 :=
  (nearestTo? tick (·.1) (fights.filterMap (fun g =>
    (g.combatant? id).map (fun c => (g.tick, c.position))))).map (·.2)

/-- The tick at which a player first left the round. -/
def firstExit? (exits : List Exit) (id : PlayerId) : Option Tick :=
  ((exits.filter (·.player = id)).map (·.tick)).min?

/-- A death that could be traded, the teammates who could, and the one who did. -/
structure Chance where
  victim : PlayerId
  near : List PlayerId
  trader : Option PlayerId
deriving Inhabited

/-- The side of the victim in the round. -/
def victimSide? (roster : Table PlayerId Side) (death : Gunfight) : Option Side :=
  roster.get? death.victim.id <|> death.victim.side

/-- The teammates of the victim who were near and still in the round. -/
def near (roster : Table PlayerId Side) (fights : List Gunfight) (exits : List Exit) (window : Window)
    (death : Gunfight) (side : Side) : List PlayerId :=
  ((roster.entries.filter (fun e => e.2 = side && e.1 != death.victim.id)).map (·.1)).filter (fun id =>
    (firstExit? exits id).all (fun left => death.tick < left) &&
      (positionNear? fights id death.tick).any (fun p =>
        p.distance death.victim.position ≤ window.distance))

/-- The teammate who killed the killer of gunfight `i` in time. -/
def trader? (fights : List Gunfight) (window : Window) (near : List PlayerId) (death : Gunfight)
    (i : Nat) : Option PlayerId :=
  (findAfter? (fun later =>
    if later.tick - death.tick ≤ window.ticks && later.victim.id = death.killer.id &&
        !later.isTeamKill && near.contains later.killer.id then
      some later.killer.id
    else none) fights i).map (·.2)

/-- The chance to trade the death in gunfight `i`, if an enemy killed somebody with a side. -/
def chance? (roster : Table PlayerId Side) (fights : List Gunfight) (exits : List Exit)
    (window : Window) (death : Gunfight) (i : Nat) : Option Chance :=
  if death.isTeamKill then none
  else
    (victimSide? roster death).map (fun side =>
      let near := near roster fights exits window death side
      { victim := death.victim.id, near, trader := trader? fights window near death i })

def tally (ids : List PlayerId) : Table PlayerId Nat :=
  ids.foldl (fun t id => t.update id (fun n => n.getD 0 + 1)) ∅

structure Summary where
  kills : Table PlayerId Nat := ∅
  opportunities : Table PlayerId Nat := ∅
  tradedDeaths : Table PlayerId Unit := ∅
deriving Inhabited

/-- The chances of a round, one for each death by an enemy, in the order of the gunfights. -/
def chances (roster : Table PlayerId Side) (fights : List Gunfight) (exits : List Exit)
    (window : Window) : List Chance :=
  fights.zipIdx.filterMap (fun e => chance? roster fights exits window e.1 e.2)

/-- The trades of a round.  The gunfights have to be in the order of their ticks. -/
def detect (roster : Table PlayerId Side) (fights : List Gunfight) (exits : List Exit)
    (window : Window) : Summary :=
  let chances := chances roster fights exits window
  { kills := tally (chances.filterMap (·.trader))
    opportunities := tally (chances.flatMap (·.near))
    tradedDeaths :=
      Table.ofList ((chances.filter (·.trader.isSome)).map (fun c => (c.victim, ()))) }

end Trade

end Scorebook
