import Scorebook.Delivery.FlatRecord
import Scorebook.Report
/-!
# Batches

The records of a report are sent in batches of one collection each.  A collection without records still has
one batch, so that the receiver learns that it is complete.
-/
namespace Scorebook

/-- The collections of a report, in the order in which they are delivered. -/
inductive Collection where
  | matches
  | players
  | rounds
  | gunfights
  | damages
  | grenades
  | playerRounds
  | playerMatches
deriving DecidableEq, Inhabited

namespace Collection

def all : List Collection :=
  [.matches, .players, .rounds, .gunfights, .damages, .grenades, .playerRounds, .playerMatches]

/-- The name of a collection in a batch. -/
def label : Collection → String
  | .matches => "Match"
  | .players => "Players"
  | .rounds => "Rounds"
  | .gunfights => "Gunfights"
  | .damages => "Damages"
  | .grenades => "Grenades"
  | .playerRounds => "PlayerRounds"
  | .playerMatches => "PlayerMatches"

def ofLabel? (s : String) : Option Collection := all.find? (fun c => c.label == s)

/-- The name of a collection in a store. -/
def name : Collection → String
  | .matches => "match"
  | .players => "players"
  | .rounds => "rounds"
  | .gunfights => "gunfights"
  | .damages => "damages"
  | .grenades => "grenades"
  | .playerRounds => "player_rounds"
  | .playerMatches => "player_matches"

end Collection

def Report.records (r : Report) : Collection → List Json
  | .matches => [r.summary.toJson]
  | .players => r.players.map PlayerEntry.toJson
  | .rounds => r.marks.map RoundMark.toJson
  | .gunfights => r.gunfights.map Gunfight.toJson
  | .damages => r.damages.map Damage.toJson
  | .grenades => r.grenades.map Grenade.toJson
  | .playerRounds => r.playerRounds.map PlayerRound.toJson
  | .playerMatches => r.playerMatches.map PlayerMatch.toJson

structure Batch where
  collection : Collection
  index : Nat
  isLast : Bool
  records : List FlatRecord
deriving Inhabited

namespace Batch

/-- A list cut into pieces of `size` items, the last of which may be shorter.  A size of zero counts as
one. -/
def chunks {α : Type} (size : Nat) (items : List α) : List (List α) :=
  match items with
  | [] => []
  | a :: rest => (a :: rest.take (size - 1)) :: chunks size (rest.drop (size - 1))
termination_by items.length
decreasing_by simp only [List.length_drop, List.length_cons]; omega

/-- The number of pieces of `size` items that `count` items need. -/
def pieces (count size : Nat) : Nat := (count + size - 1) / size

def build (collection : Collection) (records : List Json) (size : Nat) : List Batch :=
  let size := max size 1
  if records.isEmpty then [{ collection, index := 0, isLast := true, records := [] }]
  else
    (chunks size records).zipIdx.map (fun e =>
      { collection
        index := e.2
        isLast := e.2 + 1 = pieces records.length size
        records := e.1.map FlatRecord.ofJson })

/-- The batches of a report, in the order in which they are delivered. -/
def ofReport (r : Report) (size : Nat) : List Batch :=
  Collection.all.flatMap (fun c => build c (r.records c) size)

def toJson (b : Batch) : Json :=
  .object
    [("collection", .text b.collection.label), ("batch_index", .nat b.index),
     ("is_last", .bool b.isLast), ("records", .listOf FlatRecord.toJson b.records)]

end Batch

end Scorebook
