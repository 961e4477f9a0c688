import Scorebook.Fault
import Scorebook.Json.Value
import Scorebook.Table
/-!
# Progress of a run

A tracker passes updates on until a fatal fault ends the run.  The fault is the last update; every later
one is refused.
-/
namespace Scorebook

inductive RunStatus where
  | started
  | processing
  | finalizing
  | completed
  | failed
deriving DecidableEq, Inhabited

namespace RunStatus

def name : RunStatus → String
  | .started => "Started"
  | .processing => "Processing"
  | .finalizing => "Finalizing"
  | .completed => "Completed"
  | .failed => "Failed"

def ofName? : String → Option RunStatus
  | "Started" => some .started
  | "Processing" => some .processing
  | "Finalizing" => some .finalizing
  | "Completed" => some .completed
  | "Failed" => some .failed
  | _ => none

end RunStatus

structure ProgressUpdate where
  status : RunStatus
  percent : Nat
  step : Nat
  totalSteps : Nat
  context : Table String String := ∅
deriving Inhabited

def ProgressUpdate.toJson (u : ProgressUpdate) : Json :=
  .object
    [("status", .text u.status.name), ("progress", .nat u.percent), ("step", .nat u.step),
     ("total_steps", .nat u.totalSteps),
     ("context", .object (u.context.mapValues (fun _ s => Json.text s)).entries)]

namespace ProgressTracker

def capped (u : ProgressUpdate) : ProgressUpdate := { u with percent := min u.percent 100 }

def failure (f : Fault) : ProgressUpdate where
  status := .failed
  percent := 0
  step := 0
  totalSteps := 0
  context := Table.ofList [("error", f.message), ("severity", f.severity.name)]

end ProgressTracker

structure ProgressTracker where
  halted : Bool := false
deriving Inhabited

namespace ProgressTracker

/-- What is reported for an update, unless the tracker is halted. -/
def update (t : ProgressTracker) (u : ProgressUpdate) : Except Fault ProgressUpdate :=
  if t.halted then .error .progressHalted else .ok (capped u)

/-- The tracker after a fault, and what is reported for it.  Only the first fatal fault is. -/
def fail (t : ProgressTracker) (f : Fault) : ProgressTracker × Option ProgressUpdate :=
  if f.isFatal && !t.halted then ({ halted := true }, some (failure f)) else (t, none)

end ProgressTracker

end Scorebook
