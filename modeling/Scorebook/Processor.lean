import Scorebook.Closing.Match
import Scorebook.Closing.Round
import Scorebook.Decimal.Text
import Scorebook.Handling.Attendance
import Scorebook.Handling.Hurt
import Scorebook.Handling.Mark
import Scorebook.Progress
import Scorebook.Report
/-!
# Processing a stream

A processor takes the events of one match in order.  An event whose handling meets a fault that is not fatal
is passed over with a remark; a fatal fault is handed to the caller.  A match is finalized once, and takes
nothing after that.
-/
namespace Scorebook

structure Processor where
  config : Config
  state : MatchState
  tracker : Option ProgressTracker := none

structure Outcome where
  processor : Processor
  fault : Option Fault := none
  remarks : List Remark := []
  updates : List ProgressUpdate := []

structure Finish where
  processor : Processor
  result : Except Fault Report
  updates : List ProgressUpdate := []

structure Run where
  result : Except Fault Report
  remarks : List Remark := []
  updates : List ProgressUpdate := []

namespace Processor

/-- The tick rate of a header, if it has one that makes no sense. -/
def badTickRate? (h : Header) : Option Float :=
  h.tickRate.filter (fun r => !r.isFinite || r ≤ 0)

def new (header : Header) (config : Config) : Except Fault Processor := do
  let config ← config.validated
  match badTickRate? header with
  | some rate =>
    .error (.invalidHeader ("tick rate " ++ Decimal.plainDouble rate ++ " is not positive"))
  | none => .ok { config, state := MatchState.new header config }

/-- The processor with somebody who listens to its progress. -/
def withProgress (p : Processor) : Processor := { p with tracker := some {} }

/-- The updates that are reported, none when nobody listens. -/
def report (p : Processor) (status : RunStatus) (percent : Nat) (context : Table String String) :
    Except Fault (List ProgressUpdate) :=
  match p.tracker with
  | none => .ok []
  | some tracker =>
    let step := p.state.round.number
    (tracker.update
      { status, percent, step, totalSteps := max step regulationRounds, context }).map ([·])

/-! ## Rounds -/

/-- Starts a round.  The round before is closed first, and a swap that is due is applied. -/
def startRound (s : MatchState) (c : Config) (tick : Tick) : Step MatchState :=
  let s := if s.round.isOpen then s.closeRound c else s
  let begun := { s with teams := s.teams.applySwap }.beginRound tick
  { begun with state := begun.state.addMark (begun.state.mark .start tick) }

/-- What is said of the progress when a round ends. -/
def roundContext (s : MatchState) : Table String String :=
  Table.ofList
    [("round", toString s.round.number),
     ("score", toString (s.teams.wins .a) ++ "-" ++ toString (s.teams.wins .b))]

/-- The percentage of a match that a round completes.  Only the end of the match is all of it. -/
def roundPercent (round : Nat) : Nat := min (round * 100 / max round regulationRounds) 99

/-- Ends a live round. -/
def endRound (p : Processor) (n : RoundEndNotice) (tick : Tick) : Outcome :=
  if p.state.round.phase != .live then
    { processor := p, fault := some (.noRoundInProgress "round_end") }
  else
    let p := { p with state := p.state.decideRound n tick }
    match p.report .processing (roundPercent p.state.round.number) (roundContext p.state) with
    | .ok updates => { processor := p, updates }
    | .error fault => { processor := p, fault := some fault }

/-! ## Events -/

/-- The handling of an event that concerns the state alone. -/
def handle (c : Config) (s : MatchState) (tick : Tick) : Event → Step MatchState
  | .matchStart => { state := s.restart }
  | .roundStart => startRound s c tick
  | .freezeEnd => { state := s.recordFreezeEnd tick }
  | .roundEnd _ => { state := s }
  | .kill n => s.recordKill c n tick
  | .playerHurt n => s.recordHurt n tick
  | .weaponFire n => s.recordFire n tick
  | .projectileThrow n => s.recordProjectileThrow n tick
  | .projectileDestroy n | .smokeStart n => s.recordDetonation n tick
  | .flashExplode n => s.recordFlashExplode c n tick
  | .playerFlashed n => s.recordFlashed c n tick
  | .bombPlanted n => s.recordBomb .bombPlanted n tick
  | .bombDefused n => s.recordBomb .bombDefused n tick
  | .bombExploded n => s.recordBomb .bombExploded n tick
  | .playerConnect a => { state := s.observe a }
  | .playerDisconnect a => s.recordDisconnect a tick
  | .playerTeamChange n => s.recordTeamChange n

def dispatch (p : Processor) (e : TimedEvent) : Outcome :=
  match e.event with
  | .roundEnd n => p.endRound n e.tick
  | event =>
    let step := handle p.config p.state e.tick event
    { processor := { p with state := step.state }, fault := step.fault, remarks := step.remarks }

/-- Remembers where the players of an event were. -/
def sightActors (s : MatchState) (e : TimedEvent) : MatchState :=
  { s with sightings := e.event.actors.foldl (fun t a => t.observe a e.tick) s.sightings }

/-- What follows from a fault: a remark, or the end of the run. -/
def conclude (o : Outcome) (e : TimedEvent) : Outcome :=
  match o.fault with
  | none => o
  | some fault =>
    if !fault.isFatal then
      { o with fault := none, remarks := o.remarks ++ [.skipped e.event.name e.tick fault] }
    else
      match o.processor.tracker with
      | none => o
      | some tracker =>
        let (tracker, update) := tracker.fail fault
        { o with
          processor := { o.processor with tracker := some tracker }
          updates := o.updates ++ update.toList }

def processEvent (p : Processor) (e : TimedEvent) : Outcome :=
  if p.state.finalized then { processor := p, fault := some .alreadyFinalized }
  else
    let p := { p with state := { p.state with currentTick := max p.state.currentTick e.tick } }
    let o := p.dispatch e
    conclude { o with processor := { o.processor with state := sightActors o.processor.state e } } e

/-! ## The end of a match -/

/-- Closes the last round and the match. -/
def closeState (s : MatchState) (c : Config) : MatchState :=
  let s := if s.round.isOpen then s.closeRound c else s
  { s.closeMatch with finalized := true }

def matchContext (r : Report) : Table String String :=
  Table.ofList
    [("rounds", toString r.summary.roundsPlayed), ("gunfights", toString r.gunfights.length)]

def finalize (p : Processor) : Finish :=
  if p.state.finalized then { processor := p, result := .error .alreadyFinalized }
  else
    match p.report .finalizing 99 ∅ with
    | .error fault => { processor := p, result := .error fault }
    | .ok before =>
      let p := { p with state := closeState p.state p.config }
      let report := Report.ofState p.state
      match p.report .completed 100 (matchContext report) with
      | .error fault => { processor := p, result := .error fault, updates := before }
      | .ok after => { processor := p, result := .ok report, updates := before ++ after }

/-! ## Whole runs -/

/-- Processes events until one meets a fatal fault. -/
def processAll (p : Processor) : List TimedEvent → Outcome
  | [] => { processor := p }
  | e :: rest =>
    let o := p.processEvent e
    if o.fault.isSome then o
    else
      let later := processAll o.processor rest
      { later with
        remarks := o.remarks ++ later.remarks, updates := o.updates ++ later.updates }

/-- Processes a stream and finalizes the match. -/
def run (p : Processor) (events : List TimedEvent) : Run :=
  match p.report .started 0 ∅ with
  | .error fault => { result := .error fault }
  | .ok started =>
    let o := p.processAll events
    match o.fault with
    | some fault =>
      { result := .error fault, remarks := o.remarks, updates := started ++ o.updates }
    | none =>
      let f := o.processor.finalize
      { result := f.result, remarks := o.remarks, updates := started ++ o.updates ++ f.updates }

end Processor

end Scorebook
