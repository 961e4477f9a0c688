import Scorebook.GrenadeKind
import Scorebook.Clock
/-!
# What can go wrong

A `Fault` is a cause.  Its severity says what follows from it: a fault of severity `error` or above ends
the operation that met it, any other only makes the event be passed over.
-/
namespace Scorebook

inductive Severity where
  | info
  | warning
  | error
  | critical
deriving DecidableEq, Inhabited

namespace Severity

def name : Severity → String
  | .info => "Info"
  | .warning => "Warning"
  | .error => "Error"
  | .critical => "Critical"

def isFatal : Severity → Bool
  | .info | .warning => false
  | .error | .critical => true

end Severity

inductive Fault where
  /-- An event lacks a player or weapon that it needs. -/
  | missingActor (event role : String)
  | negativeDamage (attacker : Option PlayerId) (victim : PlayerId) (damage : Int)
  | selfKill (player : PlayerId)
  | noRoundInProgress (event : String)
  | missingThrow (entity : EntityId)
  /-- A player was blinded by a flash that never detonated. -/
  | unmatchedFlash (round : Nat) (tick : Tick) (thrower : PlayerId)
  | unknownGrenade (entity : EntityId) (weapon : Weapon)
  | unregisteredPlayer (player : PlayerId)
  | alreadyFinalized
  | invalidConfig (reason : String)
  | invalidHeader (reason : String)
  | unreadableDocument (reason : String)
  /-- A batch was refused as often as it may be sent. -/
  | deliveryFailed (collection : String) (batch attempts : Nat) (reason : String)
  | progressHalted
deriving DecidableEq

namespace Fault

def kind : Fault → String
  | .missingActor _ _ => "MissingActor"
  | .negativeDamage _ _ _ => "NegativeDamage"
  | .selfKill _ => "SelfKill"
  | .noRoundInProgress _ => "NoRoundInProgress"
  | .missingThrow _ => "MissingThrowSnapshot"
  | .unmatchedFlash _ _ _ => "UnmatchedFlash"
  | .unknownGrenade _ _ => "UnknownGrenade"
  | .unregisteredPlayer _ => "UnregisteredPlayer"
  | .alreadyFinalized => "MatchAlreadyFinalized"
  | .invalidConfig _ => "InvalidConfig"
  | .invalidHeader _ => "InvalidHeader"
  | .unreadableDocument _ => "Serialization"
  | .deliveryFailed _ _ _ _ => "DeliveryFailed"
  | .progressHalted => "ProgressHalted"

/-- A player who may be unknown, inside a sentence. -/
def optionText : Option PlayerId → String
  | none => "None"
  | some id => s!"Some({id})"

def message : Fault → String
  | .missingActor event role => s!"{event} event is missing its {role}"
  | .negativeDamage attacker victim damage =>
    s!"Negative damage {damage} from {optionText attacker} to {victim}"
  | .selfKill player => s!"Player {player} killed themselves"
  | .noRoundInProgress event => s!"{event} arrived while no round was in progress"
  | .missingThrow entity => s!"No throw snapshot stored for projectile {entity}"
  | .unmatchedFlash round tick thrower =>
    s!"No flash effect for round {round}, tick {tick}, thrower {thrower}"
  | .unknownGrenade entity weapon =>
    s!"Projectile {entity} carries non-grenade weapon {weapon.name}"
  | .unregisteredPlayer player => s!"Player {player} is not registered"
  | .alreadyFinalized => "Match has already been finalized"
  | .invalidConfig reason => s!"Invalid configuration: {reason}"
  | .invalidHeader reason => s!"Invalid demo header: {reason}"
  | .unreadableDocument reason => s!"Serialization failed: {reason}"
  | .deliveryFailed collection batch attempts reason =>
    s!"Delivering {collection} batch {batch} failed {attempts} times: {reason}"
  | .progressHalted => "Progress reporting halted after a terminal failure"

def severity : Fault → Severity
  | .missingActor _ _ | .negativeDamage _ _ _ | .selfKill _ | .missingThrow _
  | .unknownGrenade _ _ => .warning
  | .noRoundInProgress _ | .unmatchedFlash _ _ _ | .unregisteredPlayer _ => .info
  | .unreadableDocument _ | .deliveryFailed _ _ _ _ | .progressHalted => .error
  | .alreadyFinalized | .invalidConfig _ | .invalidHeader _ => .critical

def isFatal (f : Fault) : Bool := f.severity.isFatal

end Fault

/-! ## Remarks -/

/-- Something worth a line in the log. -/
inductive Remark where
  | skipped (event : String) (tick : Tick) (fault : Fault)
  /-- A blinding was forgotten at the start of a round. -/
  | discardedFlash (fault : Fault)
  /-- A flash detonated without a record of its own. -/
  | flashWithoutRecord (entity : EntityId) (fault : Fault)
deriving DecidableEq

namespace Remark

def isWarning : Remark → Bool
  | .skipped _ _ fault => fault.severity != .info
  | .discardedFlash _ => false
  | .flashWithoutRecord _ _ => true

def body : Remark → String
  | .skipped event tick fault => s!"Skipping {event} at tick {tick}: {fault.message}"
  | .discardedFlash fault => s!"Discarding flash notification: {fault.message}"
  | .flashWithoutRecord entity fault => s!"Flash {entity} has no grenade record: {fault.message}"

/-- The level and the text. -/
def line (r : Remark) : String := (if r.isWarning then "WARN " else "INFO ") ++ r.body

end Remark

end Scorebook
