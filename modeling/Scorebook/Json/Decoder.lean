import Scorebook.Json.Value
/-!
# From JSON to data

A structure may be written as an object, whose unknown keys are passed over, or as a list of its fields in
order.  `Json.slots?` finds what stands for each field, and the functions on `Slot` say what an absent
field means.
-/
namespace Scorebook.Json

/-! ## Scalars -/

def bool? : Json → Option Bool
  | .bool b => some b
  | _ => none

def text? : Json → Option String
  | .text s => some s
  | _ => none

/-- An integer between two bounds.  A number with a point is no integer. -/
def intIn? (low high : Int) : Json → Option Int
  | .int n => if low ≤ n && n ≤ high then some n else none
  | _ => none

def natBelow? (bits : Nat) (v : Json) : Option Nat :=
  (v.intIn? 0 (Nat.pow 2 bits - 1 : Nat)).map Int.toNat

def int32? (v : Json) : Option Int := v.intIn? (-2147483648) 2147483647

def int64? (v : Json) : Option Int := v.intIn? (-9223372036854775808) 9223372036854775807

def double? : Json → Option Float
  | .int n => some (Float.ofInt n)
  | .double x => if x.isFinite then some x else none
  | .single x => if x.isFinite then some x.toFloat else none
  | _ => none

/-- A single.  A double beyond every single reads as infinity. -/
def single? : Json → Option Float32
  | .int n => some (Float32.ofInt n)
  | .double x => if x.isFinite then some x.toFloat32 else none
  | .single x => if x.isFinite then some x else none
  | _ => none

/-- How a value reaches its reader. -/
inductive Route where
  /-- Out of the document, as the reader asks for it. -/
  | direct
  /-- Held back with all that stands around it, until the kind of the whole was known. -/
  | held

/-- Whether a value says that a name comes with nothing: `null`, and of a held value the empty object too. -/
def Route.isNothing : Route → Json → Bool
  | _, .null => true
  | .held, .object [] => true
  | _, _ => false

/-- One of some named values: its name, or an object with that name as its only key and nothing under it. -/
def named? {α : Type} (route : Route) (ofName? : String → Option α) : Json → Option α
  | .text s => ofName? s
  | .object [(s, v)] => if route.isNothing v then ofName? s else none
  | _ => none

def listOf? {α : Type} (read : Json → Option α) : Json → Option (List α)
  | .list items => items.mapM read
  | _ => none

/-- A value that may be `null`. -/
def nullable? {α : Type} (read : Json → Option α) : Json → Option (Option α)
  | .null => some none
  | v => (read v).map some

/-! ## Structures -/

/-- What stands for a field of a structure. -/
inductive Slot where
  | given (v : Json)
  /-- The object has no key of that name. -/
  | unnamed
  /-- The list of fields ends before it. -/
  | cut

namespace Slot

def required? {α : Type} (read : Json → Option α) : Slot → Option α
  | .given v => read v
  | _ => none

/-- A field that may be `null` and may be left out of an object. -/
def optional? {α : Type} (read : Json → Option α) : Slot → Option (Option α)
  | .given v => v.nullable? read
  | .unnamed => some none
  | .cut => none

def orElse? {α : Type} (default : α) (read : Json → Option α) : Slot → Option α
  | .given v => read v
  | _ => some default

end Slot

/-- The slot of the field `name`, unless the object has it more than once. -/
def slot? (fields : List (String × Json)) (name : String) : Option Slot :=
  match fields.filter (fun f => f.1 == name) with
  | [] => some .unnamed
  | [(_, v)] => some (.given v)
  | _ => none

def slots? (names : List String) : Json → Option (List Slot)
  | .object fields => names.mapM (slot? fields)
  | .list items =>
    if items.length ≤ names.length then
      some (items.map Slot.given ++ List.replicate (names.length - items.length) Slot.cut)
    else none
  | _ => none

end Scorebook.Json
