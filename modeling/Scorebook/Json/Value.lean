import Scorebook.Table
/-!
# JSON values

A value keeps the fields of an object in the order in which they stand, repeated keys included, and keeps
apart the three kinds of number that a document of this library writes: integers, doubles and singles.
`Json.plain` is the value as a general document holds it, with sorted objects and doubles only.
-/
namespace Scorebook

inductive Json where
  | null
  | bool (b : Bool)
  | int (n : Int)
  | double (x : Float)
  | single (x : Float32)
  | text (s : String)
  | list (items : List Json)
  | object (fields : List (String × Json))
  /-- A well-formed scalar without a value: a number beyond every double, or a text with half of a
  surrogate pair.  It can be passed over, but not read. -/
  | unreadable

namespace Json

instance : Inhabited Json := ⟨null⟩

/-- The nesting of containers that a reader of documents follows. -/
def depthLimit : Nat := 127

mutual

def depth : Json → Nat
  | .list items => depthItems items + 1
  | .object fields => depthFields fields + 1
  | _ => 0

def depthItems : List Json → Nat
  | [] => 0
  | v :: rest => max (depth v) (depthItems rest)

def depthFields : List (String × Json) → Nat
  | [] => 0
  | (_, v) :: rest => max (depth v) (depthFields rest)

end

mutual

/-- Every scalar inside the value can be read. -/
def isReadable : Json → Bool
  | .list items => areReadable items
  | .object fields => areReadableFields fields
  | .unreadable => false
  | _ => true

def areReadable : List Json → Bool
  | [] => true
  | v :: rest => isReadable v && areReadable rest

def areReadableFields : List (String × Json) → Bool
  | [] => true
  | (_, v) :: rest => isReadable v && areReadableFields rest

end

/-- The fields sorted by key, the last of a repeated key winning. -/
def sortFields (fields : List (String × Json)) : List (String × Json) :=
  (Table.ofList fields).entries

mutual

/-- The value as a general document holds it: objects sorted by key, the last of a repeated key winning,
singles widened to doubles, and `null` for numbers that are not finite. -/
def plain : Json → Json
  | .double x => if x.isFinite then .double x else .null
  | .single x => if x.isFinite then .double x.toFloat else .null
  | .list items => .list (plainItems items)
  | .object fields => .object (sortFields (plainFields fields))
  | .unreadable => .null
  | v => v

def plainItems : List Json → List Json
  | [] => []
  | v :: rest => plain v :: plainItems rest

def plainFields : List (String × Json) → List (String × Json)
  | [] => []
  | (k, v) :: rest => (k, plain v) :: plainFields rest

end

/-! ## Building values -/

def nat (n : Nat) : Json := .int n

def option {α : Type} (f : α → Json) : Option α → Json
  | none => .null
  | some a => f a

def listOf {α : Type} (f : α → Json) (items : List α) : Json := .list (items.map f)

end Json

end Scorebook
