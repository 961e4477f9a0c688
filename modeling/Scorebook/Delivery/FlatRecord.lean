import Scorebook.Json.Value
/-!
# Flat records

A store takes records of one level.  A value inside nested objects is entered under the keys that lead to
it, joined by points; a list is a value.
-/
namespace Scorebook

/-- A record of one level. -/
abbrev FlatRecord := Table String Json

namespace FlatRecord

/-- The key of a field inside the object under `path`. -/
def join (path key : String) : String := if path.isEmpty then key else path ++ "." ++ key

mutual

/-- Enters a value under a path. -/
def enter (path : String) : Json → FlatRecord → FlatRecord
  | .object fields, out => enterFields path fields out
  | v, out => out.insert path v

/-- Enters the fields of the object under a path, one after the other. -/
def enterFields (path : String) : List (String × Json) → FlatRecord → FlatRecord
  | [], out => out
  | (k, v) :: rest, out => enterFields path rest (enter (join path k) v out)

end

/-- The flat record of a value; one that is no object stands under `value`. -/
def ofJson (v : Json) : FlatRecord :=
  match v.plain with
  | .object fields => enterFields "" fields ∅
  | v => (∅ : FlatRecord).insert "value" v

def toJson (r : FlatRecord) : Json := .object r.entries

end FlatRecord

end Scorebook
