/-!
# Identities and time

Players are numbered by natural numbers; entities and ticks by integers, since a stream may count ticks
from before its start.
-/
namespace Scorebook

abbrev PlayerId := Nat

abbrev EntityId := Int

abbrev Tick := Int

namespace Clock

/-- The seconds that `ticks` last at `rate` ticks a second; a rate that is not positive gives no time. -/
def seconds (ticks : Tick) (rate : Float) : Float :=
  if rate ≤ 0 then 0 else Float.ofInt ticks / rate

/-- The ticks that `s` seconds last: rounded to the nearest, halves away from zero, and held within 64
bits. -/
def ticks (s rate : Float) : Tick := (s * rate).round.toInt64.toInt

end Clock

end Scorebook
