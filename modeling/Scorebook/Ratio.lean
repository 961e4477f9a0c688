/-!
# Shares, percentages and means

A division by zero counts as zero throughout, so that a player without rounds has averages of zero.
-/
namespace Scorebook.Ratio

/-- The sum in order.  The empty sum is the neutral element of addition, which is a negative zero. -/
def sum (xs : List Float) : Float := xs.foldl (· + ·) (-0.0)

/-- The sum in order, starting from zero. -/
def total (xs : List Float) : Float := xs.foldl (· + ·) 0

/-- A place in the order of all floats by sign and magnitude: negative ones from the greatest magnitude up,
then positive ones, zero before one, infinity before what is no number. -/
def place (x : Float) : Nat :=
  let bits := x.toBits.toNat
  if bits < Nat.pow 2 63 then Nat.pow 2 63 + bits else Nat.pow 2 64 - 1 - bits

def safeDiv (numerator denominator : Float) : Float :=
  if denominator == 0 then 0 else numerator / denominator

def percentage (part whole : Float) : Float := safeDiv part whole * 100

def clamp (low high x : Float) : Float := if x < low then low else if high < x then high else x

def clampPercent (x : Float) : Float := clamp 0 100 x

/-- Scales `value` so that `reference` becomes 100, within 0 and 100. -/
def ofReference (value reference : Float) : Float := clampPercent (percentage value reference)

def atLeastZero (x : Float) : Float := if 0 < x then x else 0

def atMost (bound x : Float) : Float := if x < bound then x else bound

def weightedMean (items : List (Float × Float)) : Float :=
  safeDiv (sum (items.map (fun i => i.1 * i.2))) (sum (items.map (·.2)))

def mean (xs : List Float) : Float := safeDiv (sum xs) (Float.ofNat xs.length)

def ofNat (n : Nat) : Float := Float.ofNat n

end Scorebook.Ratio
