/-!
# The fewest decimal digits that read back

A binary floating-point number stands for every real that rounds to it.  `Binary.shortest` picks, among
the decimal numbers of that interval, one with the fewest digits, and of those the nearest to the number
itself; a `Tie` says which of two equally near ones it takes.  All arithmetic is on natural numbers.
-/
namespace Scorebook.Decimal

/-- The number `mantissa * 2 ^ exponent`, with a positive mantissa. -/
structure Binary where
  mantissa : Nat
  exponent : Int
  /-- The gap to the next smaller number is half the gap to the next larger one. -/
  narrowBelow : Bool

/-- The number `digits * 10 ^ exponent`. -/
structure Digits where
  digits : Nat
  exponent : Int

/-- Which of two equally near decimal numbers is taken. -/
inductive Tie where
  /-- The one with the even last digit. -/
  | even
  /-- The greater one. -/
  | up

def Tie.choose : Tie → Nat → Nat
  | .even, c => if c % 2 = 0 then c else c + 1
  | .up, c => c + 1

/-- The numerator and denominator of `base ^ e`. -/
def powerRatio (base : Nat) (e : Int) : Nat × Nat :=
  if 0 ≤ e then (Nat.pow base e.toNat, 1) else (1, Nat.pow base (-e).toNat)

namespace Binary

/-- The number and the two ends of its interval in units of `2 ^ (exponent - 2)`. -/
def quarters (b : Binary) : Nat × Nat × Nat :=
  (if b.narrowBelow then 4 * b.mantissa - 1 else 4 * b.mantissa - 2, 4 * b.mantissa,
    4 * b.mantissa + 2)

/-- The multiple of `10 ^ k` that lies in the interval of `b` and is nearest to `b`, if one does.  The
ends belong to the interval when the mantissa is even. -/
def multiple? (b : Binary) (tie : Tie) (k : Int) : Option Nat :=
  let (below, self, above) := b.quarters
  let (twos, halves) := powerRatio 2 (b.exponent - 2)
  let (tens, tenths) := powerRatio 10 k
  let num := twos * tenths
  let den := halves * tens
  let inside (c : Nat) : Bool :=
    if b.mantissa % 2 = 0 then below * num ≤ c * den && c * den ≤ above * num
    else below * num < c * den && c * den < above * num
  let c := self * num / den
  match inside c, inside (c + 1) with
  | true, true =>
    let twice := 2 * self * num
    let middle := (2 * c + 1) * den
    if twice < middle then some c
    else if middle < twice then some (c + 1)
    else some (tie.choose c)
  | true, false => some c
  | false, true => some (c + 1)
  | false, false => none

/-- A power of ten at or above `b`, within one. -/
def top (b : Binary) : Int :=
  (((b.mantissa.log2 : Int) + 1 + b.exponent) * 30103) / 100000 + 1

/-- The first decimal grid, from `10 ^ k` downwards, with a point in the interval of `b`. -/
def searchGrids (b : Binary) (tie : Tie) : Nat → Int → Digits
  | 0, k => ⟨(b.multiple? tie k).getD 0, k⟩
  | fuel + 1, k =>
    match b.multiple? tie k with
    | some c => ⟨c, k⟩
    | none => searchGrids b tie fuel (k - 1)

/-- The fewest digits that read back as `b`.  Seventeen always suffice for numbers of 53 bits, so the
search needs no more than twenty grids. -/
def shortest (b : Binary) (tie : Tie) : Digits := b.searchGrids tie 20 b.top

end Binary

/-! ## Reading the bits of a floating-point number -/

/-- The widths of the fields of a binary floating-point format. -/
structure Width where
  fraction : Nat
  exponent : Nat

def double : Width := ⟨52, 11⟩

def single : Width := ⟨23, 8⟩

inductive Magnitude where
  | nan
  | infinite
  | zero
  | finite (b : Binary)

/-- The magnitude that the bits below the sign bit stand for. -/
def Width.magnitude (w : Width) (bits : Nat) : Magnitude :=
  let fraction := bits % Nat.pow 2 w.fraction
  let exponent := bits / Nat.pow 2 w.fraction % Nat.pow 2 w.exponent
  let least : Int := 2 - (Nat.pow 2 (w.exponent - 1) : Nat) - w.fraction
  if exponent = Nat.pow 2 w.exponent - 1 then
    if fraction = 0 then .infinite else .nan
  else if exponent = 0 then
    if fraction = 0 then .zero else .finite ⟨fraction, least, false⟩
  else
    .finite
      ⟨Nat.pow 2 w.fraction + fraction, least + (exponent - 1 : Nat), fraction = 0 && 1 < exponent⟩

def Width.isNegative (w : Width) (bits : Nat) : Bool :=
  bits / Nat.pow 2 (w.fraction + w.exponent) % 2 = 1

end Scorebook.Decimal
