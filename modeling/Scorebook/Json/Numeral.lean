import Scorebook.Json.Value
/-!
# Reading JSON numbers

A numeral without point and exponent is an integer as long as it fits 64 bits.  Every other numeral is a
double: its leading digits, as many as fit 64 bits, are read as an integer and scaled by one power of ten.
-/
namespace Scorebook.Json

/-- The parts of a numeral.  The fraction has no digits when there is no point. -/
structure Numeral where
  negative : Bool
  whole : List Nat
  fraction : List Nat
  exponent : Int
  /-- The numeral has neither a point nor an exponent. -/
  integral : Bool

namespace Numeral

def digit? (c : Char) : Option Nat :=
  if c.isDigit then some (c.toNat - '0'.toNat) else none

def spanDigits (cs : List Char) : List Nat × List Char :=
  ((cs.takeWhile Char.isDigit).filterMap digit?, cs.dropWhile Char.isDigit)

/-- Digits before the point: one zero, or digits that do not start with zero. -/
def isWhole (ds : List Nat) : Bool :=
  match ds with
  | [] => false
  | [_] => true
  | d :: _ => d != 0

def naturalOf (ds : List Nat) : Nat := ds.foldl (fun n d => 10 * n + d) 0

/-- The exponent after its letter: digits with an optional sign. -/
def exponent? (cs : List Char) : Option Int :=
  let (sign, body) : Int × List Char :=
    match cs with
    | '+' :: rest => (1, rest)
    | '-' :: rest => (-1, rest)
    | _ => (1, cs)
  let (ds, rest) := spanDigits body
  if ds.isEmpty || !rest.isEmpty then none else some (sign * naturalOf ds)

def parse? (cs : List Char) : Option Numeral :=
  let (negative, body) :=
    match cs with
    | '-' :: rest => (true, rest)
    | _ => (false, cs)
  let (whole, afterWhole) := spanDigits body
  if !isWhole whole then none
  else
    match afterWhole with
    | [] => some ⟨negative, whole, [], 0, true⟩
    | '.' :: rest =>
      let (fraction, afterFraction) := spanDigits rest
      if fraction.isEmpty then none
      else
        match afterFraction with
        | [] => some ⟨negative, whole, fraction, 0, false⟩
        | c :: rest =>
          if c = 'e' || c = 'E' then
            (exponent? rest).map (fun e => ⟨negative, whole, fraction, e, false⟩)
          else none
    | c :: rest =>
      if c = 'e' || c = 'E' then
        (exponent? rest).map (fun e => ⟨negative, whole, [], e, false⟩)
      else none

/-! ## The value of a numeral -/

/-- The largest integer of a significand. -/
def significandLimit : Nat := Nat.pow 2 64 - 1

/-- Appends digits to a significand while they fit, and counts those that are left over. -/
def absorb (significand : Nat) : List Nat → Nat × Nat
  | [] => (significand, 0)
  | d :: rest =>
    if 10 * significand + d ≤ significandLimit then absorb (10 * significand + d) rest
    else (significand, rest.length + 1)

/-- The double nearest to `10 ^ n`. -/
def powerOfTen (n : Nat) : Float := Float.ofScientific 1 false n

/-- `x` times ten to the power `e`, by one multiplication or division when the power is a double, and by
repeated division by `1e308` below that. -/
def scale (x : Float) (e : Int) : Float :=
  if 308 < e then (if x == 0 then x else x / 0)
  else if 0 ≤ e then x * powerOfTen e.toNat
  else if -308 ≤ e then x / powerOfTen (-e).toNat
  else if x == 0 then x
  else scale (x / powerOfTen 308) (e + 308)
termination_by (-e).toNat

def magnitude (n : Numeral) : Float :=
  let (head, dropped) := absorb 0 n.whole
  let (significand, unread) := absorb head n.fraction
  scale (Float.ofNat significand) (n.exponent + dropped - (n.fraction.length - unread : Nat))

/-- The value of a numeral.  A negative zero is a double, since an integer has no sign of zero. -/
def value (n : Numeral) : Json :=
  let integer := naturalOf n.whole
  if n.integral && !n.negative && integer ≤ significandLimit then .int integer
  else if n.integral && n.negative && integer ≤ Nat.pow 2 63 && integer != 0 then .int (-integer)
  else
    let x := n.magnitude
    if x.isFinite then .double (if n.negative then -x else x) else .unreadable

end Numeral

end Scorebook.Json
