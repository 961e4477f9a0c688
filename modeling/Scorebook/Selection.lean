import Scorebook.Clock
/-!
# Choosing from lists

Searches from a position outwards, the choice of the greatest or least item of a list under a key, and
totals over a list.  Which of several equal items is chosen is part of each function.
-/
namespace Scorebook

/-! ## Searches -/

/-- The first item with a result, with its position; positions count from `start`. -/
def firstSome? {α β : Type} (f : α → Option β) (start : Nat) : List α → Option (Nat × β)
  | [] => none
  | a :: rest =>
    match f a with
    | some b => some (start, b)
    | none => firstSome? f (start + 1) rest

/-- The nearest item after position `i` with a result. -/
def findAfter? {α β : Type} (f : α → Option β) (items : List α) (i : Nat) : Option (Nat × β) :=
  firstSome? f (i + 1) (items.drop (i + 1))

/-- The nearest item before position `i` with a result. -/
def findBefore? {α β : Type} (f : α → Option β) (items : List α) (i : Nat) : Option (Nat × β) :=
  ((items.take i).zipIdx.reverse).findSome? (fun e => (f e.1).map (fun b => (e.2, b)))

/-- Which way a search goes from its position. -/
inductive Direction where
  | forward
  | backward
deriving DecidableEq

/-- Whether a search among `count` items can start at position `i`.  Backward, it can also start behind the
last item. -/
def Direction.startsAt (d : Direction) (count i : Nat) : Bool :=
  match d with
  | .forward => i < count
  | .backward => i ≤ count

/-- The nearest item with a result in a direction from position `i`. -/
def findToward? {α β : Type} (d : Direction) (f : α → Option β) (items : List α) (i : Nat) :
    Option (Nat × β) :=
  match d with
  | .forward => findAfter? f items i
  | .backward => findBefore? f items i

/-! ## Greatest and least -/

/-- The first of the items that no other item precedes. -/
def leastBy? {α : Type} (precedes : α → α → Bool) : List α → Option α
  | [] => none
  | a :: rest => some (rest.foldl (fun best b => if precedes b best then b else best) a)

/-- The last of the items whose key no other key exceeds. -/
def lastGreatest? {α κ : Type} [Ord κ] (key : α → κ) : List α → Option α
  | [] => none
  | a :: rest =>
    some (rest.foldl (fun best b => if (compare (key best) (key b)).isLE then b else best) a)

/-- The item whose tick is nearest to `tick`: of two at one distance the earlier tick, of two at one tick
the first in the list. -/
def nearestTo? {α : Type} (tick : Tick) (tickOf : α → Tick) (items : List α) : Option α :=
  items |> leastBy? (fun a b =>
    let da := (tickOf a - tick).natAbs
    let db := (tickOf b - tick).natAbs
    da < db || (da = db && tickOf a < tickOf b))

/-! ## Totals and order -/

def total {α : Type} (f : α → Int) (items : List α) : Int := items.foldr (fun a n => f a + n) 0

def totalCount {α : Type} (f : α → Nat) (items : List α) : Nat :=
  items.foldr (fun a n => f a + n) 0

/-- Items in increasing order of key, those of one key as they stood. -/
def sortByKey {α κ : Type} [Ord κ] (key : α → κ) (items : List α) : List α :=
  items.mergeSort (fun a b => (compare (key a) (key b)).isLE)

end Scorebook
