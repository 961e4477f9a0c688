import Scorebook.Decimal.Shortest
/-!
# The text of floating-point numbers

A `Layout` says when a number is written in positional notation, whether a whole number keeps its point,
and how a tie between digits is broken; the digits are always the fewest that read back.  JSON documents use `jsonDouble` and `jsonSingle`,
messages use `plain`.
-/
namespace Scorebook.Decimal

structure Layout where
  /-- The decimal exponents of the leading digit that are written in positional notation. -/
  positional : Int → Bool
  /-- A whole number in positional notation ends in `.0`. -/
  wholePoint : Bool
  tie : Tie

def jsonDouble : Layout := ⟨fun e => -5 ≤ e && e ≤ 15, true, .even⟩

def jsonSingle : Layout := ⟨fun e => -6 ≤ e && e ≤ 12, true, .even⟩

/-- Numbers inside a sentence: positional throughout, a whole number has no point, and a tie goes up. -/
def plain : Layout := ⟨fun _ => true, false, .up⟩

def zeros (n : Nat) : List Char := List.replicate n '0'

/-- The digits `ds`, read as an integer times `10 ^ k`, in positional notation. -/
def positionalText (wholePoint : Bool) (ds : List Char) (k : Int) : List Char :=
  if 0 ≤ k then
    ds ++ zeros k.toNat ++ (if wholePoint then ['.', '0'] else [])
  else
    let places := (-k).toNat
    if places < ds.length then
      ds.take (ds.length - places) ++ '.' :: ds.drop (ds.length - places)
    else
      ['0', '.'] ++ zeros (places - ds.length) ++ ds

/-- The digits `ds` with a point after the first and the decimal exponent `e` after an `e`. -/
def scientificText (ds : List Char) (e : Int) : List Char :=
  let significand :=
    match ds with
    | [] => []
    | [d] => [d]
    | d :: rest => d :: '.' :: rest
  significand ++ 'e' :: (if e < 0 then '-' else '+') :: (Nat.toDigits 10 e.natAbs)

def Digits.text (layout : Layout) (n : Digits) : List Char :=
  let ds := Nat.toDigits 10 n.digits
  let e := n.exponent + (ds.length - 1 : Nat)
  if layout.positional e then positionalText layout.wholePoint ds n.exponent
  else scientificText ds e

def Width.text (w : Width) (layout : Layout) (bits : Nat) : String :=
  let sign := if w.isNegative bits then ['-'] else []
  match w.magnitude bits with
  | .nan => "NaN"
  | .infinite => String.ofList (sign ++ ['i', 'n', 'f'])
  | .zero => String.ofList (sign ++ (if layout.wholePoint then ['0', '.', '0'] else ['0']))
  | .finite b => String.ofList (sign ++ (b.shortest layout.tie).text layout)

def ofDouble (x : Float) : String := double.text jsonDouble x.toBits.toNat

def ofSingle (x : Float32) : String := single.text jsonSingle x.toBits.toNat

def plainDouble (x : Float) : String := double.text plain x.toBits.toNat

end Scorebook.Decimal
