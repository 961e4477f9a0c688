import Scorebook.Weapon
/-!
# Kinds of grenade

A grenade is a weapon with a kind; the kind decides how the grenade is rated and which damage it can have
dealt.
-/
namespace Scorebook

inductive GrenadeCategory where
  | flash
  | explosive
  | utility
deriving DecidableEq, Inhabited

def GrenadeCategory.name : GrenadeCategory → String
  | .flash => "Flash"
  | .explosive => "Explosive"
  | .utility => "Utility"

inductive GrenadeKind where
  | flashbang
  | highExplosive
  | smoke
  | molotov
  | incendiary
  | decoy
deriving DecidableEq, Inhabited

namespace GrenadeKind

def all : List GrenadeKind := [.flashbang, .highExplosive, .smoke, .molotov, .incendiary, .decoy]

def name : GrenadeKind → String
  | .flashbang => "Flashbang"
  | .highExplosive => "HighExplosive"
  | .smoke => "Smoke"
  | .molotov => "Molotov"
  | .incendiary => "Incendiary"
  | .decoy => "Decoy"

def ofName? (s : String) : Option GrenadeKind := all.find? (fun k => k.name == s)

def rank : GrenadeKind → Nat
  | .flashbang => 0
  | .highExplosive => 1
  | .smoke => 2
  | .molotov => 3
  | .incendiary => 4
  | .decoy => 5

theorem rank_injective : ∀ a b : GrenadeKind, a.rank = b.rank → a = b := by
  intro a b
  cases a <;> cases b <;> simp [rank]

instance : Ord GrenadeKind where
  compare := compareOn rank

instance : Std.TransOrd GrenadeKind := inferInstanceAs (Std.TransCmp (compareOn rank))

instance : Std.LawfulEqOrd GrenadeKind where
  compare_self := by
    intro a
    show compare a.rank a.rank = .eq
    exact Std.ReflCmp.compare_self
  eq_of_compare := by
    intro a b h
    have h : compare a.rank b.rank = .eq := h
    exact rank_injective a b (Std.LawfulEqCmp.eq_of_compare h)

def category : GrenadeKind → GrenadeCategory
  | .flashbang => .flash
  | .highExplosive | .molotov | .incendiary => .explosive
  | .smoke | .decoy => .utility

def weapon : GrenadeKind → Weapon
  | .flashbang => .flashbang
  | .highExplosive => .heGrenade
  | .smoke => .smokeGrenade
  | .molotov => .molotov
  | .incendiary => .incendiary
  | .decoy => .decoy

/-- Whether damage dealt with a weapon can come from a grenade of this kind.  Fire damage may be reported
as the fire, or as either bottle. -/
def dealsDamageAs (k : GrenadeKind) (w : Weapon) : Bool :=
  match k with
  | .highExplosive => w = .heGrenade
  | .molotov | .incendiary => w = .inferno || w = .molotov || w = .incendiary
  | .flashbang | .smoke | .decoy => false

end GrenadeKind

namespace Weapon

def grenadeKind? : Weapon → Option GrenadeKind
  | .flashbang => some .flashbang
  | .heGrenade => some .highExplosive
  | .smokeGrenade => some .smoke
  | .molotov => some .molotov
  | .incendiary => some .incendiary
  | .decoy => some .decoy
  | _ => none

def isGrenade (w : Weapon) : Bool := w.grenadeKind?.isSome

end Weapon

end Scorebook
