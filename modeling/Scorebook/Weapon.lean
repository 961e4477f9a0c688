import Scorebook.Json.Decoder
import Scorebook.Text
/-!
# Weapons

The catalogue of weapons: price, category, and the words under which event streams name them.  Names are
compared by their ASCII letters and digits only, so `weapon_ak47`, `AK-47` and `ak47` are one name
(`Weapon.ofName`); a name that is not in the catalogue is `unknown`.
-/
namespace Scorebook

inductive WeaponCategory where
  | pistol
  | smg
  | heavy
  | rifle
  | sniper
  | grenade
  | equipment
  | other
deriving DecidableEq, Inhabited

def WeaponCategory.name : WeaponCategory → String
  | .pistol => "Pistol"
  | .smg => "Smg"
  | .heavy => "Heavy"
  | .rifle => "Rifle"
  | .sniper => "Sniper"
  | .grenade => "Grenade"
  | .equipment => "Equipment"
  | .other => "Other"

inductive Weapon where
  | glock
  | uspS
  | p2000
  | p250
  | fiveSeven
  | tec9
  | cz75
  | dualBerettas
  | deagle
  | r8Revolver
  | mac10
  | mp9
  | mp7
  | mp5Sd
  | ump45
  | p90
  | ppBizon
  | nova
  | xm1014
  | sawedOff
  | mag7
  | m249
  | negev
  | famas
  | galil
  | m4a4
  | m4a1S
  | ak47
  | aug
  | sg553
  | ssg08
  | awp
  | g3sg1
  | scar20
  | flashbang
  | heGrenade
  | smokeGrenade
  | molotov
  | incendiary
  | decoy
  | knife
  | zeus
  | c4
  | inferno
  | world
  | unknown
deriving DecidableEq, Inhabited

namespace Weapon

def all : List Weapon :=
  [.glock, .uspS, .p2000, .p250, .fiveSeven, .tec9, .cz75, .dualBerettas, .deagle,
   .r8Revolver, .mac10, .mp9, .mp7, .mp5Sd, .ump45, .p90, .ppBizon, .nova, .xm1014, .sawedOff,
   .mag7, .m249, .negev, .famas, .galil, .m4a4, .m4a1S, .ak47, .aug, .sg553, .ssg08, .awp,
   .g3sg1, .scar20, .flashbang, .heGrenade, .smokeGrenade, .molotov, .incendiary, .decoy,
   .knife, .zeus, .c4, .inferno, .world]

def name : Weapon → String
  | .glock => "Glock"
  | .uspS => "UspS"
  | .p2000 => "P2000"
  | .p250 => "P250"
  | .fiveSeven => "FiveSeven"
  | .tec9 => "Tec9"
  | .cz75 => "Cz75"
  | .dualBerettas => "DualBerettas"
  | .deagle => "Deagle"
  | .r8Revolver => "R8Revolver"
  | .mac10 => "Mac10"
  | .mp9 => "Mp9"
  | .mp7 => "Mp7"
  | .mp5Sd => "Mp5Sd"
  | .ump45 => "Ump45"
  | .p90 => "P90"
  | .ppBizon => "PpBizon"
  | .nova => "Nova"
  | .xm1014 => "Xm1014"
  | .sawedOff => "SawedOff"
  | .mag7 => "Mag7"
  | .m249 => "M249"
  | .negev => "Negev"
  | .famas => "Famas"
  | .galil => "Galil"
  | .m4a4 => "M4a4"
  | .m4a1S => "M4a1S"
  | .ak47 => "Ak47"
  | .aug => "Aug"
  | .sg553 => "Sg553"
  | .ssg08 => "Ssg08"
  | .awp => "Awp"
  | .g3sg1 => "G3sg1"
  | .scar20 => "Scar20"
  | .flashbang => "Flashbang"
  | .heGrenade => "HeGrenade"
  | .smokeGrenade => "SmokeGrenade"
  | .molotov => "Molotov"
  | .incendiary => "Incendiary"
  | .decoy => "Decoy"
  | .knife => "Knife"
  | .zeus => "Zeus"
  | .c4 => "C4"
  | .inferno => "Inferno"
  | .world => "World"
  | .unknown => "Unknown"

/-- The price, the category and the words of a weapon. -/
def entry : Weapon → Int × WeaponCategory × List String
  | .glock => (200, .pistol, ["glock", "glock18"])
  | .uspS => (200, .pistol, ["usps", "uspsilencer", "usp"])
  | .p2000 => (200, .pistol, ["p2000", "hkp2000"])
  | .p250 => (300, .pistol, ["p250"])
  | .fiveSeven => (500, .pistol, ["fiveseven"])
  | .tec9 => (500, .pistol, ["tec9"])
  | .cz75 => (500, .pistol, ["cz75", "cz75a", "cz75auto"])
  | .dualBerettas => (300, .pistol, ["dualberettas", "elite"])
  | .deagle => (700, .pistol, ["deagle", "deserteagle"])
  | .r8Revolver => (600, .pistol, ["r8revolver", "revolver", "r8"])
  | .mac10 => (1050, .smg, ["mac10"])
  | .mp9 => (1250, .smg, ["mp9"])
  | .mp7 => (1500, .smg, ["mp7"])
  | .mp5Sd => (1500, .smg, ["mp5sd", "mp5"])
  | .ump45 => (1200, .smg, ["ump45", "ump"])
  | .p90 => (2350, .smg, ["p90"])
  | .ppBizon => (1400, .smg, ["ppbizon", "bizon"])
  | .nova => (1050, .heavy, ["nova"])
  | .xm1014 => (2000, .heavy, ["xm1014"])
  | .sawedOff => (1100, .heavy, ["sawedoff"])
  | .mag7 => (1300, .heavy, ["mag7"])
  | .m249 => (5200, .heavy, ["m249"])
  | .negev => (1700, .heavy, ["negev"])
  | .famas => (2050, .rifle, ["famas"])
  | .galil => (1800, .rifle, ["galil", "galilar"])
  | .m4a4 => (3100, .rifle, ["m4a4", "m4a1"])
  | .m4a1S => (2900, .rifle, ["m4a1s", "m4a1silencer"])
  | .ak47 => (2700, .rifle, ["ak47"])
  | .aug => (3300, .rifle, ["aug"])
  | .sg553 => (3000, .rifle, ["sg553", "sg556"])
  | .ssg08 => (1700, .sniper, ["ssg08", "scout"])
  | .awp => (4750, .sniper, ["awp"])
  | .g3sg1 => (5000, .sniper, ["g3sg1"])
  | .scar20 => (5000, .sniper, ["scar20"])
  | .flashbang => (200, .grenade, ["flashbang", "flash"])
  | .heGrenade => (300, .grenade, ["hegrenade", "he", "highexplosivegrenade"])
  | .smokeGrenade => (300, .grenade, ["smokegrenade", "smoke"])
  | .molotov => (400, .grenade, ["molotov", "molotovgrenade"])
  | .incendiary => (500, .grenade, ["incendiary", "incgrenade", "incendiarygrenade"])
  | .decoy => (50, .grenade, ["decoy", "decoygrenade"])
  | .knife => (0, .equipment, ["knife", "bayonet"])
  | .zeus => (200, .equipment, ["zeus", "zeusx27", "taser"])
  | .c4 => (0, .equipment, ["c4", "c4explosive", "bomb"])
  | .inferno => (0, .other, ["inferno", "fire"])
  | .world => (0, .other, ["world", "worldspawn"])
  | .unknown => (0, .other, [])

def price (w : Weapon) : Int := w.entry.1

def category (w : Weapon) : WeaponCategory := w.entry.2.1

/-- The words, in lower case and without blanks or signs, that name the weapon. -/
def words (w : Weapon) : List String := w.entry.2.2

/-- Weapons that fire bullets, whose damage counts as a hit for accuracy. -/
def isFirearm (w : Weapon) : Bool :=
  match w.category with
  | .pistol | .smg | .heavy | .rifle | .sniper => true
  | .grenade | .equipment | .other => false

/-! ## Names -/

def dropStart (start cs : List Char) : List Char :=
  if start.isPrefixOf cs then cs.drop start.length else cs

/-- What is compared of a name: its ASCII letters in lower case and its digits, after blanks around it and
a leading `weapon_` are removed. -/
def normalName (cs : List Char) : List Char :=
  (dropStart "weapon_".toList (Text.lower (Text.trim cs))).filter Char.isAlphanum

/-- The weapon that a normal name stands for.  Every kind of knife is a knife. -/
def ofNormalName (cs : List Char) : Weapon :=
  if "knife".toList.isPrefixOf cs then .knife
  else (all.find? (fun w => w.words.any (fun word => word.toList == cs))).getD .unknown

def ofName (s : String) : Weapon := ofNormalName (normalName s.toList)

def toJson (w : Weapon) : Json := .text w.name

/-- Any text is the name of a weapon. -/
def ofJson? (j : Json) : Option Weapon := j.text?.map ofName

end Weapon

end Scorebook
