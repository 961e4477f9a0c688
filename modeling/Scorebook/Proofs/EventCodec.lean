import Scorebook.Proofs.JsonVariants
import Scorebook.Event.Codec
/-!
# Events are read back

An event that is written and read is the same event, whatever its kind, whoever is absent from it and whatever weapon it
tells of, and so is every variant of what was written: an event does not depend on the order of its fields, nor on
fields that nobody knows.  Writable is what fits: finite singles, and integers of as many bits as their fields have
(`TimedEvent.Writable`).
-/
namespace Scorebook

open Json

/-! ## What can be written -/

def IsInt32 (n : Int) : Prop := -2147483648 ≤ n ∧ n ≤ 2147483647

def IsInt64 (n : Int) : Prop := -9223372036854775808 ≤ n ∧ n ≤ 9223372036854775807

def IsNat32 (n : Nat) : Prop := n ≤ 4294967295

def IsNat64 (n : Nat) : Prop := n ≤ 18446744073709551615

structure Vector3.IsFinite (v : Vector3) : Prop where
  x : v.x.isFinite = true
  y : v.y.isFinite = true
  z : v.z.isFinite = true

structure ViewAngles.IsFinite (v : ViewAngles) : Prop where
  pitch : v.pitch.isFinite = true
  yaw : v.yaw.isFinite = true

structure Actor.Writable (a : Actor) : Prop where
  id : IsNat64 a.id
  position : a.position.IsFinite
  view : a.view.IsFinite
  health : IsInt32 a.health
  armor : IsInt32 a.armor
  flashDuration : a.flashDuration.isFinite = true
  money : IsInt32 a.money
  velocity : ∀ v ∈ a.movement.velocity, v.IsFinite

/-- The numbers of an event fit their fields, those of its players apart. -/
def Event.NumbersFit : Event → Prop
  | .kill n => IsNat32 n.penetratedObjects
  | .playerHurt n => IsInt32 n.healthDamage ∧ IsInt32 n.armorDamage
  | .projectileThrow n | .projectileDestroy n | .flashExplode n | .smokeStart n =>
    IsInt64 n.entity ∧ n.position.IsFinite
  | .playerFlashed n => n.duration.isFinite = true
  | _ => True

structure TimedEvent.Writable (e : TimedEvent) : Prop where
  tick : IsInt64 e.tick
  actors : ∀ a ∈ e.event.actors, a.Writable
  numbers : e.event.NumbersFit

/-! ## Names -/

theorem Side.reads (s : Side) (route : Route) : Reads (named? route Side.ofName?) s.toJson s :=
  reads_named (by cases s <;> rfl) route

theorem Allegiance.reads (a : Allegiance) (route : Route) : Reads (named? route Allegiance.ofName?) a.toJson a :=
  reads_named (by cases a <;> rfl) route

theorem RoundEndReason.reads (r : RoundEndReason) (route : Route) :
    Reads (named? route RoundEndReason.ofName?) (.text r.name) r :=
  reads_named (by cases r <;> decide +kernel) route

/-- The catalogue holds every weapon, the unknown one apart. -/
theorem Weapon.eq_unknown_or_mem_all (w : Weapon) : w = .unknown ∨ w ∈ Weapon.all := by
  cases w <;> decide

/-- **The name of a weapon is one of the words for it**, and no word for a weapon before it in the catalogue. -/
theorem Weapon.ofName_name (w : Weapon) : Weapon.ofName w.name = w := by
  have hall : ∀ w ∈ Weapon.all, Weapon.ofName w.name = w := by decide +kernel
  rcases w.eq_unknown_or_mem_all with rfl | hw
  · decide +kernel
  · exact hall w hw

theorem Weapon.reads (w : Weapon) : Reads Weapon.ofJson? w.toJson w := by
  intro v hv
  rw [Weapon.ofJson?, reads_text _ v hv]
  exact congrArg some w.ofName_name

theorem reads_weapon? (w : Option Weapon) : Reads (nullable? Weapon.ofJson?) (.option Weapon.toJson w) w :=
  reads_nullable rfl (fun w _ => w.reads)

theorem reads_text? (s : Option String) : Reads (nullable? text?) (.option .text s) s :=
  reads_nullable rfl (fun s _ => reads_text s)

/-! ## Players -/

theorem Vector3.reads {v : Vector3} (h : v.IsFinite) : Reads Vector3.ofJson? v.toJson v := by
  refine reads_of_slots rfl (by decide) ?_
  rintro values (_ | ⟨hx, _ | ⟨hy, _ | ⟨hz, _ | _⟩⟩⟩)
  have hx := reads_single h.x _ hx
  have hy := reads_single h.y _ hy
  have hz := reads_single h.z _ hz
  simp only [List.map_cons, List.map_nil, Slot.required?, hx, hy, hz]
  rfl

theorem ViewAngles.reads {v : ViewAngles} (h : v.IsFinite) : Reads ViewAngles.ofJson? v.toJson v := by
  refine reads_of_slots rfl (by decide) ?_
  rintro values (_ | ⟨hpitch, _ | ⟨hyaw, _ | _⟩⟩)
  have hpitch := reads_single h.pitch _ hpitch
  have hyaw := reads_single h.yaw _ hyaw
  simp only [List.map_cons, List.map_nil, Slot.required?, hpitch, hyaw]
  rfl

theorem MovementFlags.reads {m : MovementFlags} (h : ∀ v ∈ m.velocity, v.IsFinite) :
    Reads MovementFlags.ofJson? m.toJson m := by
  refine reads_of_slots rfl (by decide) ?_
  rintro values (_ | ⟨hground, _ | ⟨hducking, _ | ⟨hwalking, _ | ⟨hvelocity, _ | ⟨hforward, _ | ⟨hback, _ | ⟨hleft, _ |
    ⟨hright, _ | _⟩⟩⟩⟩⟩⟩⟩⟩)
  have hground := reads_bool _ _ hground
  have hducking := reads_bool _ _ hducking
  have hwalking := reads_bool _ _ hwalking
  have hvelocity := reads_nullable rfl (fun v hv => Vector3.reads (h v hv)) _ hvelocity
  have hforward := reads_bool _ _ hforward
  have hback := reads_bool _ _ hback
  have hleft := reads_bool _ _ hleft
  have hright := reads_bool _ _ hright
  simp only [List.map_cons, List.map_nil, Slot.orElse?, hground, hducking, hwalking, hvelocity, hforward, hback, hleft,
    hright]
  rfl

theorem Actor.reads {a : Actor} (h : a.Writable) (route : Route) : Reads (Actor.ofJson? route) a.toJson a := by
  refine reads_of_slots rfl (by decide) ?_
  rintro values (_ | ⟨hid, _ | ⟨hname, _ | ⟨hteam, _ | ⟨hposition, _ | ⟨hview, _ | ⟨hhealth, _ | ⟨harmor, _ |
    ⟨hhelmet, _ | ⟨hkit, _ | ⟨halive, _ | ⟨hactive, _ | ⟨hinventory, _ | ⟨hflash, _ | ⟨hmoney, _ |
    ⟨hmovement, _ | _⟩⟩⟩⟩⟩⟩⟩⟩⟩⟩⟩⟩⟩⟩⟩)
  have hid := reads_natBelow 64 h.id _ hid
  have hname := reads_text _ _ hname
  have hteam := a.allegiance.reads route _ hteam
  have hposition := Vector3.reads h.position _ hposition
  have hview := ViewAngles.reads h.view _ hview
  have hhealth : int32? _ = _ := reads_intIn h.health _ hhealth
  have harmor : int32? _ = _ := reads_intIn h.armor _ harmor
  have hhelmet := reads_bool _ _ hhelmet
  have hkit := reads_bool _ _ hkit
  have halive := reads_bool _ _ halive
  have hactive := reads_weapon? _ _ hactive
  have hinventory := reads_listOf (fun w _ => w.reads) _ hinventory
  have hflash := reads_single h.flashDuration _ hflash
  have hmoney : int32? _ = _ := reads_intIn h.money _ hmoney
  have hmovement := MovementFlags.reads h.velocity _ hmovement
  simp only [List.map_cons, List.map_nil, Slot.orElse?, hid, hname, hteam, hposition, hview, hhealth, harmor, hhelmet,
    hkit, halive, hactive, hinventory, hflash, hmoney, hmovement]
  rfl

/-- A player may be absent. -/
theorem reads_actor? {a : Option Actor} (h : ∀ b ∈ a, b.Writable) (route : Route) :
    Reads (nullable? (Actor.ofJson? route)) (Actor.optionJson a) a :=
  reads_nullable rfl (fun b hb => Actor.reads (h b hb) route)

/-! ## Notices -/

theorem RoundEndNotice.reads (n : RoundEndNotice) (route : Route) :
    Reads (RoundEndNotice.ofJson? route) (.object n.fields) n := by
  refine reads_of_slots rfl (by decide) ?_
  rintro values (_ | ⟨hwinner, _ | ⟨hreason, _ | _⟩⟩)
  have hwinner := reads_nullable rfl (fun s _ => Side.reads s route) _ hwinner
  have hreason := n.reason.reads route _ hreason
  simp only [List.map_cons, List.map_nil, Slot.optional?, Slot.required?, hwinner, hreason]
  rfl

theorem KillNotice.reads {n : KillNotice} (hk : ∀ a ∈ n.killer, a.Writable) (hv : ∀ a ∈ n.victim, a.Writable)
    (ha : ∀ a ∈ n.assister, a.Writable) (hn : IsNat32 n.penetratedObjects) (route : Route) :
    Reads (KillNotice.ofJson? route) (.object n.fields) n := by
  refine reads_of_slots rfl (by decide) ?_
  rintro values (_ | ⟨hkiller, _ | ⟨hvictim, _ | ⟨hassister, _ | ⟨hweapon, _ | ⟨hheadshot, _ | ⟨hobjects, _ |
    ⟨hflash, _ | _⟩⟩⟩⟩⟩⟩⟩)
  have hkiller := reads_actor? hk route _ hkiller
  have hvictim := reads_actor? hv route _ hvictim
  have hassister := reads_actor? ha route _ hassister
  have hweapon := reads_weapon? _ _ hweapon
  have hheadshot := reads_bool _ _ hheadshot
  have hobjects := reads_natBelow 32 hn _ hobjects
  have hflash := reads_bool _ _ hflash
  simp only [List.map_cons, List.map_nil, Actor.ofSlot?, Slot.optional?, Slot.orElse?, hkiller, hvictim, hassister,
    hweapon, hheadshot, hobjects, hflash]
  rfl

theorem HurtNotice.reads {n : HurtNotice} (ha : ∀ a ∈ n.attacker, a.Writable) (hp : ∀ a ∈ n.player, a.Writable)
    (hd : IsInt32 n.healthDamage ∧ IsInt32 n.armorDamage) (route : Route) :
    Reads (HurtNotice.ofJson? route) (.object n.fields) n := by
  refine reads_of_slots rfl (by decide) ?_
  rintro values (_ | ⟨hattacker, _ | ⟨hplayer, _ | ⟨hweapon, _ | ⟨hhealth, _ | ⟨harmor, _ | ⟨hgroup, _ | _⟩⟩⟩⟩⟩⟩)
  have hattacker := reads_actor? ha route _ hattacker
  have hplayer := reads_actor? hp route _ hplayer
  have hweapon := reads_weapon? _ _ hweapon
  have hhealth : int32? _ = _ := reads_intIn hd.1 _ hhealth
  have harmor : int32? _ = _ := reads_intIn hd.2 _ harmor
  have hgroup := reads_text? _ _ hgroup
  simp only [List.map_cons, List.map_nil, Actor.ofSlot?, Slot.optional?, Slot.required?, Slot.orElse?, hattacker,
    hplayer, hweapon, hhealth, harmor, hgroup]
  rfl

theorem FireNotice.reads {n : FireNotice} (hs : ∀ a ∈ n.shooter, a.Writable) (route : Route) :
    Reads (FireNotice.ofJson? route) (.object n.fields) n := by
  refine reads_of_slots rfl (by decide) ?_
  rintro values (_ | ⟨hshooter, _ | ⟨hweapon, _ | _⟩⟩)
  have hshooter := reads_actor? hs route _ hshooter
  have hweapon := reads_weapon? _ _ hweapon
  simp only [List.map_cons, List.map_nil, Actor.ofSlot?, Slot.optional?, hshooter, hweapon]
  rfl

theorem ProjectileNotice.reads {n : ProjectileNotice} (ht : ∀ a ∈ n.thrower, a.Writable)
    (hn : IsInt64 n.entity ∧ n.position.IsFinite) (route : Route) :
    Reads (ProjectileNotice.ofJson? route) (.object n.fields) n := by
  refine reads_of_slots rfl (by decide) ?_
  rintro values (_ | ⟨hentity, _ | ⟨hweapon, _ | ⟨hthrower, _ | ⟨hposition, _ | _⟩⟩⟩⟩)
  have hentity : int64? _ = _ := reads_intIn hn.1 _ hentity
  have hweapon := n.weapon.reads _ hweapon
  have hthrower := reads_actor? ht route _ hthrower
  have hposition := Vector3.reads hn.2 _ hposition
  simp only [List.map_cons, List.map_nil, Actor.ofSlot?, Slot.optional?, Slot.required?, hentity, hweapon, hthrower,
    hposition]
  rfl

theorem FlashedNotice.reads {n : FlashedNotice} (hp : ∀ a ∈ n.player, a.Writable) (ha : ∀ a ∈ n.attacker, a.Writable)
    (hd : n.duration.isFinite = true) (route : Route) : Reads (FlashedNotice.ofJson? route) (.object n.fields) n := by
  refine reads_of_slots rfl (by decide) ?_
  rintro values (_ | ⟨hplayer, _ | ⟨hattacker, _ | ⟨hduration, _ | _⟩⟩⟩)
  have hplayer := reads_actor? hp route _ hplayer
  have hattacker := reads_actor? ha route _ hattacker
  have hduration := reads_single hd _ hduration
  simp only [List.map_cons, List.map_nil, Actor.ofSlot?, Slot.optional?, Slot.required?, hplayer, hattacker, hduration]
  rfl

theorem BombNotice.reads {n : BombNotice} (hp : ∀ a ∈ n.player, a.Writable) (route : Route) :
    Reads (BombNotice.ofJson? route) (.object n.fields) n := by
  refine reads_of_slots rfl (by decide) ?_
  rintro values (_ | ⟨hplayer, _ | ⟨hsite, _ | _⟩⟩)
  have hplayer := reads_actor? hp route _ hplayer
  have hsite := reads_text? _ _ hsite
  simp only [List.map_cons, List.map_nil, Actor.ofSlot?, Slot.optional?, Slot.orElse?, hplayer, hsite]
  rfl

theorem TeamChangeNotice.reads {n : TeamChangeNotice} (hp : ∀ a ∈ n.player, a.Writable) (route : Route) :
    Reads (TeamChangeNotice.ofJson? route) (.object n.fields) n := by
  refine reads_of_slots rfl (by decide) ?_
  rintro values (_ | ⟨hplayer, _ | ⟨hnew, _ | ⟨hold, _ | _⟩⟩⟩)
  have hplayer := reads_actor? hp route _ hplayer
  have hnew := n.newTeam.reads route _ hnew
  have hold := n.oldTeam.reads route _ hold
  simp only [List.map_cons, List.map_nil, Actor.ofSlot?, Slot.optional?, Slot.required?, hplayer, hnew, hold]
  rfl

/-! ## Events -/

namespace Event

theorem reads_bare (e : Event) : Reads e.bare? (.object []) e := by
  intro w hw
  obtain ⟨_, _, all, rfl, -⟩ := hw.object_inv
  rfl

/-- **The kind of an event tells how its notice is read.** -/
theorem reads_ofKind {e : Event} (ha : ∀ a ∈ e.actors, a.Writable) (hn : e.NumbersFit) :
    Reads (ofKind? e.kind) (.object e.fields) e := by
  have one {o : Option Actor} (h : ∀ a ∈ o.toList, a.Writable) : ∀ a ∈ o, a.Writable :=
    fun a hm => h a (Option.mem_toList.2 hm)
  intro w hw
  cases e with
  | matchStart | roundStart | freezeEnd => exact reads_bare _ w hw
  | roundEnd n => exact congrArg (·.map roundEnd) (n.reads .held w hw)
  | kill n =>
    simp only [actors, List.mem_append] at ha
    exact congrArg (·.map kill) (KillNotice.reads (one fun a h => ha a (.inl (.inl h)))
      (one fun a h => ha a (.inl (.inr h))) (one fun a h => ha a (.inr h)) hn .held w hw)
  | playerHurt n =>
    simp only [actors, List.mem_append] at ha
    exact congrArg (·.map playerHurt) (HurtNotice.reads (one fun a h => ha a (.inl h)) (one fun a h => ha a (.inr h))
      hn .held w hw)
  | weaponFire n => exact congrArg (·.map weaponFire) (FireNotice.reads (one ha) .held w hw)
  | projectileThrow n => exact congrArg (·.map projectileThrow) (ProjectileNotice.reads (one ha) hn .held w hw)
  | projectileDestroy n => exact congrArg (·.map projectileDestroy) (ProjectileNotice.reads (one ha) hn .held w hw)
  | flashExplode n => exact congrArg (·.map flashExplode) (ProjectileNotice.reads (one ha) hn .held w hw)
  | smokeStart n => exact congrArg (·.map smokeStart) (ProjectileNotice.reads (one ha) hn .held w hw)
  | playerFlashed n =>
    simp only [actors, List.mem_append] at ha
    exact congrArg (·.map playerFlashed) (FlashedNotice.reads (one fun a h => ha a (.inl h))
      (one fun a h => ha a (.inr h)) hn .held w hw)
  | bombPlanted n => exact congrArg (·.map bombPlanted) (BombNotice.reads (one ha) .held w hw)
  | bombDefused n => exact congrArg (·.map bombDefused) (BombNotice.reads (one ha) .held w hw)
  | bombExploded n => exact congrArg (·.map bombExploded) (BombNotice.reads (one ha) .held w hw)
  | playerConnect a => exact congrArg (·.map playerConnect) (Actor.reads (ha a List.mem_cons_self) .held w hw)
  | playerDisconnect a => exact congrArg (·.map playerDisconnect) (Actor.reads (ha a List.mem_cons_self) .held w hw)
  | playerTeamChange n => exact congrArg (·.map playerTeamChange) (TeamChangeNotice.reads (one ha) .held w hw)

theorem keys_nodup (e : Event) : ("type" :: e.fields.map (·.1)).Nodup := by
  cases e <;> exact of_decide_eq_true rfl

/-- **The kind of an event is found in every variant**, and what is left is a variant of the notice. -/
theorem split?_of_varies {kind : String} {fields : List (String × Json)} {w : Json}
    (hn : ("type" :: fields.map (·.1)).Nodup) (h : (Json.object (("type", .text kind) :: fields)).Varies w) :
    ∃ body, split? w = some (kind, body) ∧ (Json.object fields).Varies body := by
  obtain ⟨fields', extra, all, rfl, hk, hv, he, hp⟩ := h.object_inv
  rw [List.map_cons] at hk hv he
  cases fields' with
  | nil => cases hk
  | cons f rest =>
    obtain ⟨name, v⟩ := f
    rw [List.map_cons, List.cons.injEq] at hk
    obtain ⟨rfl, hk⟩ := hk
    obtain _ | ⟨hkind, hv⟩ := hv
    cases hkind
    have hn' : ((("type", Json.text kind) :: rest).map (·.1)).Nodup := by rwa [List.map_cons, hk]
    have he' : ∀ f ∈ extra, f.1 ∉ (("type", Json.text kind) :: rest).map (·.1) := by rwa [List.map_cons, hk]
    have hone := filter_key hn' List.mem_cons_self he' hp
    have hrest : (rest ++ extra).filter (fun f => f.1 != "type") = rest ++ extra := by
      refine List.filter_eq_self.2 (fun f hf => bne_iff_ne.2 (fun hname => ?_))
      rcases List.mem_append.1 hf with hf | hf
      · have hkey : f.1 ∈ rest.map (·.1) := List.mem_map_of_mem hf
        exact (List.nodup_cons.1 hn').1 (hname ▸ hkey)
      · exact he f hf (hname ▸ List.mem_cons_self)
    have hperm := hp.filter (fun f => f.1 != "type")
    rw [List.cons_append, List.filter_cons, if_neg (by simp), hrest] at hperm
    refine ⟨.object (all.filter (fun f => f.1 != "type")), ?_, .object hk hv (fun f hf hm => ?_) hperm⟩
    · simp only [split?, hone]
    · exact he f hf (List.mem_cons_of_mem _ hm)

theorem reads {e : Event} (ha : ∀ a ∈ e.actors, a.Writable) (hn : e.NumbersFit) : Reads ofJson? e.toJson e := by
  intro w hw
  obtain ⟨body, hsplit, hbody⟩ := split?_of_varies e.keys_nodup hw
  rw [ofJson?, hsplit]
  exact reads_ofKind ha hn body hbody

end Event

/-- **An event is read back as it was written**, and every variant of what was written is read as this event. -/
theorem TimedEvent.read_back {e : TimedEvent} (h : e.Writable) :
    TimedEvent.ofJson? e.toJson = some e ∧ ∀ w, e.toJson.Varies w → TimedEvent.ofJson? w = some e := by
  have hreads : Reads TimedEvent.ofJson? e.toJson e := by
    refine reads_of_slots rfl (by decide) ?_
    rintro values (_ | ⟨htick, _ | ⟨hevent, _ | _⟩⟩)
    have htick : int64? _ = _ := reads_intIn h.tick _ htick
    have hevent := Event.reads h.actors h.numbers _ hevent
    simp only [List.map_cons, List.map_nil, Slot.required?, htick, hevent]
    rfl
  exact ⟨hreads _ (.refl _), hreads⟩

/-- A shot of a player with the greatest id, written with its fields in the reverse order and with two that nobody
knows, one of them in the event and with the key of a field around it. -/
theorem TimedEvent.read_back_reversed :
    ∃ a : Actor, a = { id := 18446744073709551615, name := "7", position := ⟨1.5, 0, -2⟩, flashDuration := 0.25 } ∧
      TimedEvent.ofJson?
        (.object
          [("demo", .unreadable),
           ("event",
            .object
              [("tick", .text "never"), ("weapon", .text "Unknown"), ("shooter", a.toJson),
               ("type", .text "WeaponFire")]),
           ("tick", .int (-3))]) = some ⟨-3, .weaponFire { shooter := some a, weapon := some .unknown }⟩ := by
  obtain ⟨a, ha⟩ : ∃ a : Actor,
      a = { id := 18446744073709551615, name := "7", position := ⟨1.5, 0, -2⟩, flashDuration := 0.25 } := ⟨_, rfl⟩
  have hactor : a.Writable := by
    subst ha
    exact { id := Nat.le_refl _, position := ⟨by decide, by decide, by decide⟩, view := ⟨by decide, by decide⟩
            health := ⟨by decide, by decide⟩, armor := ⟨by decide, by decide⟩, flashDuration := by decide
            money := ⟨by decide, by decide⟩, velocity := fun _ hv => (by cases hv) }
  have htick : IsInt64 (-3) := ⟨by decide, by decide⟩
  have hw : TimedEvent.Writable ⟨-3, .weaponFire { shooter := some a, weapon := some .unknown }⟩ :=
    { tick := htick, actors := fun b hb => List.mem_singleton.1 hb ▸ hactor, numbers := trivial }
  have hevent : (Event.weaponFire { shooter := some a, weapon := some .unknown }).toJson.Varies
      (.object
        [("tick", .text "never"), ("weapon", .text "Unknown"), ("shooter", a.toJson), ("type", .text "WeaponFire")]) :=
    .object rfl (List.forall₂_same.2 (fun v _ => .refl v))
      (fun f hf => by rw [List.mem_singleton.1 hf]; exact of_decide_eq_true rfl)
      (List.reverse_perm [("type", _), ("shooter", _), ("weapon", _), ("tick", _)])
  refine ⟨a, ha, (TimedEvent.read_back hw).2 _ ?_⟩
  exact @Varies.object _ [("tick", .int (-3)), ("event", _)] [("demo", .unreadable)] _ (by rfl)
    (.cons (.refl _) (.cons hevent .nil)) (fun f hf => by rw [List.mem_singleton.1 hf]; exact of_decide_eq_true rfl)
    (List.reverse_perm [("tick", _), ("event", _), ("demo", _)])

end Scorebook
