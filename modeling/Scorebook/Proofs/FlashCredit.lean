import Scorebook.Proofs.Correlation
import Scorebook.Proofs.Exposure
/-!
# What flashes have to do with a kill

A flash swings a kill when it blinded the victim in the round of the kill, no longer before it than the window: it leads
to the kill when a player of the killer's team threw it and blinded an enemy, and to the death when a player of the other
team threw it and blinded one of their own (`Swings`).  The records of such flashes are marked, and the latest of those
that led to the kill, the killer's own excepted, assists it (`flashes_attributed`).
-/
namespace Scorebook

open MatchState (FlashOutcome)

/-- Whether the killer's team threw the flash, and whether the flash blinded an enemy: an outcome has both or neither. -/
def MatchState.FlashOutcome.helps : FlashOutcome → Bool
  | .leadsToKill => true
  | .leadsToDeath => false

namespace Grenade

/-- The mark of an outcome. -/
def isMarked (g : Grenade) : FlashOutcome → Bool
  | .leadsToKill => g.leadsToKill
  | .leadsToDeath => g.leadsToDeath

def mark (g : Grenade) (o : FlashOutcome) : Grenade :=
  match o with
  | .leadsToKill => { g with leadsToKill := true }
  | .leadsToDeath => { g with leadsToDeath := true }

/-- The record with the marks of some outcomes made. -/
def markEach (g : Grenade) (marks : FlashOutcome → Bool) : Grenade :=
  { g with
    leadsToKill := g.leadsToKill || marks .leadsToKill
    leadsToDeath := g.leadsToDeath || marks .leadsToDeath }

theorem isMarked_markEach (g : Grenade) (marks : FlashOutcome → Bool) (o : FlashOutcome) :
    (g.markEach marks).isMarked o = (g.isMarked o || marks o) := by
  cases o <;> rfl

theorem markEach_mark (g : Grenade) (o : FlashOutcome) (marks : FlashOutcome → Bool) :
    (g.mark o).markEach marks = g.markEach (fun o' => o = o' || marks o') := by
  cases o <;> simp [mark, markEach]

end Grenade

/-- A flash that detonated after another, or at its tick with a lesser entity. -/
def FlashEffect.IsLater (e other : FlashEffect) : Prop :=
  other.tick < e.tick ∨ other.tick = e.tick ∧ e.entity < other.entity

theorem FlashEffect.IsLater.asymm (a b : FlashEffect) (h : a.IsLater b) : ¬ b.IsLater a := by
  rintro (hlt | ⟨heq, hlt⟩) <;> rcases h with hlt' | ⟨heq', hlt'⟩
  · exact Int.lt_asymm hlt hlt'
  · exact Int.lt_irrefl _ (heq' ▸ hlt)
  · exact Int.lt_irrefl _ (heq ▸ hlt')
  · exact Int.lt_asymm hlt hlt'

/-- What stands first by tick, the latest before the others, and by entity. -/
theorem isLater_of_isLE {a b : FlashEffect}
    (h : (compare ((-a.tick, a.entity) : Int × Int) (-b.tick, b.entity)).isLE = true) (hne : a.entity ≠ b.entity) :
    a.IsLater b := by
  have h : ((compare (-a.tick) (-b.tick)).then (compare a.entity b.entity)).isLE = true := h
  rw [Ordering.isLE_then_iff_or, Int.compare_eq_lt, Int.compare_eq_eq, Int.isLE_compare] at h
  rcases h with htick | ⟨htick, hentity⟩
  · exact .inl (Int.neg_lt_neg_iff.1 htick)
  · exact .inr ⟨(Int.neg_inj.1 htick).symm, lt_of_le_of_ne hentity hne⟩

namespace MatchState

variable {s : MatchState} {c : Config} {killer victim : PlayerId} {tick : Tick}

/-! ## Which flashes swing a kill -/

/-- A flash swings a kill, with an outcome. -/
structure Swings (s : MatchState) (c : Config) (killer victim : PlayerId) (tick : Tick) (o : FlashOutcome)
    (e : FlashEffect) : Prop where
  known : ∃ entity, s.tables.flashes.get? entity = some e
  round : e.round = s.round.number
  before : e.tick ≤ tick
  recent : tick - e.tick ≤ Clock.ticks c.flashWindowSeconds s.tickRate
  blinded : ∃ b ∈ e.affected, b.player = victim ∧ b.isEnemy = o.helps
  team : s.sameTeam? e.thrower killer = some o.helps

/-- How a flash swung a kill, if it did. -/
def swing? (s : MatchState) (c : Config) (killer victim : PlayerId) (tick : Tick) (e : FlashEffect) :
    Option (FlashEffect × FlashOutcome) :=
  if e.round = s.round.number && e.tick ≤ tick && tick - e.tick ≤ Clock.ticks c.flashWindowSeconds s.tickRate then
    (s.flashOutcome? killer victim e).map (e, ·)
  else none

/-- The flashes of a list that swung a kill, the latest first. -/
def swingingAmong (s : MatchState) (c : Config) (killer victim : PlayerId) (tick : Tick) (flashes : List FlashEffect) :
    List (FlashEffect × FlashOutcome) :=
  sortByKey (fun h => (-h.1.tick, h.1.entity)) (flashes.filterMap (s.swing? c killer victim tick))

theorem swingingFlashes_eq (s : MatchState) (c : Config) (killer victim : PlayerId) (tick : Tick) :
    s.swingingFlashes c killer victim tick = s.swingingAmong c killer victim tick s.tables.flashes.values := rfl

theorem flashOutcome?_eq_some_iff {e : FlashEffect} (hone : (e.affected.map (·.player)).Nodup) {o : FlashOutcome} :
    s.flashOutcome? killer victim e = some o ↔
      (∃ b ∈ e.affected, b.player = victim ∧ b.isEnemy = o.helps) ∧ s.sameTeam? e.thrower killer = some o.helps := by
  unfold flashOutcome?
  -- a flash blinds a player once, so that the blinding found is the only one of the victim
  simp only [Option.bind_eq_some_iff, find?_eq_some_iff_of_nodup hone]
  constructor
  · rintro ⟨b, ⟨hb, hvictim⟩, ho⟩
    split at ho
    · next hteam henemy =>
      cases ho
      exact ⟨⟨b, hb, hvictim, henemy⟩, hteam⟩
    · next hteam henemy =>
      cases ho
      exact ⟨⟨b, hb, hvictim, henemy⟩, hteam⟩
    · cases ho
  · rintro ⟨⟨b, hb, hvictim, henemy⟩, hteam⟩
    refine ⟨b, ⟨hb, hvictim⟩, ?_⟩
    rw [hteam, henemy]
    cases o <;> rfl

theorem swing?_eq_some_iff {e : FlashEffect} {h : FlashEffect × FlashOutcome} :
    s.swing? c killer victim tick e = some h ↔
      (e.round = s.round.number ∧ e.tick ≤ tick ∧ tick - e.tick ≤ Clock.ticks c.flashWindowSeconds s.tickRate) ∧
        h.1 = e ∧ s.flashOutcome? killer victim e = some h.2 := by
  unfold swing?
  split
  · next hin =>
    simp only [Bool.and_eq_true, decide_eq_true_eq, and_assoc] at hin
    rw [Option.map_eq_some_iff, and_iff_right hin]
    constructor
    · rintro ⟨o, ho, rfl⟩
      exact ⟨rfl, ho⟩
    · rintro ⟨rfl, ho⟩
      exact ⟨h.2, ho, rfl⟩
  · next hout =>
    simp only [Bool.and_eq_true, decide_eq_true_eq, and_assoc] at hout
    constructor
    · rintro ⟨⟩
    · exact fun h => absurd h.1 hout

/-- **The flashes that are found are those that swing the kill.** -/
theorem mem_swingingFlashes_iff (hs : InStep s) {h : FlashEffect × FlashOutcome} :
    h ∈ s.swingingFlashes c killer victim tick ↔ s.Swings c killer victim tick h.2 h.1 := by
  rw [swingingFlashes_eq, swingingAmong, mem_sortByKey, List.mem_filterMap]
  constructor
  · rintro ⟨e, he, hswing⟩
    obtain ⟨⟨hround, hbefore, hrecent⟩, rfl, ho⟩ := swing?_eq_some_iff.1 hswing
    obtain ⟨entity, hget⟩ := Table.mem_values_iff.1 he
    obtain ⟨hblinded, hteam⟩ := (flashOutcome?_eq_some_iff (hs.once hget)).1 ho
    exact ⟨⟨entity, hget⟩, hround, hbefore, hrecent, hblinded, hteam⟩
  · rintro ⟨⟨entity, hget⟩, hround, hbefore, hrecent, hblinded, hteam⟩
    refine ⟨h.1, Table.mem_values_iff.2 ⟨entity, hget⟩, swing?_eq_some_iff.2 ⟨⟨hround, hbefore, hrecent⟩, rfl, ?_⟩⟩
    exact (flashOutcome?_eq_some_iff (hs.once hget)).2 ⟨hblinded, hteam⟩

/-- Flashes that swung the kill are found in one order, whatever the order in which they are looked through. -/
theorem swingingAmong_of_perm (hk : Keyed s) {flashes : List FlashEffect} (hp : flashes.Perm s.tables.flashes.values) :
    s.swingingAmong c killer victim tick flashes = s.swingingFlashes c killer victim tick := by
  refine sortByKey_of_perm (hp.filterMap _) (fun x hx y hy hkey => ?_)
  obtain ⟨e, he, hx⟩ := List.mem_filterMap.1 hx
  obtain ⟨e', he', hy⟩ := List.mem_filterMap.1 hy
  obtain ⟨-, rfl, hxo⟩ := swing?_eq_some_iff.1 hx
  obtain ⟨-, rfl, hyo⟩ := swing?_eq_some_iff.1 hy
  obtain ⟨a, ha⟩ := Table.mem_values_iff.1 he
  obtain ⟨b, hb⟩ := Table.mem_values_iff.1 he'
  have hentity : x.1.entity = y.1.entity := congrArg Prod.snd hkey
  rw [hk.own ha, hk.own hb] at hentity
  have heffect : x.1 = y.1 := Option.some.inj (ha.symm.trans (hentity ▸ hb))
  rw [heffect, hyo] at hxo
  exact Prod.ext heffect (Option.some.inj hxo.symm)

theorem pairwise_swingingFlashes (hk : Keyed s) (c : Config) (killer victim : PlayerId) (tick : Tick) :
    (s.swingingFlashes c killer victim tick).Pairwise (fun a b => a.1.IsLater b.1) := by
  have hvalues : s.tables.flashes.values.Pairwise (fun a b => a.entity ≠ b.entity) := by
    rw [← List.pairwise_map (f := FlashEffect.entity) (R := (· ≠ ·)), map_entity_values hk]
    exact Table.keys_nodup _
  have hfound : (s.tables.flashes.values.filterMap (s.swing? c killer victim tick)).Pairwise
      (fun a b => a.1.entity ≠ b.1.entity) := by
    refine hvalues.filterMap _ (fun a a' hne b hb b' hb' => ?_)
    rw [(swing?_eq_some_iff.1 hb).2.1, (swing?_eq_some_iff.1 hb').2.1]
    exact hne
  have hsorted : (s.swingingFlashes c killer victim tick).Pairwise (fun a b => a.1.entity ≠ b.1.entity) :=
    (List.Perm.pairwise_iff Ne.symm (List.mergeSort_perm _ _)).2 hfound
  exact ((pairwise_sortByKey _ _).and hsorted).imp (fun h => isLater_of_isLE h.1 h.2)

/-! ## Marks -/

def markFlash (s : MatchState) (h : FlashEffect × FlashOutcome) : MatchState :=
  s.modifyGrenade h.1.grenade (·.mark h.2)

theorem markFlashes_eq (s : MatchState) (c : Config) (killer victim : PlayerId) (tick : Tick) :
    s.markFlashes c killer victim tick = (s.swingingFlashes c killer victim tick).foldl markFlash s := rfl

theorem foldl_markFlash_frame (hits : List (FlashEffect × FlashOutcome)) (s : MatchState) :
    ∃ grenades strayed, hits.foldl markFlash s = { s with grenades, strayed } := by
  refine List.foldlRecOn (motive := fun t => ∃ grenades strayed, t = { s with grenades, strayed }) hits markFlash
    ⟨s.grenades, s.strayed, rfl⟩ ?_
  rintro _ ⟨grenades, strayed, rfl⟩ h -
  unfold markFlash modifyGrenade
  split
  · split
    · exact ⟨_, _, rfl⟩
    · exact ⟨_, _, rfl⟩
  · exact ⟨_, _, rfl⟩

/-- **A record gets the marks of the flashes whose record it is.** -/
theorem getElem?_foldl_markFlash (i : Nat) : ∀ (hits : List (FlashEffect × FlashOutcome)) (s : MatchState),
    (hits.foldl markFlash s).grenades[i]? =
      s.grenades[i]?.map (·.markEach (fun o => hits.any (fun h => h.1.grenade = some i && h.2 = o)))
  | [], s => by simp [Grenade.markEach]
  | h :: hits, s => by
    rw [List.foldl_cons, getElem?_foldl_markFlash i hits, markFlash, InStep.getElem?_modifyGrenade]
    simp only [List.any_cons]
    by_cases hi : h.1.grenade = some i
    · simp only [hi, if_true, Option.map_map, Function.comp_def, Grenade.markEach_mark, decide_true, Bool.true_and]
    · simp only [hi, if_false, decide_false, Bool.false_and, Bool.false_or]

/-- **The records of the flashes that swing a kill are marked**, and nothing else changes. -/
theorem markFlashes_records (hp : Placed s) (hs : InStep s) (c : Config) (killer victim : PlayerId) (tick : Tick) :
    ∃ grenades, s.markFlashes c killer victim tick = { s with grenades } ∧ grenades.length = s.grenades.length ∧
      ∀ i g, s.grenades[i]? = some g → ∃ g', grenades[i]? = some g' ∧
        g' = { g with leadsToKill := g'.leadsToKill, leadsToDeath := g'.leadsToDeath } ∧
        ∀ o, g'.isMarked o = true ↔ g.isMarked o = true ∨ ∃ e, s.Swings c killer victim tick o e ∧ e.grenade = some i := by
  obtain ⟨grenades, strayed, hframe⟩ := foldl_markFlash_frame (s.swingingFlashes c killer victim tick) s
  rw [← markFlashes_eq] at hframe
  have hfound : strayed = s.strayed := by
    have hmarked := (hp.markFlashes c killer victim tick).found
    rw [hframe] at hmarked
    exact hmarked.trans hp.found.symm
  have hlength : grenades.length = s.grenades.length := by
    have htraces := congrArg List.length (Calm.markFlashes s c killer victim tick).traces
    rw [hframe, List.length_map, List.length_map] at htraces
    exact htraces
  refine ⟨grenades, hframe.trans (by rw [hfound]), hlength, fun i g hg => ?_⟩
  have hget := getElem?_foldl_markFlash i (s.swingingFlashes c killer victim tick) s
  rw [← markFlashes_eq, hframe, hg] at hget
  refine ⟨_, hget, rfl, fun o => ?_⟩
  rw [Grenade.isMarked_markEach, Bool.or_eq_true, List.any_eq_true]
  simp only [mem_swingingFlashes_iff hs, Bool.and_eq_true, decide_eq_true_eq]
  refine or_congr_right ⟨?_, ?_⟩
  · rintro ⟨⟨e, _⟩, hswings, hplace, rfl⟩
    exact ⟨e, hswings, hplace⟩
  · rintro ⟨e, hswings, hplace⟩
    exact ⟨(e, o), hswings, hplace, rfl⟩

/-! ## Who assists -/

theorem flashAssister?_eq_some_iff (hk : Keyed s) (hs : InStep s) {id : PlayerId} :
    s.flashAssister? c killer victim tick = some id ↔
      ∃ e, s.Swings c killer victim tick .leadsToKill e ∧ e.thrower ≠ killer ∧ e.thrower = id ∧
        ∀ e', s.Swings c killer victim tick .leadsToKill e' → e'.thrower ≠ killer → e' ≠ e → e.IsLater e' := by
  have hfirst {test : FlashEffect × FlashOutcome → Bool} {h : FlashEffect × FlashOutcome} :
      (s.swingingFlashes c killer victim tick).find? test = some h ↔ _ :=
    find?_eq_some_iff_of_pairwise (fun a b => FlashEffect.IsLater.asymm a.1 b.1)
      (pairwise_swingingFlashes hk c killer victim tick)
  unfold flashAssister?
  simp only [Option.map_eq_some_iff, hfirst, mem_swingingFlashes_iff hs, Bool.and_eq_true, decide_eq_true_eq, bne_iff_ne]
  constructor
  · rintro ⟨⟨e, o⟩, ⟨hswings, ⟨rfl, hother⟩, hlast⟩, rfl⟩
    refine ⟨e, hswings, hother, rfl, fun e' hswings' hother' hne => ?_⟩
    exact hlast (e', .leadsToKill) hswings' ⟨rfl, hother'⟩ (fun heq => hne (congrArg Prod.fst heq))
  · rintro ⟨e, hswings, hother, rfl, hlast⟩
    refine ⟨(e, .leadsToKill), ⟨hswings, ⟨rfl, hother⟩, ?_⟩, rfl⟩
    rintro ⟨e', o⟩ hswings' ⟨rfl, hother'⟩ hne
    exact hlast e' hswings' hother' (fun heq => hne (congrArg (·, _) heq))

/-! ## In whatever order -/

/-- What flashes of a list have to do with a kill. -/
def attributeAmong (s : MatchState) (c : Config) (killer victim : PlayerId) (tick : Tick) (flashes : List FlashEffect) :
    MatchState × Option PlayerId :=
  let swinging := s.swingingAmong c killer victim tick flashes
  (swinging.foldl markFlash s,
    (swinging.find? (fun h => h.2 = .leadsToKill && h.1.thrower != killer)).map (·.1.thrower))

theorem attributeAmong_of_perm (hk : Keyed s) {flashes : List FlashEffect} (hp : flashes.Perm s.tables.flashes.values) :
    s.attributeAmong c killer victim tick flashes = s.attributeFlashes c killer victim tick := by
  unfold attributeAmong
  rw [swingingAmong_of_perm hk hp]
  rfl

end MatchState

namespace Processor

variable {header : Header} {config : Config} {p q : Processor}

/-- **What flashes have to do with a kill.**  In every state of a match, in progress or closed, and for any kill: the
thrower of the latest flash that leads to it, the killer's own excepted, assists it; the records of the flashes that lead
to the kill, and of those that lead to the death, are marked as such, no mark is taken back, and nothing else changes; and
all of this whatever the order in which the flashes are looked through. -/
theorem flashes_attributed (h : Fresh header config p) (hq : Follows p q) (c : Config) (killer victim : PlayerId)
    (tick : Tick) :
    (∀ id, (q.state.attributeFlashes c killer victim tick).2 = some id ↔
      ∃ e, q.state.Swings c killer victim tick .leadsToKill e ∧ e.thrower ≠ killer ∧ e.thrower = id ∧
        ∀ e', q.state.Swings c killer victim tick .leadsToKill e' → e'.thrower ≠ killer → e' ≠ e → e.IsLater e') ∧
    (∃ grenades, (q.state.attributeFlashes c killer victim tick).1 = { q.state with grenades } ∧
      grenades.length = q.state.grenades.length ∧
      ∀ i g, q.state.grenades[i]? = some g → ∃ g', grenades[i]? = some g' ∧
        g' = { g with leadsToKill := g'.leadsToKill, leadsToDeath := g'.leadsToDeath } ∧
        ∀ o, g'.isMarked o = true ↔
          g.isMarked o = true ∨ ∃ e, q.state.Swings c killer victim tick o e ∧ e.grenade = some i) ∧
    ∀ flashes : List FlashEffect, flashes.Perm q.state.tables.flashes.values →
      q.state.attributeAmong c killer victim tick flashes = q.state.attributeFlashes c killer victim tick := by
  have hs := h.inStep hq
  have hk := h.keyed_of_follows hq
  have hp := h.placed_of_follows hq
  exact ⟨fun id => MatchState.flashAssister?_eq_some_iff hk hs, MatchState.markFlashes_records hp hs c killer victim tick,
    fun flashes hperm => MatchState.attributeAmong_of_perm hk hperm⟩

/-- Player 2 is blinded by an enemy, player 1, and then by a teammate, player 4, and is killed by player 3 at tick 70:
player 1 assists, whose flash leads to the kill, and the flash of player 4 leads to the death.  A blinding of two seconds
lasts, and the window is open for six ticks at least. -/
theorem flashes_attributed_to_enemy_and_teammate :
    ∃ q : Processor,
      q = ({ config := {}, state := MatchState.new { mapName := "de_dust2" } {} } : Processor).after
        [⟨0, .playerConnect { id := 1, allegiance := .counterTerrorist }⟩,
         ⟨0, .playerConnect { id := 2, allegiance := .terrorist }⟩,
         ⟨0, .playerConnect { id := 3, allegiance := .counterTerrorist }⟩,
         ⟨0, .playerConnect { id := 4, allegiance := .terrorist }⟩, ⟨1, .roundStart⟩,
         ⟨50, .projectileThrow { entity := 9, weapon := .flashbang, position := .zero
                                 thrower := some { id := 1, allegiance := .counterTerrorist } }⟩,
         ⟨50, .projectileThrow { entity := 10, weapon := .flashbang, position := .zero
                                 thrower := some { id := 4, allegiance := .terrorist } }⟩,
         ⟨64, .flashExplode { entity := 9, weapon := .flashbang, position := .zero
                              thrower := some { id := 1, allegiance := .counterTerrorist } }⟩,
         ⟨64, .playerFlashed { player := some { id := 2, allegiance := .terrorist }, duration := 2
                               attacker := some { id := 1, allegiance := .counterTerrorist } }⟩,
         ⟨66, .flashExplode { entity := 10, weapon := .flashbang, position := .zero
                              thrower := some { id := 4, allegiance := .terrorist } }⟩,
         ⟨66, .playerFlashed { player := some { id := 2, allegiance := .terrorist }, duration := 2
                               attacker := some { id := 4, allegiance := .terrorist } }⟩] ∧
      (¬ Float32.toFloat 2 ≤ 0 → 6 ≤ Clock.ticks 4.5 64 →
        (q.state.attributeFlashes {} 3 2 70).2 = some 1 ∧
        ∃ g g', (q.state.attributeFlashes {} 3 2 70).1.grenades[0]? = some g ∧ g.leadsToKill = true ∧
          (q.state.attributeFlashes {} 3 2 70).1.grenades[1]? = some g' ∧ g'.leadsToDeath = true) := by
  have h : Fresh { mapName := "de_dust2" } {} _ := .default rfl
  refine ⟨_, rfl, fun hlasts hopen => ?_⟩
  generalize hq : Processor.after _ _ = q
  have hfollows : Follows _ q := hq ▸ follows_after _ _
  -- the events that blind somebody are taken by hand, since the length of a second is not computed
  have hnext (s : MatchState) (player attacker : Actor) (tick : Tick) (ho : s.round.isOpen = true) :=
    MatchState.next_playerFlashed {} tick { player := some player, duration := 2, attacker := some attacker } ho rfl rfl
      hlasts
  let first : FlashEffect :=
    { entity := 9, round := 1, tick := 64, position := .zero, thrower := 1, grenade := some 0
      affected := [⟨2, true, Float32.toFloat 2⟩] }
  let second : FlashEffect :=
    { entity := 10, round := 1, tick := 66, position := .zero, thrower := 4, grenade := some 1
      affected := [⟨2, false, Float32.toFloat 2⟩] }
  obtain ⟨hnumber, hrate, hmates, hfoes, hrecords, hvalues⟩ :
      q.state.round.number = 1 ∧ q.state.tickRate = 64 ∧ q.state.sameTeam? 1 3 = some true ∧
      q.state.sameTeam? 4 3 = some false ∧ q.state.grenades.length = 2 ∧
      q.state.tables.flashes.values = [first, second] := by
    rw [← hq, h.after_state]
    simp only [List.foldl_cons, List.foldl_nil]
    rw [hnext _ _ { id := 1, allegiance := .counterTerrorist } _ (by decide +kernel),
      hnext _ _ { id := 4, allegiance := .terrorist } _ (by decide +kernel)]
    exact ⟨by decide +kernel, by decide +kernel, by decide +kernel, by decide +kernel, by decide +kernel, rfl⟩
  have hknown (e : FlashEffect) : (∃ entity, q.state.tables.flashes.get? entity = some e) ↔ e = first ∨ e = second := by
    rw [← Table.mem_values_iff, hvalues, List.mem_pair]
  have hwindow : 6 ≤ Clock.ticks ({} : Config).flashWindowSeconds q.state.tickRate := by
    rw [hrate]
    exact hopen
  have hkill : q.state.Swings {} 3 2 70 .leadsToKill first :=
    { known := (hknown first).2 (.inl rfl)
      round := hnumber.symm
      before := by decide
      recent := Int.le_trans (by decide) hwindow
      blinded := ⟨_, List.mem_singleton_self _, rfl, rfl⟩
      team := hmates }
  have hdeath : q.state.Swings {} 3 2 70 .leadsToDeath second :=
    { known := (hknown second).2 (.inr rfl)
      round := hnumber.symm
      before := by decide
      recent := Int.le_trans (by decide) hwindow
      blinded := ⟨_, List.mem_singleton_self _, rfl, rfl⟩
      team := hfoes }
  obtain ⟨hassist, ⟨grenades, heq, -, hmarks⟩, -⟩ := flashes_attributed h hfollows {} 3 2 70
  refine ⟨(hassist 1).2 ⟨first, hkill, by decide, rfl, fun e he _ hne => ?_⟩, ?_⟩
  · -- the other flash was thrown by the other team
    rcases (hknown e).1 he.known with rfl | rfl
    · exact absurd rfl hne
    · cases hfoes.symm.trans he.team
  · obtain ⟨g, hg, -, hmarked⟩ := hmarks 0 _ (List.getElem?_eq_getElem (by omega))
    obtain ⟨g', hg', -, hmarked'⟩ := hmarks 1 _ (List.getElem?_eq_getElem (by omega))
    rw [heq]
    exact ⟨g, g', hg, (hmarked .leadsToKill).2 (.inr ⟨first, hkill, rfl⟩), hg',
      (hmarked' .leadsToDeath).2 (.inr ⟨second, hdeath, rfl⟩)⟩

end Processor

end Scorebook
