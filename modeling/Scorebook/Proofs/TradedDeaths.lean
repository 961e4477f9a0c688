import Mathlib.Data.Set.Card
import Mathlib.Order.Bounds.Basic
import Scorebook.Proofs.Choosing
import Scorebook.Proofs.Counting
import Scorebook.Proofs.Trades
/-!
# When a death is traded

What a trade is can be said of the gunfights of a round alone.  A teammate of the dead has a chance to trade the death
if the player has not left the round and was last or next shown within reach (`IsNear`), and trades it by the first
gunfight after it that avenges it in time (`IsTrader`).  The trades that are detected are counted by this rule
(`detect_counts_chances`).
-/
namespace Scorebook

/-- What is counted over the items of a list with their places, is counted over the places. -/
theorem countP_zipIdx {α : Type} (p : α × Nat → Bool) (l : List α) :
    l.zipIdx.countP p = {i | ∃ a ∈ l[i]?, p (a, i) = true}.ncard := by
  have hnodup : ((l.zipIdx.filter p).map (·.2)).Nodup := by
    refine (List.filter_sublist.map _).nodup ?_
    rw [List.zipIdx_map_snd]
    exact List.nodup_range'
  have hset : {i | ∃ a ∈ l[i]?, p (a, i) = true} = ((l.zipIdx.filter p).map (·.2)).toFinset := by
    ext i
    simp [List.mem_zipIdx_iff_getElem?]
  rw [hset, Set.ncard_coe_finset, List.toFinset_card_of_nodup hnodup, List.length_map, List.countP_eq_length_filter]

namespace Trade

section Rule

/-- A gunfight shows a player at a position, as its killer or else as its victim. -/
def Shows (g : Gunfight) (id : PlayerId) (position : Vector3) : Prop :=
  g.killer.id = id ∧ g.killer.position = position ∨
    g.killer.id ≠ id ∧ g.victim.id = id ∧ g.victim.position = position

variable (roster : Table PlayerId Side) (fights : List Gunfight) (exits : List Exit) (window : Window)

/-- A gunfight shows a player at a position, and of those that show the player none is nearer to the tick, nor as near
and earlier in the list. -/
def ShownNearest (id : PlayerId) (tick : Tick) (position : Vector3) : Prop :=
  ∃ before g later, fights = before ++ g :: later ∧ Shows g id position ∧
    (∀ x ∈ before, (∃ elsewhere, Shows x id elsewhere) → Tick.apart tick g.tick < Tick.apart tick x.tick) ∧
    ∀ x ∈ later, (∃ elsewhere, Shows x id elsewhere) → Tick.apart tick g.tick ≤ Tick.apart tick x.tick

/-- A player has a chance to trade a death: the player is on the side of the dead, which is that of the roster or else
that of the gunfight, has not left the round, and was shown within reach. -/
structure IsNear (death : Gunfight) (id : PlayerId) : Prop where
  enemy : death.isTeamKill = false
  teammate : ∃ side, (roster.get? death.victim.id <|> death.victim.side) = some side ∧ roster.get? id = some side
  other : id ≠ death.victim.id
  present : ∀ x ∈ exits, x.player = id → death.tick < x.tick
  close : ∃ position, ShownNearest fights id death.tick position ∧
    position.distance death.victim.position ≤ window.distance

/-- A gunfight avenges a death: its killer, who had a chance to, kills the killer of the dead in time. -/
structure Avenges (death later : Gunfight) : Prop where
  inTime : later.tick - death.tick ≤ window.ticks
  killer : later.victim.id = death.killer.id
  enemy : later.isTeamKill = false
  near : IsNear roster fights exits window death later.killer.id

/-- A player trades the death in gunfight `i` by the first gunfight after it that avenges it. -/
def IsTrader (i : Nat) (id : PlayerId) : Prop :=
  ∃ death ∈ fights[i]?, ∃ j,
    IsLeast {j | i < j ∧ ∃ later ∈ fights[j]?, Avenges roster fights exits window death later} j ∧
      ∃ later ∈ fights[j]?, later.killer.id = id

end Rule

variable {roster : Table PlayerId Side} {fights : List Gunfight} {exits : List Exit} {window : Window}

/-! ## Who is near -/

theorem shows_iff {g : Gunfight} {id : PlayerId} {position : Vector3} :
    Shows g id position ↔ ∃ c ∈ g.combatant? id, c.position = position := by
  unfold Shows Gunfight.combatant?
  by_cases hkiller : g.killer.id = id
  · simp [hkiller]
  · by_cases hvictim : g.victim.id = id <;> simp [hkiller, hvictim]

theorem positionNear?_eq_some_iff {id : PlayerId} {tick : Tick} {position : Vector3} :
    positionNear? fights id tick = some position ↔ ShownNearest fights id tick position := by
  -- what holds at the ticks of a list of positions, holds at the gunfights that show the player
  have hticks (l : List Gunfight) (P : Tick → Prop) :
      (∀ x ∈ l.filterMap (fun g => (g.combatant? id).map (fun c => (g.tick, c.position))), P x.1) ↔
        ∀ g ∈ l, (∃ elsewhere, Shows g id elsewhere) → P g.tick := by
    constructor
    · rintro h g hg ⟨elsewhere, hshows⟩
      obtain ⟨c, hc, -⟩ := shows_iff.1 hshows
      exact h _ (List.mem_filterMap.2 ⟨g, hg, by rw [hc]; rfl⟩)
    · intro h x hx
      obtain ⟨g, hg, hs⟩ := List.mem_filterMap.1 hx
      obtain ⟨c, hc, rfl⟩ := Option.map_eq_some_iff.1 hs
      exact h g hg ⟨c.position, shows_iff.2 ⟨c, hc, rfl⟩⟩
  unfold positionNear? ShownNearest
  rw [Option.map_eq_some_iff]
  constructor
  · rintro ⟨x, hx, rfl⟩
    obtain ⟨before, later, hl, hbefore, hlater⟩ := nearestTo?_eq_some_iff.1 hx
    obtain ⟨l₁, g, l₂, rfl, rfl, hg, rfl⟩ := filterMap_eq_split.1 hl
    obtain ⟨c, hc, rfl⟩ := Option.map_eq_some_iff.1 hg
    exact ⟨l₁, g, l₂, rfl, shows_iff.2 ⟨c, hc, rfl⟩,
      (hticks l₁ (Tick.apart tick g.tick < Tick.apart tick ·)).1 hbefore,
      (hticks l₂ (Tick.apart tick g.tick ≤ Tick.apart tick ·)).1 hlater⟩
  · rintro ⟨l₁, g, l₂, rfl, hshows, hbefore, hlater⟩
    obtain ⟨c, hc, rfl⟩ := shows_iff.1 hshows
    have hg : (g.combatant? id).map (fun c => (g.tick, c.position)) = some (g.tick, c.position) := by
      rw [hc]
      rfl
    exact ⟨_, nearestTo?_eq_some_iff.2 ⟨_, _, filterMap_eq_split.2 ⟨l₁, g, l₂, rfl, rfl, hg, rfl⟩,
      (hticks l₁ (Tick.apart tick g.tick < Tick.apart tick ·)).2 hbefore,
      (hticks l₂ (Tick.apart tick g.tick ≤ Tick.apart tick ·)).2 hlater⟩, rfl⟩

/-- Somebody's first exit is after a tick if every exit is. -/
theorem all_firstExit?_iff {id : PlayerId} {tick : Tick} :
    (firstExit? exits id).all (fun left => tick < left) = true ↔ ∀ x ∈ exits, x.player = id → tick < x.tick := by
  have hmem : ∀ left, left ∈ (exits.filter (·.player = id)).map (·.tick) ↔
      ∃ x ∈ exits, x.player = id ∧ x.tick = left := by
    simp [and_assoc]
  unfold firstExit?
  cases hmin : ((exits.filter (·.player = id)).map (·.tick)).min? with
  | none =>
    rw [List.min?_eq_none_iff] at hmin
    refine ⟨fun _ x hx hid => ?_, fun _ => rfl⟩
    have := (hmem x.tick).2 ⟨x, hx, hid, rfl⟩
    rw [hmin] at this
    cases this
  | some first =>
    obtain ⟨hfirst, hle⟩ := List.min?_eq_some_iff.1 hmin
    rw [Option.all_some, decide_eq_true_iff]
    constructor
    · intro hlt x hx hid
      exact Int.lt_of_lt_of_le hlt (hle x.tick ((hmem _).2 ⟨x, hx, hid, rfl⟩))
    · intro h
      obtain ⟨x, hx, hid, rfl⟩ := (hmem first).1 hfirst
      exact h x hx hid

theorem mem_near_iff {death : Gunfight} {side : Side} {id : PlayerId} :
    id ∈ near roster fights exits window death side ↔
      roster.get? id = some side ∧ id ≠ death.victim.id ∧ (∀ x ∈ exits, x.player = id → death.tick < x.tick) ∧
        ∃ position, ShownNearest fights id death.tick position ∧
          position.distance death.victim.position ≤ window.distance := by
  have hteammate : id ∈ (roster.entries.filter (fun e => e.2 = side && e.1 != death.victim.id)).map (·.1) ↔
      roster.get? id = some side ∧ id ≠ death.victim.id := by
    rw [List.mem_map]
    constructor
    · rintro ⟨e, he, rfl⟩
      obtain ⟨hmem, hkey⟩ := List.mem_filter.1 he
      simp only [Bool.and_eq_true, decide_eq_true_eq, bne_iff_ne] at hkey
      exact ⟨hkey.1 ▸ Table.mem_entries_iff.1 hmem, hkey.2⟩
    · rintro ⟨hget, hne⟩
      exact ⟨(id, side), List.mem_filter.2 ⟨Table.mem_entries_iff.2 hget, by simpa using hne⟩, rfl⟩
  have hclose : (positionNear? fights id death.tick).any (fun p => p.distance death.victim.position ≤ window.distance) =
      true ↔ ∃ position, ShownNearest fights id death.tick position ∧
        position.distance death.victim.position ≤ window.distance := by
    simp only [Option.any_eq_true, decide_eq_true_eq, positionNear?_eq_some_iff]
  unfold near
  rw [List.mem_filter, hteammate, Bool.and_eq_true, all_firstExit?_iff, hclose, and_assoc]

theorem nodup_near (death : Gunfight) (side : Side) : (near roster fights exits window death side).Nodup := by
  have hkeys : (roster.entries.map (·.1)).Nodup := roster.keys_nodup
  exact (List.filter_sublist.trans (List.filter_sublist.map _)).nodup hkeys

/-! ## One death -/

section Death

variable {death : Gunfight} {i : Nat} {id : PlayerId}

theorem chance?_eq_some_iff {chance : Chance} :
    chance? roster fights exits window death i = some chance ↔
      death.isTeamKill = false ∧ ∃ side, victimSide? roster death = some side ∧
        chance =
          { victim := death.victim.id
            near := near roster fights exits window death side
            trader := trader? fights window (near roster fights exits window death side) death i } := by
  unfold chance?
  cases ht : death.isTeamKill with
  | true => simp
  | false => simp [eq_comm]

/-- Who is on the list of a death had a chance to trade it. -/
theorem exists_near_iff :
    (∃ chance ∈ chance? roster fights exits window death i, id ∈ chance.near) ↔
      IsNear roster fights exits window death id := by
  constructor
  · rintro ⟨chance, hchance, hnear⟩
    obtain ⟨henemy, side, hside, rfl⟩ := chance?_eq_some_iff.1 hchance
    obtain ⟨hget, hother, hpresent, hclose⟩ := mem_near_iff.1 hnear
    exact ⟨henemy, ⟨side, hside, hget⟩, hother, hpresent, hclose⟩
  · rintro ⟨henemy, ⟨side, hside, hget⟩, hother, hpresent, hclose⟩
    exact ⟨_, chance?_eq_some_iff.2 ⟨henemy, side, hside, rfl⟩, mem_near_iff.2 ⟨hget, hother, hpresent, hclose⟩⟩

/-- The trader of a death made the first kill after it that avenges it. -/
theorem exists_trader_iff (hi : fights[i]? = some death) :
    (∃ chance ∈ chance? roster fights exits window death i, chance.trader = some id) ↔
      IsTrader roster fights exits window i id := by
  -- once an enemy has killed somebody of a side, the test of the search is the rule
  have htest {side : Side} (henemy : death.isTeamKill = false) (hside : victimSide? roster death = some side)
      (later : Gunfight) :
      (later.tick - death.tick ≤ window.ticks && later.victim.id = death.killer.id && !later.isTeamKill &&
        (near roster fights exits window death side).contains later.killer.id) = true ↔
      Avenges roster fights exits window death later := by
    simp only [Bool.and_eq_true, decide_eq_true_eq, Bool.not_eq_true', List.contains_iff_mem, mem_near_iff]
    constructor
    · rintro ⟨⟨⟨hticks, hkiller⟩, hkill⟩, hget, hother, hpresent, hclose⟩
      exact ⟨hticks, hkiller, hkill, henemy, ⟨side, hside, hget⟩, hother, hpresent, hclose⟩
    · rintro ⟨hticks, hkiller, hkill, -, ⟨side', hside', hget⟩, hother, hpresent, hclose⟩
      cases hside.symm.trans hside'
      exact ⟨⟨⟨hticks, hkiller⟩, hkill⟩, hget, hother, hpresent, hclose⟩
  have hfound {side : Side} (henemy : death.isTeamKill = false) (hside : victimSide? roster death = some side) :
      trader? fights window (near roster fights exits window death side) death i = some id ↔
        IsTrader roster fights exits window i id := by
    unfold trader?
    rw [Option.map_eq_some_iff, Prod.exists]
    simp only [findAfter?_ite_eq_some_iff, htest henemy hside, exists_eq_right]
    unfold IsTrader
    simp only [hi, Option.mem_some_iff, exists_eq_left']
  constructor
  · rintro ⟨chance, hchance, htrader⟩
    obtain ⟨henemy, side, hside, rfl⟩ := chance?_eq_some_iff.1 hchance
    exact (hfound henemy hside).1 htrader
  · intro h
    have hleast := h
    obtain ⟨_, hdeath, j, ⟨⟨-, _, -, havenges⟩, -⟩, -⟩ := hleast
    cases hi.symm.trans hdeath
    obtain ⟨side, hside, -⟩ := havenges.near.teammate
    have henemy := havenges.near.enemy
    exact ⟨_, chance?_eq_some_iff.2 ⟨henemy, side, hside, rfl⟩, (hfound henemy hside).2 h⟩

end Death

/-! ## All deaths -/

theorem nodup_near_of_mem {chance : Chance} (h : chance ∈ chances roster fights exits window) : chance.near.Nodup := by
  obtain ⟨⟨death, i⟩, -, hchance⟩ := List.mem_filterMap.1 h
  obtain ⟨-, side, -, rfl⟩ := chance?_eq_some_iff.1 hchance
  exact nodup_near death side

theorem count_flatMap_near (id : PlayerId) : ∀ {chances : List Chance}, (∀ chance ∈ chances, chance.near.Nodup) →
    (chances.flatMap (·.near)).count id = chances.countP (fun chance => chance.near.contains id)
  | [], _ => rfl
  | chance :: chances, h => by
    have hrest := count_flatMap_near id (fun c hc => h c (List.mem_cons_of_mem _ hc))
    rw [List.flatMap_cons, List.count_append, hrest, List.countP_cons, Nat.add_comm,
      (h chance List.mem_cons_self).count]
    simp only [List.contains_iff_mem]

/-- What is counted of the chances of a round, is counted over its gunfights. -/
theorem countP_chances (test : Chance → Bool) :
    (chances roster fights exits window).countP test =
      {i : Nat | ∃ death ∈ fights[i]?, ∃ chance ∈ chance? roster fights exits window death i,
        test chance = true}.ncard := by
  have htest (x : Option Chance) : (x.map test).getD false = true ↔ ∃ chance ∈ x, test chance = true := by
    cases x <;> simp
  unfold chances
  rw [List.countP_filterMap, countP_zipIdx]
  simp only [htest]

variable (roster fights exits window) in
theorem count_near (id : PlayerId) :
    ((chances roster fights exits window).flatMap (·.near)).count id =
      {i : Nat | ∃ death ∈ fights[i]?, IsNear roster fights exits window death id}.ncard := by
  rw [count_flatMap_near id (fun _ hc => nodup_near_of_mem hc), countP_chances]
  simp only [List.contains_iff_mem, exists_near_iff]

variable (roster fights exits window) in
theorem count_traders (id : PlayerId) :
    ((chances roster fights exits window).filterMap (·.trader)).count id =
      {i | IsTrader roster fights exits window i id}.ncard := by
  rw [List.count_filterMap, countP_chances]
  refine congrArg Set.ncard (Set.ext (fun i => ?_))
  constructor
  · rintro ⟨death, hdeath, hchance⟩
    exact (exists_trader_iff hdeath).1 (by simpa using hchance)
  · intro h
    have htrader := h
    obtain ⟨death, hdeath, -⟩ := htrader
    exact ⟨death, hdeath, by simpa using (exists_trader_iff hdeath).2 h⟩

variable (roster fights exits window) in
theorem exists_traded_iff (id : PlayerId) :
    (∃ chance ∈ chances roster fights exits window, chance.trader.isSome = true ∧ chance.victim = id) ↔
      ∃ i trader, IsTrader roster fights exits window i trader ∧ ∃ death ∈ fights[i]?, death.victim.id = id := by
  constructor
  · rintro ⟨chance, hmem, htraded, rfl⟩
    obtain ⟨⟨death, i⟩, hplace, hchance⟩ := List.mem_filterMap.1 hmem
    obtain ⟨trader, htrader⟩ := Option.isSome_iff_exists.1 htraded
    have hdeath := List.mem_zipIdx_iff_getElem?.1 hplace
    refine ⟨i, trader, (exists_trader_iff hdeath).1 ⟨chance, hchance, htrader⟩, death, hdeath, ?_⟩
    obtain ⟨-, side, -, rfl⟩ := chance?_eq_some_iff.1 hchance
    rfl
  · rintro ⟨i, trader, h, death, hdeath, rfl⟩
    obtain ⟨chance, hchance, htrader⟩ := (exists_trader_iff hdeath).2 h
    refine ⟨chance, List.mem_filterMap.2 ⟨(death, i), List.mem_zipIdx_iff_getElem?.2 hdeath, hchance⟩,
      Option.isSome_iff_exists.2 ⟨trader, htrader⟩, ?_⟩
    obtain ⟨-, side, -, rfl⟩ := chance?_eq_some_iff.1 hchance
    rfl

theorem totalCount_tally (ids : List PlayerId) : totalCount (fun n => n) (tally ids).values = ids.length := by
  have hmem : ∀ id ∈ ids, id ∈ (tally ids).keys := by
    intro id hid
    refine Table.contains_iff_mem_keys.1 (Table.contains_iff.2 ⟨ids.count id, ?_⟩)
    rw [get?_tally, if_neg (List.count_pos_iff.2 hid).ne']
  have hcount := totalCount_countP (f := fun id => id) (tally ids).keys_nodup hmem
  rw [← Table.map_getD_keys _ 0, totalCount_map, ← hcount]
  exact totalCount_congr (fun id _ => (getD_tally ids id).trans List.count_eq_countP)

variable (roster fights exits window) in
/-- There is at most one chance for each death by an enemy. -/
theorem length_chances_le :
    (chances roster fights exits window).length ≤ fights.countP (fun g => !g.isTeamKill) := by
  have henemy : ∀ e ∈ fights.zipIdx, (chance? roster fights exits window e.1 e.2).isSome = true →
      (!e.1.isTeamKill) = true := by
    intro e _ hsome
    obtain ⟨chance, hchance⟩ := Option.isSome_iff_exists.1 hsome
    rw [(chance?_eq_some_iff.1 hchance).1]
    rfl
  have hfights : fights.countP (fun g => !g.isTeamKill) = fights.zipIdx.countP (fun e => !e.1.isTeamKill) := by
    conv_lhs => rw [← List.zipIdx_map_fst 0 fights, List.countP_map]
    rfl
  unfold chances
  rw [List.length_filterMap_eq_countP, hfights]
  exact List.countP_mono_left henemy

/-- **The trades of a round are counted by the rule.**  A player has had as many chances to trade as there are gunfights
whose dead the player was near, and has traded as many deaths as there are gunfights that the player is the trader of;
the deaths that were traded are those of gunfights with a trader.  Nobody trades more deaths than the player had chances
to, and there are at most as many trades as deaths by an enemy. -/
theorem detect_counts_chances (roster : Table PlayerId Side) (fights : List Gunfight) (exits : List Exit)
    (window : Window) :
    (∀ id n, (detect roster fights exits window).opportunities.get? id = some n ↔
      0 < n ∧ n = {i : Nat | ∃ death ∈ fights[i]?, IsNear roster fights exits window death id}.ncard) ∧
    (∀ id n, (detect roster fights exits window).kills.get? id = some n ↔
      0 < n ∧ n = {i | IsTrader roster fights exits window i id}.ncard) ∧
    (∀ id, (detect roster fights exits window).tradedDeaths.contains id = true ↔
      ∃ i trader, IsTrader roster fights exits window i trader ∧ ∃ death ∈ fights[i]?, death.victim.id = id) ∧
    (∀ id, ((detect roster fights exits window).kills.get? id).getD 0 ≤
      ((detect roster fights exits window).opportunities.get? id).getD 0) ∧
    totalCount (fun n => n) (detect roster fights exits window).kills.values ≤
      fights.countP (fun g => !g.isTeamKill) := by
  have htally (ids : List PlayerId) (id n : Nat) : (tally ids).get? id = some n ↔ 0 < n ∧ n = ids.count id := by
    rw [get?_tally]
    split <;> simp <;> omega
  refine ⟨fun id n => ?_, fun id n => ?_, fun id => ?_, kills_le_opportunities roster fights exits window, ?_⟩
  · rw [← count_near]
    exact htally _ id n
  · rw [← count_traders]
    exact htally _ id n
  · rw [← exists_traded_iff, detect]
    simp [Table.contains_ofList, and_assoc]
  · calc totalCount (fun n => n) (detect roster fights exits window).kills.values
        = ((chances roster fights exits window).filterMap (·.trader)).length := totalCount_tally _
      _ ≤ (chances roster fights exits window).length := List.length_filterMap_le _ _
      _ ≤ fights.countP (fun g => !g.isTeamKill) := length_chances_le roster fights exits window

/-- Player 2 is near when player 4 kills player 5, and when player 3 kills player 1, who is not on the roster; player 2
kills player 3 in time, which trades the second death.  Player 4 is near when player 3 dies, and trades nothing.  Player 6
was shown too far away to have a chance, and player 5 has left. -/
theorem detect_counts_chances_of_trade :
    let shown (id : PlayerId) (x : Float32) : Combatant :=
      { (default : Combatant) with id, side := if id = 1 then some .ct else none, position := ⟨x, 0, 0⟩ }
    let fight (tick : Tick) (killer victim : Combatant) : Gunfight :=
      { (default : Gunfight) with tick, killer, victim }
    let roster : Table PlayerId Side := Table.ofList [(2, .ct), (3, .t), (4, .t), (5, .ct), (6, .ct)]
    let fights :=
      [fight 90 (shown 4 0) (shown 5 100), fight 100 (shown 3 0) (shown 1 100), fight 120 (shown 2 300) (shown 3 0),
       fight 900 (shown 4 1000) (shown 6 2000)]
    let left (tick : Tick) (player : PlayerId) : Exit := { (default : Exit) with tick, player }
    let exits := [left 90 5, left 100 1, left 120 3, left 900 6]
    let window : Window := { distance := 500, ticks := 320 }
    let found := detect roster fights exits window
    (found.opportunities.entries = [(2, 2), (4, 1)] ∧ found.kills.entries = [(2, 1)] ∧
        found.tradedDeaths.keys = [1]) ∧
      {i : Nat | ∃ death ∈ fights[i]?, IsNear roster fights exits window death 2}.ncard = 2 ∧
      {i | IsTrader roster fights exits window i 2}.ncard = 1 := by
  intro shown fight roster fights left exits window found
  obtain ⟨hchances, htrades, -⟩ := detect_counts_chances roster fights exits window
  have hentries : found.opportunities.entries = [(2, 2), (4, 1)] ∧ found.kills.entries = [(2, 1)] ∧
      found.tradedDeaths.keys = [1] := by decide +kernel
  have hchance : found.opportunities.get? 2 = some 2 := by decide +kernel
  have htrade : found.kills.get? 2 = some 1 := by decide +kernel
  exact ⟨hentries, ((hchances 2 2).1 hchance).2.symm, ((htrades 2 1).1 htrade).2.symm⟩

end Trade

end Scorebook
