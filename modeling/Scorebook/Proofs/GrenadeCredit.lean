import Mathlib.Data.Set.Card
import Scorebook.Proofs.Choosing
import Scorebook.Proofs.Counting
/-!
# Which grenade dealt the damage

Of the grenades that can have dealt a damage (`CouldDeal`), the one that detonated last dealt it, and of several that
detonated together the last on record (`DealtBy`).  Crediting the damage of a round names this grenade at every damage,
and enters at every grenade of the round the damage that it dealt and how many it hit (`damage_credited`): no damage is
lost, and none is counted twice.
-/
namespace Scorebook

/-! ## Totals -/

/-- **What has a key is totalled once over all keys.** -/
theorem total_keys {α κ : Type} [DecidableEq κ] {key? : α → Option κ} (f : α → Int) :
    ∀ {keys : List κ}, keys.Nodup → ∀ {l : List α}, (∀ a ∈ l, ∀ k ∈ key? a, k ∈ keys) →
      total (fun k => total f (l.filter (fun a => key? a = some k))) keys = total f (l.filter (fun a => (key? a).isSome))
  | [], _, l, h => by
    have hnone : l.filter (fun a => (key? a).isSome) = [] := by
      refine List.filter_eq_nil_iff.2 (fun a ha hsome => ?_)
      obtain ⟨k, hk⟩ := Option.isSome_iff_exists.1 hsome
      exact absurd (h a ha k hk) List.not_mem_nil
    rw [hnone]
    rfl
  | k :: keys, hk, l, h => by
    obtain ⟨hnew, hk⟩ := List.nodup_cons.1 hk
    -- the other keys are those of what does not have this key
    have hrest : total (fun k' => total f (l.filter (fun a => key? a = some k'))) keys =
        total f ((l.filter (fun a => (key? a).isSome)).filter (fun a => !decide (key? a = some k))) := by
      have hothers : ∀ a ∈ l.filter (fun a => !decide (key? a = some k)), ∀ k' ∈ key? a, k' ∈ keys := by
        intro a ha k' hk'
        obtain ⟨ha, hne⟩ := List.mem_filter.1 ha
        rcases List.mem_cons.1 (h a ha k' hk') with rfl | hmem
        · exact absurd hk' (by simpa using hne)
        · exact hmem
      rw [List.filter_comm, ← total_keys f hk hothers]
      refine total_congr (fun k' hk' => congrArg (total f) ?_)
      rw [List.filter_filter]
      refine List.filter_congr (fun a _ => ?_)
      have hne : k' ≠ k := fun heq => hnew (heq ▸ hk')
      by_cases ha : key? a = some k' <;> simp [ha, hne]
    have hthis : l.filter (fun a => key? a = some k) =
        (l.filter (fun a => (key? a).isSome)).filter (fun a => key? a = some k) := by
      rw [List.filter_filter]
      refine List.filter_congr (fun a _ => ?_)
      by_cases ha : key? a = some k <;> simp [ha]
    show total f (l.filter _) + total _ keys = _
    rw [hrest, hthis]
    exact total_filter_add f _ _

/-! ## Entries that are computed step by step -/

section Entries

open Std (TransOrd LawfulEqOrd)

variable {κ α β : Type} [Ord κ] [TransOrd κ] [LawfulEqOrd κ] [DecidableEq κ]

/-- **What a run over a list makes of the entry of a key, the items of that key make of it.** -/
theorem Table.getD_foldl_update (key? : β → Option κ) (add : α → β → α) {start : α} {step : Table κ α → β → Table κ α}
    (hnone : ∀ t b, key? b = none → step t b = t)
    (hsome : ∀ t b k, key? b = some k → step t b = t.update k (fun v => add (v.getD start) b)) (k : κ) :
    ∀ (items : List β) (t : Table κ α), ((items.foldl step t).get? k).getD start =
      (items.filter (fun b => key? b = some k)).foldl add ((t.get? k).getD start)
  | [], _ => rfl
  | b :: items, t => by
    rw [List.foldl_cons, getD_foldl_update key? add hnone hsome k items, List.filter_cons]
    cases hb : key? b with
    | none => simp [hnone t b hb]
    | some k' =>
      rw [hsome t b k' hb, Table.get?_update]
      by_cases hk : k' = k
      · simp [hk]
      · simp [hk]

/-- **The keys after such a run are those of its items, and those of before.** -/
theorem Table.contains_foldl_update (key? : β → Option κ) (value : Option α → β → α) {step : Table κ α → β → Table κ α}
    (hnone : ∀ t b, key? b = none → step t b = t)
    (hsome : ∀ t b k, key? b = some k → step t b = t.update k (fun v => value v b)) (k : κ) :
    ∀ (items : List β) (t : Table κ α),
      (items.foldl step t).contains k = true ↔ (∃ b ∈ items, key? b = some k) ∨ t.contains k = true
  | [], t => by simp
  | b :: items, t => by
    rw [List.foldl_cons, contains_foldl_update key? value hnone hsome k items]
    cases hb : key? b with
    | none => simp [hnone t b hb, hb]
    | some k' => simp [hsome t b k' hb, Table.update, contains_insert, hb, or_assoc, or_left_comm]

theorem Table.size_eq_ncard (t : Table κ α) : t.size = {k | t.contains k = true}.ncard := by
  have hset : {k | t.contains k = true} = t.keys.toFinset := by
    ext k
    simp [Table.contains_iff_mem_keys]
  rw [hset, Set.ncard_coe_finset, List.toFinset_card_of_nodup t.keys_nodup, Table.size_eq_length_keys]

end Entries

/-! ## The credit of a list of damages -/

namespace Credit

variable {test : Damage → Bool}

/-- **An amount that grows by the damages that pass a test, is their total.** -/
theorem amount_foldl {amount : Credit → Int}
    (hadd : ∀ c d, amount (add c d) = amount c + if test d then d.healthTaken else 0) (dealt : List Damage)
    (c : Credit) : amount (dealt.foldl add c) = amount c + healthTotal (dealt.filter test) := by
  induction dealt generalizing c with
  | nil => exact (Int.add_zero _).symm
  | cons d dealt ih =>
    rw [List.foldl_cons, ih, hadd, List.filter_cons, Int.add_assoc]
    cases test d with
    | true => rfl
    | false => simp

/-- **Players who are noted at the damages that pass a test, are the victims of these.** -/
theorem contains_foldl {noted : Credit → Table PlayerId Unit}
    (hadd : ∀ c d, noted (add c d) = if test d then (noted c).insert d.victim () else noted c) (dealt : List Damage)
    (c : Credit) (id : PlayerId) : (noted (dealt.foldl add c)).contains id = true ↔
      (∃ d ∈ dealt, test d = true ∧ d.victim = id) ∨ (noted c).contains id = true := by
  induction dealt generalizing c with
  | nil => simp
  | cons d dealt ih =>
    rw [List.foldl_cons, ih, hadd]
    cases hd : test d with
    | true => simp [hd, Table.contains_insert, or_assoc, or_left_comm]
    | false => simp [hd]

/-- How many players are noted, if nobody was before. -/
theorem size_foldl {noted : Credit → Table PlayerId Unit}
    (hadd : ∀ c d, noted (add c d) = if test d then (noted c).insert d.victim () else noted c) {c : Credit}
    (hnone : noted c = ∅) (dealt : List Damage) :
    (noted (dealt.foldl add c)).size = {id | ∃ d ∈ dealt, test d = true ∧ d.victim = id}.ncard := by
  rw [Table.size_eq_ncard]
  refine congrArg Set.ncard (Set.ext (fun id => (contains_foldl hadd dealt c id).trans ?_))
  rw [hnone]
  exact or_iff_left Bool.false_ne_true

variable (c : Credit) (d : Damage)

theorem enemyDamage_add : (c.add d).enemyDamage = c.enemyDamage + if d.isEnemyDamage then d.healthTaken else 0 := by
  unfold add
  cases d.isEnemyDamage with
  | true => rfl
  | false =>
    simp only [Bool.false_eq_true, if_false, Int.add_zero]
    split <;> rfl

theorem teamDamage_add : (c.add d).teamDamage = c.teamDamage + if !d.isEnemyDamage then d.healthTaken else 0 := by
  unfold add
  cases d.isEnemyDamage with
  | true => exact (Int.add_zero _).symm
  | false =>
    simp only [Bool.false_eq_true, if_false, Bool.not_false, if_true]
    split <;> rfl

theorem enemies_add : (c.add d).enemies = if d.isEnemyDamage then c.enemies.insert d.victim () else c.enemies := by
  unfold add
  cases d.isEnemyDamage with
  | true => rfl
  | false =>
    simp only [Bool.false_eq_true, if_false]
    split <;> rfl

theorem teammates_add :
    (c.add d).teammates = if d.isTeamDamage then c.teammates.insert d.victim () else c.teammates := by
  unfold add
  cases ht : d.isTeamDamage with
  | true =>
    have henemy : d.isEnemyDamage = false := by simp [Damage.isEnemyDamage, ht]
    simp [henemy]
  | false =>
    simp only [Bool.false_eq_true, if_false]
    split <;> rfl

end Credit

/-! ## The grenade behind a damage -/

/-- A grenade of a round can have dealt a damage: its thrower is the attacker, its kind deals damage of the weapon, and
it detonated before the damage, but not longer than an explosion or a fire goes on dealing damage. -/
structure Grenade.CouldDeal (c : Config) (tickRate : Float) (round : Nat) (d : Damage) (g : Grenade) : Prop where
  round : g.round = round
  thrower : d.attacker = some g.thrower
  kind : g.kind = .highExplosive ∧ d.weapon = .heGrenade ∨
    (g.kind = .molotov ∨ g.kind = .incendiary) ∧
      (d.weapon = .inferno ∨ d.weapon = .molotov ∨ d.weapon = .incendiary)
  inTime : 0 ≤ d.tick - g.detonationTick ∧ d.tick - g.detonationTick ≤
    Clock.ticks (if g.kind = .highExplosive then c.heDamageWindowSeconds else c.fireDamageWindowSeconds) tickRate

theorem GrenadeKind.dealsDamageAs_iff {k : GrenadeKind} {w : Weapon} :
    k.dealsDamageAs w = true ↔ k = .highExplosive ∧ w = .heGrenade ∨
      (k = .molotov ∨ k = .incendiary) ∧ (w = .inferno ∨ w = .molotov ∨ w = .incendiary) := by
  cases k <;> simp [dealsDamageAs, or_assoc]

/-- A grenade without the damage that is credited to it when its round closes, and what follows from that. -/
def Grenade.uncredited (g : Grenade) : Grenade :=
  { g with enemyDamage := 0, teamDamage := 0, enemiesDamaged := 0, teammatesDamaged := 0, rating := 0 }

namespace MatchState

variable {s t : MatchState} {round : Nat} {c : Config} {d d' : Damage} {i : Nat}

/-- The grenade at a place dealt a damage: it can have, and of those that can have it comes last, by the tick of the
detonation and then by place. -/
def DealtBy (s : MatchState) (round : Nat) (c : Config) (d : Damage) (i : Nat) : Prop :=
  ∃ g ∈ s.grenades[i]?, g.CouldDeal c s.tickRate round d ∧
    ∀ j, ∀ g' ∈ s.grenades[j]?, g'.CouldDeal c s.tickRate round d →
      toLex (g'.detonationTick, j) ≤ toLex (g.detonationTick, i)

theorem mem_candidates_iff {e : Grenade × Nat} :
    e ∈ s.grenades.zipIdx.filter (fun e => e.1.round = round && e.1.canHaveDealt c s.tickRate d) ↔
      s.grenades[e.2]? = some e.1 ∧ e.1.CouldDeal c s.tickRate round d := by
  rw [List.mem_filter, List.mem_zipIdx_iff_getElem?]
  refine and_congr_right (fun _ => ?_)
  simp only [Grenade.canHaveDealt, Bool.and_eq_true, decide_eq_true_eq, GrenadeKind.dealsDamageAs_iff]
  constructor
  · rintro ⟨hround, ⟨⟨hthrower, hkind⟩, hafter⟩, hticks⟩
    exact ⟨hround, hthrower, hkind, Int.sub_nonneg.2 hafter, hticks⟩
  · rintro ⟨hround, hthrower, hkind, hafter, hticks⟩
    exact ⟨hround, ⟨⟨hthrower, hkind⟩, Int.sub_nonneg.1 hafter⟩, hticks⟩

/-- **The search finds the grenade that dealt a damage.** -/
theorem damageSource?_eq_some_iff : s.damageSource? round c d = some i ↔ s.DealtBy round c d i := by
  -- the candidates stand in the order of their places
  have hordered : (s.grenades.zipIdx.filter (fun e => e.1.round = round && e.1.canHaveDealt c s.tickRate d)).Pairwise
      (fun a b => a.2 < b.2) := (pairwise_zipIdx _).filter _
  unfold damageSource?
  rw [Option.map_eq_some_iff]
  constructor
  · rintro ⟨⟨g, i⟩, hchosen, rfl⟩
    obtain ⟨hmem, hlast⟩ := (lastGreatest?_eq_some_iff_of_pairwise hordered).1 hchosen
    obtain ⟨hg, hcould⟩ := mem_candidates_iff.1 hmem
    exact ⟨g, hg, hcould, fun j g' hg' hcould' => hlast (g', j) (mem_candidates_iff.2 ⟨hg', hcould'⟩)⟩
  · rintro ⟨g, hg, hcould, hlast⟩
    refine ⟨(g, i), (lastGreatest?_eq_some_iff_of_pairwise hordered).2 ⟨mem_candidates_iff.2 ⟨hg, hcould⟩, ?_⟩, rfl⟩
    intro e he
    obtain ⟨he, hcould'⟩ := mem_candidates_iff.1 he
    exact hlast e.2 e.1 he hcould'

instance : Decidable (s.DealtBy round c d i) := decidable_of_iff _ damageSource?_eq_some_iff

/-- The damages of a round that the grenade at a place dealt. -/
def dealtBy (s : MatchState) (round : Nat) (c : Config) (i : Nat) : List Damage :=
  (s.damagesIn round).filter (fun d => s.DealtBy round c d i)

/-! ## What the crediting does not touch -/

theorem couldDeal_iff {tickRate : Float} {g : Grenade} :
    g.CouldDeal c tickRate round d ↔ g.uncredited.CouldDeal c tickRate round d.asDealt :=
  ⟨fun h => ⟨h.round, h.thrower, h.kind, h.inTime⟩, fun h => ⟨h.round, h.thrower, h.kind, h.inTime⟩⟩

theorem DealtBy.congr (hg : t.grenades.map Grenade.uncredited = s.grenades.map Grenade.uncredited)
    (hr : t.tickRate = s.tickRate) (hd : d'.asDealt = d.asDealt) (h : s.DealtBy round c d i) :
    t.DealtBy round c d' i := by
  have hsame (j : Nat) : (t.grenades[j]?).map Grenade.uncredited = (s.grenades[j]?).map Grenade.uncredited := by
    rw [← List.getElem?_map, hg, List.getElem?_map]
  have htick {g g' : Grenade} (h : g'.uncredited = g.uncredited) : g'.detonationTick = g.detonationTick :=
    congrArg (·.detonationTick) h
  have hcould {g g' : Grenade} (h : g'.uncredited = g.uncredited) :
      g'.CouldDeal c t.tickRate round d' ↔ g.CouldDeal c s.tickRate round d := by
    rw [couldDeal_iff, h, hd, hr, ← couldDeal_iff]
  obtain ⟨g, hplace, hdealt, hlast⟩ := h
  obtain ⟨g', hplace', heq⟩ := Option.map_eq_some_iff.1 ((hsame i).trans (congrArg _ hplace))
  refine ⟨g', hplace', (hcould heq).2 hdealt, fun j x' hx' hcx' => ?_⟩
  obtain ⟨x, hx, hxeq⟩ := Option.map_eq_some_iff.1 ((hsame j).symm.trans (congrArg _ hx'))
  rw [htick heq, ← htick hxeq]
  exact hlast j x hx ((hcould hxeq.symm).1 hcx')

theorem damageSource?_congr (hg : t.grenades.map Grenade.uncredited = s.grenades.map Grenade.uncredited)
    (hr : t.tickRate = s.tickRate) (hd : d'.asDealt = d.asDealt) :
    t.damageSource? round c d' = s.damageSource? round c d := by
  refine Option.ext (fun i => ?_)
  rw [damageSource?_eq_some_iff, damageSource?_eq_some_iff]
  exact ⟨DealtBy.congr hg.symm hr.symm hd.symm, DealtBy.congr hg hr hd⟩

/-! ## Crediting -/

/-- A damage with the grenade that dealt it, if it is of the round. -/
def attributed (s : MatchState) (round : Nat) (c : Config) (d : Damage) : Damage :=
  if d.round = round then
    { d with grenade := (s.damageSource? round c d).bind (fun i => (s.grenades[i]?).map (·.entity)) }
  else d

/-- A grenade with its credit, if it is of the round. -/
def credited (s : MatchState) (round : Nat) (c : Config) (i : Nat) (g : Grenade) : Grenade :=
  if g.round = round then withCredit g ((s.dealtBy round c i).foldl Credit.add {}) else g

theorem asDealt_attributed : (s.attributed round c d).asDealt = d.asDealt := by
  unfold attributed
  split <;> rfl

@[simp] theorem round_attributed : (s.attributed round c d).round = d.round := by
  unfold attributed
  split <;> rfl

@[simp] theorem victim_attributed : (s.attributed round c d).victim = d.victim := by
  unfold attributed
  split <;> rfl

@[simp] theorem healthTaken_attributed : (s.attributed round c d).healthTaken = d.healthTaken := by
  unfold attributed
  split <;> rfl

@[simp] theorem isTeamDamage_attributed : (s.attributed round c d).isTeamDamage = d.isTeamDamage := by
  unfold attributed
  split <;> rfl

@[simp] theorem isEnemyDamage_attributed : (s.attributed round c d).isEnemyDamage = d.isEnemyDamage := by
  unfold attributed
  split <;> rfl

theorem uncredited_credited {g : Grenade} : (s.credited round c i g).uncredited = g.uncredited := by
  unfold credited
  split <;> rfl

@[simp] theorem round_credited {g : Grenade} : (s.credited round c i g).round = g.round := by
  unfold credited
  split <;> rfl

@[simp] theorem entity_credited {g : Grenade} : (s.credited round c i g).entity = g.entity := by
  unfold credited
  split <;> rfl

theorem damages_creditGrenades : (s.creditGrenades round c).damages = s.damages.map (s.attributed round c) := rfl

theorem getD_credits : ((s.credits round c).get? i).getD {} = (s.dealtBy round c i).foldl Credit.add {} := by
  unfold credits dealtBy
  rw [Table.getD_foldl_update (s.damageSource? round c) Credit.add (fun t d h => by simp only [h])
    (fun t d i h => by simp only [h]), Table.get?_empty]
  simp only [damageSource?_eq_some_iff]
  rfl

theorem grenades_creditGrenades :
    (s.creditGrenades round c).grenades = s.grenades.zipIdx.map (fun e => s.credited round c e.2 e.1) := by
  unfold creditGrenades credited
  simp only [getD_credits]

theorem getElem?_grenades_creditGrenades (i : Nat) :
    (s.creditGrenades round c).grenades[i]? = (s.grenades[i]?).map (s.credited round c i) := by
  rw [grenades_creditGrenades, List.getElem?_map, List.getElem?_zipIdx, Option.map_map, Nat.zero_add]
  rfl

theorem map_asDealt_creditGrenades :
    (s.creditGrenades round c).damages.map Damage.asDealt = s.damages.map Damage.asDealt := by
  rw [damages_creditGrenades, List.map_map]
  exact List.map_congr_left (fun d _ => asDealt_attributed)

theorem map_uncredited_creditGrenades :
    (s.creditGrenades round c).grenades.map Grenade.uncredited = s.grenades.map Grenade.uncredited := by
  refine List.ext_getElem? (fun i => ?_)
  rw [List.getElem?_map, getElem?_grenades_creditGrenades, Option.map_map, List.getElem?_map]
  exact congrArg (Option.map · _) (funext (fun g => uncredited_credited))

/-- Once the damage is credited, the same grenade has dealt it. -/
theorem dealtBy_creditGrenades_iff (hd : d'.asDealt = d.asDealt) :
    (s.creditGrenades round c).DealtBy round c d' i ↔ s.DealtBy round c d i :=
  ⟨DealtBy.congr map_uncredited_creditGrenades.symm rfl hd.symm, DealtBy.congr map_uncredited_creditGrenades rfl hd⟩

theorem damagesIn_creditGrenades :
    (s.creditGrenades round c).damagesIn round = (s.damagesIn round).map (s.attributed round c) := by
  unfold damagesIn
  rw [damages_creditGrenades, List.filter_map]
  simp only [Function.comp_def, round_attributed]

theorem dealtBy_creditGrenades :
    (s.creditGrenades round c).dealtBy round c i = (s.dealtBy round c i).map (s.attributed round c) := by
  unfold dealtBy
  rw [damagesIn_creditGrenades, List.filter_map]
  simp only [Function.comp_def, dealtBy_creditGrenades_iff asDealt_attributed]

/-- What a grenade of the round is credited with. -/
theorem credited_eq {g : Grenade} (h : g.round = round) :
    (s.credited round c i g).enemyDamage = healthTotal ((s.dealtBy round c i).filter (·.isEnemyDamage)) ∧
      (s.credited round c i g).teamDamage = healthTotal ((s.dealtBy round c i).filter (!·.isEnemyDamage)) ∧
      (s.credited round c i g).enemiesDamaged =
        {id | ∃ d ∈ s.dealtBy round c i, d.isEnemyDamage = true ∧ d.victim = id}.ncard ∧
      (s.credited round c i g).teammatesDamaged =
        {id | ∃ d ∈ s.dealtBy round c i, d.isTeamDamage = true ∧ d.victim = id}.ncard := by
  unfold credited
  rw [if_pos h]
  refine ⟨?_, ?_, ?_, ?_⟩
  · exact (Credit.amount_foldl Credit.enemyDamage_add _ _).trans (Int.zero_add _)
  · exact (Credit.amount_foldl Credit.teamDamage_add _ _).trans (Int.zero_add _)
  · exact Credit.size_foldl Credit.enemies_add rfl _
  · exact Credit.size_foldl Credit.teammates_add rfl _

/-- The places of the grenades of a round. -/
def placesIn (s : MatchState) (round : Nat) : List Nat :=
  (s.grenades.zipIdx.filter (fun e => e.1.round = round)).map (·.2)

theorem grenadesIn_creditGrenades : (s.creditGrenades round c).grenadesIn round =
    (s.grenades.zipIdx.filter (fun e => e.1.round = round)).map (fun e => s.credited round c e.2 e.1) := by
  unfold grenadesIn
  rw [grenades_creditGrenades, List.filter_map]
  simp only [Function.comp_def, round_credited]

/-- A damage of the round names a grenade if and only if a grenade dealt it. -/
theorem isSome_grenade_attributed (h : d.round = round) :
    (s.attributed round c d).grenade.isSome = (s.damageSource? round c d).isSome := by
  rw [attributed, if_pos h]
  cases hi : s.damageSource? round c d with
  | none => rfl
  | some i =>
    obtain ⟨g, hg, -⟩ := damageSource?_eq_some_iff.1 hi
    rw [Option.mem_def] at hg
    simp [hg]

theorem mem_placesIn : i ∈ s.placesIn round ↔ ∃ g ∈ s.grenades[i]?, g.round = round := by
  simp [placesIn, List.mem_zipIdx_iff_getElem?]

theorem nodup_placesIn : (s.placesIn round).Nodup := by
  refine (List.filter_sublist.map _).nodup ?_
  rw [List.zipIdx_map_snd]
  exact List.nodup_range'

/-- **Every damage that a grenade dealt is counted at one grenade.** -/
theorem total_dealtBy : total (fun i => healthTotal (s.dealtBy round c i)) (s.placesIn round) =
    healthTotal ((s.damagesIn round).filter (fun d => (s.damageSource? round c d).isSome)) := by
  have hplace : ∀ d ∈ s.damagesIn round, ∀ i ∈ s.damageSource? round c d, i ∈ s.placesIn round := by
    intro d _ i hi
    obtain ⟨g, hg, hcould, -⟩ := damageSource?_eq_some_iff.1 hi
    exact mem_placesIn.2 ⟨g, hg, hcould.round⟩
  unfold dealtBy healthTotal
  simp only [← damageSource?_eq_some_iff]
  exact total_keys _ nodup_placesIn hplace

theorem grenade_eq_some_iff (h : d ∈ (s.creditGrenades round c).damages) (hround : d.round = round) {entity : EntityId} :
    d.grenade = some entity ↔ ∃ i, s.DealtBy round c d i ∧ ∃ g ∈ s.grenades[i]?, g.entity = entity := by
  obtain ⟨d, -, rfl⟩ := List.mem_map.1 (damages_creditGrenades ▸ h)
  have hentity (i : Nat) : (∃ g ∈ s.grenades[i]?, g.entity = entity) ↔ (s.grenades[i]?).map (·.entity) = some entity := by
    cases s.grenades[i]? <;> simp
  have hsame (i : Nat) : s.DealtBy round c (s.attributed round c d) i ↔ s.damageSource? round c d = some i := by
    rw [← damageSource?_eq_some_iff, damageSource?_congr rfl rfl asDealt_attributed]
  simp only [hentity, hsame]
  rw [round_attributed] at hround
  rw [attributed, if_pos hround]
  exact Option.bind_eq_some_iff

/-- **The damage of a round is credited.**  Every damage and every grenade stays as it was told, but for the credit.
Every damage of the round names the grenade that dealt it, if a grenade did.  Every grenade of the round has the damage
that it dealt to enemies and to others, and the number of the enemies and of the teammates that it hit.  The grenades of
the round have dealt what the damages with a grenade tell, each of them once. -/
theorem damage_credited (s : MatchState) (round : Nat) (c : Config) :
    (s.creditGrenades round c).damages.map Damage.asDealt = s.damages.map Damage.asDealt ∧
    (s.creditGrenades round c).grenades.map Grenade.uncredited = s.grenades.map Grenade.uncredited ∧
    (∀ d ∈ (s.creditGrenades round c).damages, d.round = round → ∀ entity, d.grenade = some entity ↔
      ∃ i, s.DealtBy round c d i ∧ ∃ g ∈ s.grenades[i]?, g.entity = entity) ∧
    (∀ i, ∀ g ∈ (s.creditGrenades round c).grenades[i]?, g.round = round →
      g.enemyDamage = healthTotal ((s.dealtBy round c i).filter (·.isEnemyDamage)) ∧
      g.teamDamage = healthTotal ((s.dealtBy round c i).filter (!·.isEnemyDamage)) ∧
      g.enemiesDamaged = {id | ∃ d ∈ s.dealtBy round c i, d.isEnemyDamage = true ∧ d.victim = id}.ncard ∧
      g.teammatesDamaged = {id | ∃ d ∈ s.dealtBy round c i, d.isTeamDamage = true ∧ d.victim = id}.ncard) ∧
    total (fun g => g.enemyDamage + g.teamDamage) ((s.creditGrenades round c).grenadesIn round) =
      healthTotal (((s.creditGrenades round c).damagesIn round).filter (·.grenade.isSome)) := by
  refine ⟨map_asDealt_creditGrenades, map_uncredited_creditGrenades, fun d hd hround entity =>
    grenade_eq_some_iff hd hround, fun i g hg hround => ?_, ?_⟩
  · rw [getElem?_grenades_creditGrenades] at hg
    obtain ⟨g, -, rfl⟩ := Option.map_eq_some_iff.1 hg
    exact credited_eq (round_credited.symm.trans hround)
  · -- the damage of a grenade is what is told of its place, and every damage with a grenade has one place
    calc total (fun g => g.enemyDamage + g.teamDamage) ((s.creditGrenades round c).grenadesIn round)
        = total (fun i => healthTotal (s.dealtBy round c i)) (s.placesIn round) := by
          rw [grenadesIn_creditGrenades, placesIn, total_map, total_map]
          refine total_congr (fun e he => ?_)
          obtain ⟨henemy, hteam, -⟩ := credited_eq (s := s) (c := c) (i := e.2) (of_decide_eq_true (List.mem_filter.1 he).2)
          rw [henemy, hteam]
          exact total_filter_add _ _ _
      _ = healthTotal ((s.damagesIn round).filter (fun d => (s.damageSource? round c d).isSome)) := total_dealtBy
      _ = healthTotal (((s.creditGrenades round c).damagesIn round).filter (·.grenade.isSome)) := by
          unfold healthTotal
          rw [damagesIn_creditGrenades, List.filter_map, total_map]
          simp only [healthTaken_attributed]
          refine congrArg (total _) (List.filter_congr (fun d hd => ?_))
          exact (isSome_grenade_attributed (of_decide_eq_true (List.mem_filter.1 hd).2)).symm

/-- Two explosives of player 7 go off half a second apart, and a second is 64 ticks.  A hit between them is credited to
the first and the hits after both to the second, each counted once: to two enemies and a teammate.  A hit long after both
names no grenade and counts for none. -/
theorem damage_credited_of_two :
    let thrown (entity : EntityId) (detonationTick : Tick) : Grenade :=
      { (default : Grenade) with round := 1, entity, thrower := 7, kind := .highExplosive, detonationTick }
    let hit (tick : Tick) (victim : PlayerId) (healthTaken : Int) (isTeamDamage : Bool) : Damage :=
      { (default : Damage) with
        round := 1, tick, attacker := some 7, victim, weapon := .heGrenade, healthTaken, isTeamDamage }
    let s : MatchState :=
      { MatchState.new { mapName := "de_dust2" } {} with
        grenades := [thrown 20 100, thrown 30 132]
        damages := [hit 110 1 30 false, hit 140 1 20 false, hit 150 2 45 false, hit 150 3 10 true, hit 300 2 5 false] }
    let credited := s.creditGrenades 1 {}
    credited.damages.map Damage.asDealt = s.damages.map Damage.asDealt ∧
      (Clock.ticks 1 64 = 64 →
        credited.damages.map (·.grenade) = [some 20, some 30, some 30, some 30, none] ∧
          credited.grenades.map (fun g => (g.enemyDamage, g.teamDamage, g.enemiesDamaged, g.teammatesDamaged)) =
            [(30, 0, 1, 0), (65, 10, 2, 1)] ∧
          healthTotal ((credited.damagesIn 1).filter (·.grenade.isSome)) = 105) := by
  intro thrown hit s credited
  obtain ⟨hdealt, -, -, -, htotal⟩ := damage_credited s 1 {}
  refine ⟨hdealt, fun hticks => ?_⟩
  -- the length of a second is not computed, so the search is told it
  have hsource : s.damageSource? 1 {} = fun d =>
      (lastGreatest? (fun e => e.1.detonationTick) (s.grenades.zipIdx.filter (fun e =>
        d.attacker = some e.1.thrower && e.1.kind.dealsDamageAs d.weapon && e.1.detonationTick ≤ d.tick &&
          d.tick - e.1.detonationTick ≤ 64))).map (·.2) := by
    have hwindow : Grenade.damageTicks .highExplosive {} s.tickRate = 64 := hticks
    have hgrenades : ∀ e ∈ s.grenades.zipIdx, e.1.round = 1 ∧ e.1.kind = .highExplosive := by decide +kernel
    funext d
    unfold damageSource?
    congr 2
    refine List.filter_congr (fun e he => ?_)
    obtain ⟨hround, hkind⟩ := hgrenades e he
    simp only [Grenade.canHaveDealt, hround, hkind, hwindow, decide_true, Bool.true_and]
  rw [← htotal]
  simp only [credited, grenadesIn, creditGrenades, credits, hsource]
  decide +kernel

end MatchState

end Scorebook
