import Scorebook.Closing.PlayerRound
import Scorebook.Handling.Kill
import Scorebook.Proofs.GrenadeCredit
/-!
# Who assists by damage

Of the enemies who hurt the victim of a kill, the killer excepted, the one who took most health assists it, and of
several the one with the least id (`damage_assist_greatest`).  It does not matter in which order the damages stand, nor
in which order the enemies are compared.
-/
namespace Scorebook

/-- The damages by which an attacker, as an enemy, hurt a victim in a round up to a tick. -/
def enemyDamages (damages : List Damage) (round : Nat) (attacker victim : PlayerId) (tick : Tick) : List Damage :=
  damages.filter (fun d =>
    d.round = round && d.victim = victim && d.tick ≤ tick && d.isEnemyDamage && d.attacker = some attacker)

/-- The health that they took. -/
def enemyTotal (damages : List Damage) (round : Nat) (attacker victim : PlayerId) (tick : Tick) : Int :=
  healthTotal (enemyDamages damages round attacker victim tick)

/-- A player can assist a kill by damage: somebody else than the killer, who hurt the victim as an enemy and took enough
health. -/
structure CanAssist (damages : List Damage) (round : Nat) (killer victim : PlayerId) (tick : Tick) (threshold : Int)
    (id : PlayerId) : Prop where
  other : id ≠ killer
  hurt : enemyDamages damages round id victim tick ≠ []
  enough : threshold ≤ enemyTotal damages round id victim tick

/-- Of two players with the health that they took, the one who took more goes first, and of equals the one with the
lesser id. -/
def outdamages (a b : PlayerId × Int) : Bool := b.2 < a.2 || a.2 = b.2 && a.1 < b.1

/-! ## What is totalled -/

/-- Whose total a damage adds to. -/
def Damage.helper? (round : Nat) (killer victim : PlayerId) (tick : Tick) (d : Damage) : Option PlayerId :=
  if d.isOn round victim tick && d.isEnemyDamage then d.attacker.filter (· != killer) else none

/-- The totals with a damage added. -/
def addHelp (round : Nat) (killer victim : PlayerId) (tick : Tick) (totals : Table PlayerId Int) (d : Damage) :
    Table PlayerId Int :=
  match d.helper? round killer victim tick with
  | some id => totals.update id (fun n => n.getD 0 + d.healthTaken)
  | none => totals

section Totals

variable {damages : List Damage} {round : Nat} {killer victim : PlayerId} {tick : Tick}

theorem helper?_eq_some_iff {d : Damage} {id : PlayerId} : d.helper? round killer victim tick = some id ↔
    id ≠ killer ∧ (d.isOn round victim tick && d.isEnemyDamage && d.attacker = some id) = true := by
  unfold Damage.helper?
  cases d.isOn round victim tick && d.isEnemyDamage with
  | true => simp [Option.filter_eq_some_iff, and_comm]
  | false => simp

theorem exists_helper?_iff {id : PlayerId} : (∃ d ∈ damages, d.helper? round killer victim tick = some id) ↔
    id ≠ killer ∧ enemyDamages damages round id victim tick ≠ [] := by
  simp only [helper?_eq_some_iff, enemyDamages, ne_eq, List.filter_eq_nil_iff]
  constructor
  · rintro ⟨d, hd, hne, hcounts⟩
    exact ⟨hne, fun h => h d hd hcounts⟩
  · rintro ⟨hne, h⟩
    by_contra hnone
    exact h (fun d hd hcounts => hnone ⟨d, hd, hne, hcounts⟩)

theorem filter_helper? {id : PlayerId} (h : id ≠ killer) :
    damages.filter (fun d => d.helper? round killer victim tick = some id) = enemyDamages damages round id victim tick := by
  refine List.filter_congr (fun d _ => ?_)
  rw [Bool.eq_iff_iff, decide_eq_true_iff, helper?_eq_some_iff]
  exact and_iff_right h

theorem damageTotals_eq (damages : List Damage) (round : Nat) (killer victim : PlayerId) (tick : Tick) :
    damageTotals damages round killer victim tick = damages.foldl (addHelp round killer victim tick) ∅ := by
  unfold damageTotals
  refine congrArg (fun step => damages.foldl step ∅) (funext fun totals => funext fun d => ?_)
  unfold addHelp Damage.helper?
  cases d.isOn round victim tick && d.isEnemyDamage with
  | false => rfl
  | true =>
    cases d.attacker with
    | none => rfl
    | some attacker => by_cases hkiller : attacker = killer <;> simp [Option.filter, hkiller]

/-- **The total of an enemy is the health that the enemy took.** -/
theorem get?_damageTotals {id : PlayerId} {n : Int} :
    (damageTotals damages round killer victim tick).get? id = some n ↔
      (id ≠ killer ∧ enemyDamages damages round id victim tick ≠ []) ∧
        enemyTotal damages round id victim tick = n := by
  have hnone (totals : Table PlayerId Int) (d : Damage) (h : d.helper? round killer victim tick = none) :
      addHelp round killer victim tick totals d = totals := by rw [addHelp, h]
  have hsome (totals : Table PlayerId Int) (d : Damage) (id : PlayerId)
      (h : d.helper? round killer victim tick = some id) :
      addHelp round killer victim tick totals d = totals.update id (fun n => n.getD 0 + d.healthTaken) := by
    rw [addHelp, h]
  have hkeys := Table.contains_foldl_update _ (fun n d => n.getD 0 + d.healthTaken) hnone hsome id damages ∅
  have hvalue := Table.getD_foldl_update _ (fun n d => n + d.healthTaken) hnone hsome id damages ∅
  rw [foldl_add_total] at hvalue
  rw [← damageTotals_eq] at hkeys hvalue
  rw [← exists_helper?_iff]
  constructor
  · intro h
    have hhelps := (hkeys.1 (Table.contains_iff.2 ⟨n, h⟩)).resolve_right Bool.false_ne_true
    rw [h, filter_helper? (exists_helper?_iff.1 hhelps).1] at hvalue
    exact ⟨hhelps, (hvalue.trans (Int.zero_add _)).symm⟩
  · rintro ⟨hhelps, rfl⟩
    obtain ⟨n, hn⟩ := Table.contains_iff.1 (hkeys.2 (.inl hhelps))
    rw [hn, filter_helper? (exists_helper?_iff.1 hhelps).1] at hvalue
    rw [hn]
    exact congrArg some (hvalue.trans (Int.zero_add _))

end Totals

/-! ## Who is chosen -/

theorem outdamages_iff {a b : Nat × Int} : outdamages a b = true ↔ b.2 < a.2 ∨ a.2 = b.2 ∧ a.1 < b.1 := by
  simp only [outdamages, Bool.or_eq_true, Bool.and_eq_true, decide_eq_true_eq]

theorem outdamages_eq_false_iff {a b : Nat × Int} :
    outdamages a b = false ↔ a.2 < b.2 ∨ a.2 = b.2 ∧ b.1 ≤ a.1 := by
  rw [Bool.eq_false_iff, ne_eq, outdamages_iff]
  omega

theorem outdamages_trans (a b c : Nat × Int) (hab : outdamages a b = true) (hbc : outdamages b c = true) :
    outdamages a c = true := by
  rw [outdamages_iff] at *
  omega

theorem outdamages_of_not (a b c : Nat × Int) (hab : outdamages a b = true) (hcb : outdamages c b = false) :
    outdamages a c = true := by
  rw [outdamages_iff] at *
  rw [outdamages_eq_false_iff] at hcb
  omega

/-- Of two players, one goes first. -/
theorem outdamages_eq_not {a b : Nat × Int} (h : a ≠ b) : outdamages a b = !outdamages b a := by
  have hne : ¬ (a.1 = b.1 ∧ a.2 = b.2) := fun heq => h (Prod.ext heq.1 heq.2)
  rw [Bool.eq_iff_iff, Bool.not_eq_true', outdamages_iff, outdamages_eq_false_iff]
  omega

/-- Where the players stand by id, the first of those with the most health taken is the one who goes first. -/
theorem leastBy?_of_sorted {l : List (Nat × Int)} (h : l.Pairwise keyLt) :
    leastBy? (fun a b => b.2 < a.2) l = leastBy? outdamages l := by
  apply Option.ext
  intro a
  rw [leastBy?_eq_some_iff outdamages_trans outdamages_of_not, leastBy?_eq_some_iff]
  · have hids {before later : List (Nat × Int)} (hl : l = before ++ a :: later) :
        (∀ b ∈ before, b.1 < a.1) ∧ ∀ b ∈ later, a.1 < b.1 := by
      rw [hl, List.pairwise_append] at h
      refine ⟨fun b hb => Nat.compare_eq_lt.1 (h.2.2 b hb a List.mem_cons_self), fun b hb => ?_⟩
      exact Nat.compare_eq_lt.1 (List.rel_of_pairwise_cons h.2.1 hb)
    constructor
    · rintro ⟨before, later, hl, hbefore, hlater⟩
      obtain ⟨hless, hmore⟩ := hids hl
      refine ⟨before, later, hl, fun b hb => ?_, fun b hb => ?_⟩
      · exact outdamages_iff.2 (.inl (of_decide_eq_true (hbefore b hb)))
      · have := of_decide_eq_false (hlater b hb)
        have := hmore b hb
        exact outdamages_eq_false_iff.2 (by omega)
    · rintro ⟨before, later, hl, hbefore, hlater⟩
      obtain ⟨hless, hmore⟩ := hids hl
      refine ⟨before, later, hl, fun b hb => ?_, fun b hb => ?_⟩
      · have := outdamages_iff.1 (hbefore b hb)
        have := hless b hb
        exact decide_eq_true (by omega)
      · have := outdamages_eq_false_iff.1 (hlater b hb)
        exact decide_eq_false (by omega)
  · simp only [decide_eq_true_eq]
    exact fun _ _ _ hab hbc => Int.lt_trans hbc hab
  · simp only [decide_eq_true_eq, decide_eq_false_iff_not, Int.not_lt]
    exact fun _ _ _ hab hcb => Int.lt_of_le_of_lt hcb hab

section Assist

variable {damages : List Damage} {round : Nat} {killer victim : PlayerId} {tick : Tick} {threshold : Int}

theorem mem_entries_filter_iff {e : PlayerId × Int} :
    e ∈ (damageTotals damages round killer victim tick).entries.filter (fun e => threshold ≤ e.2) ↔
      CanAssist damages round killer victim tick threshold e.1 ∧ enemyTotal damages round e.1 victim tick = e.2 := by
  rw [List.mem_filter, Table.mem_entries_iff, get?_damageTotals, decide_eq_true_iff]
  constructor
  · rintro ⟨⟨⟨hother, hhurt⟩, htotal⟩, henough⟩
    exact ⟨⟨hother, hhurt, htotal ▸ henough⟩, htotal⟩
  · rintro ⟨⟨hother, hhurt, henough⟩, htotal⟩
    exact ⟨⟨⟨hother, hhurt⟩, htotal⟩, htotal ▸ henough⟩

theorem damageAssister?_eq (damages : List Damage) (round : Nat) (killer victim : PlayerId) (tick : Tick)
    (threshold : Int) : damageAssister? damages round killer victim tick threshold =
      (leastBy? outdamages
        ((damageTotals damages round killer victim tick).entries.filter (fun e => threshold ≤ e.2))).map (·.1) := by
  unfold damageAssister?
  rw [leastBy?_of_sorted ((damageTotals damages round killer victim tick).sorted.filter _)]

theorem damageAssister?_eq_some_iff {id : PlayerId} :
    damageAssister? damages round killer victim tick threshold = some id ↔
      CanAssist damages round killer victim tick threshold id ∧
        ∀ other, CanAssist damages round killer victim tick threshold other → other ≠ id →
          enemyTotal damages round other victim tick < enemyTotal damages round id victim tick ∨
            enemyTotal damages round other victim tick = enemyTotal damages round id victim tick ∧ id < other := by
  rw [damageAssister?_eq, Option.map_eq_some_iff]
  have hchosen {e : PlayerId × Int} := leastBy?_eq_some_iff_beats outdamages_trans outdamages_of_not
    (l := (damageTotals damages round killer victim tick).entries.filter (fun e => threshold ≤ e.2))
    (fun a _ b _ hne => outdamages_eq_not hne) (a := e)
  simp only [hchosen, mem_entries_filter_iff]
  constructor
  · rintro ⟨e, ⟨⟨hcan, htotal⟩, hall⟩, rfl⟩
    refine ⟨hcan, fun other hother hne => ?_⟩
    have hfirst := hall (other, enemyTotal damages round other victim tick) ⟨hother, rfl⟩
      (fun heq => hne (congrArg Prod.fst heq))
    rw [htotal]
    exact (outdamages_iff.1 hfirst).imp_right (And.imp_left Eq.symm)
  · rintro ⟨hcan, hall⟩
    refine ⟨(id, enemyTotal damages round id victim tick), ⟨⟨hcan, rfl⟩, fun b hb hne => ?_⟩, rfl⟩
    have hid : b.1 ≠ id := fun heq => hne (Prod.ext heq (hb.2.symm.trans (by rw [heq])))
    have hless := hall b.1 hb.1 hid
    rw [hb.2] at hless
    exact outdamages_iff.2 (hless.imp_right (And.imp_left Eq.symm))

/-- **Nobody assists a kill that nobody can assist.** -/
theorem damageAssister?_eq_none_iff : damageAssister? damages round killer victim tick threshold = none ↔
    ∀ id, ¬ CanAssist damages round killer victim tick threshold id := by
  rw [damageAssister?_eq, Option.map_eq_none_iff, leastBy?_eq_none_iff, List.eq_nil_iff_forall_not_mem]
  simp only [mem_entries_filter_iff]
  constructor
  · exact fun h id hcan => h (id, enemyTotal damages round id victim tick) ⟨hcan, rfl⟩
  · exact fun h e he => h e.1 he.1

theorem enemyTotal_of_perm {damages' : List Damage} (hp : damages'.Perm damages) (id : PlayerId) :
    enemyTotal damages' round id victim tick = enemyTotal damages round id victim tick :=
  total_perm _ (hp.filter _)

theorem canAssist_of_perm {damages' : List Damage} (hp : damages'.Perm damages) {id : PlayerId} :
    CanAssist damages' round killer victim tick threshold id ↔ CanAssist damages round killer victim tick threshold id := by
  have himp {l l' : List Damage} (hp : l'.Perm l) (h : CanAssist l round killer victim tick threshold id) :
      CanAssist l' round killer victim tick threshold id := by
    have hdealt : (enemyDamages l' round id victim tick).Perm (enemyDamages l round id victim tick) := hp.filter _
    refine ⟨h.other, fun hnil => h.hurt ?_, enemyTotal_of_perm hp id ▸ h.enough⟩
    rw [hnil] at hdealt
    exact hdealt.nil_eq.symm
  exact ⟨himp hp.symm, himp hp⟩

end Assist

/-- **The enemy who took most health from the victim assists the kill**, and of equals the one with the least id, of those
who can assist it; nobody does if nobody can.  Neither the order of the damages matters nor that in which the totals are
compared. -/
theorem damage_assist_greatest (damages : List Damage) (round : Nat) (killer victim : PlayerId) (tick : Tick)
    (threshold : Int) :
    (∀ id, damageAssister? damages round killer victim tick threshold = some id ↔
      CanAssist damages round killer victim tick threshold id ∧
        ∀ other, CanAssist damages round killer victim tick threshold other → other ≠ id →
          enemyTotal damages round other victim tick < enemyTotal damages round id victim tick ∨
            enemyTotal damages round other victim tick = enemyTotal damages round id victim tick ∧ id < other) ∧
    (damageAssister? damages round killer victim tick threshold = none ↔
      ∀ id, ¬ CanAssist damages round killer victim tick threshold id) ∧
    (∀ damages' : List Damage, damages'.Perm damages →
      damageAssister? damages' round killer victim tick threshold =
        damageAssister? damages round killer victim tick threshold) ∧
    ∀ totals : List (PlayerId × Int), totals.Perm (damageTotals damages round killer victim tick).entries →
      (leastBy? outdamages (totals.filter (fun e => threshold ≤ e.2))).map (·.1) =
        damageAssister? damages round killer victim tick threshold := by
  refine ⟨fun id => damageAssister?_eq_some_iff, damageAssister?_eq_none_iff, fun damages' hp => ?_, fun totals hp => ?_⟩
  · apply Option.ext
    intro id
    simp only [damageAssister?_eq_some_iff, canAssist_of_perm hp, enemyTotal_of_perm hp]
  · rw [damageAssister?_eq]
    exact congrArg (Option.map _) (leastBy?_of_perm outdamages_trans outdamages_of_not (hp.filter _)
      (fun a _ b _ hne => outdamages_eq_not hne))

/-- Players 2 and 3 took as much, player 2 in two hits; what the killer took, and what comes after the kill, counts for
nobody. -/
example :
    let hit (tick : Tick) (attacker : PlayerId) (healthTaken : Int) : Damage :=
      { (default : Damage) with round := 1, tick, attacker := some attacker, victim := 8, healthTaken }
    damageAssister? [hit 10 3 50, hit 20 9 45, hit 20 2 30, hit 30 2 20, hit 41 3 5] 1 9 8 40 41 = some 2 := by
  decide +kernel

end Scorebook
