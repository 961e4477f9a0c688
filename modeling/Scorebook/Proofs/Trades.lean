import Scorebook.Proofs.Choosing
import Scorebook.Proofs.Lookup
import Scorebook.Trade
/-!
# Trades and chances to trade

A death is traded by one of the teammates who were near, and everybody who was near had a chance to trade it.  So
nobody trades more deaths of a round than the player had chances to (`kills_le_opportunities`).
-/
namespace Scorebook

namespace Trade

/-! ## Tallies -/

theorem get?_foldl_tally (id : PlayerId) : ∀ (ids : List PlayerId) (t : Table PlayerId Nat),
    (ids.foldl (fun t id => t.update id (fun n => n.getD 0 + 1)) t).get? id =
      if ids.count id = 0 then t.get? id else some ((t.get? id).getD 0 + ids.count id)
  | [], _ => rfl
  | x :: ids, t => by
    rw [List.foldl_cons, get?_foldl_tally id ids, Table.get?_update, List.count_cons]
    by_cases hx : x = id
    · by_cases hn : ids.count id = 0
      · simp [hx, hn]
      · simp [hx, hn, Nat.add_assoc, Nat.add_comm 1]
    · simp [hx]

theorem get?_tally (ids : List PlayerId) (id : PlayerId) :
    (tally ids).get? id = if ids.count id = 0 then none else some (ids.count id) := by
  rw [tally, get?_foldl_tally, Table.get?_empty, Option.getD_none, Nat.zero_add]

/-- **A tally tells how often each player is on the list.** -/
theorem getD_tally (ids : List PlayerId) (id : PlayerId) : ((tally ids).get? id).getD 0 = ids.count id := by
  rw [get?_tally]
  split
  · next hn => exact hn.symm
  · rfl

/-! ## Chances -/

variable {roster : Table PlayerId Side} {fights : List Gunfight} {exits : List Exit} {window : Window}

theorem mem_near_of_trader {near : List PlayerId} {death : Gunfight} {i : Nat} {id : PlayerId}
    (h : trader? fights window near death i = some id) : id ∈ near := by
  obtain ⟨⟨j, killer⟩, hfound, rfl⟩ := Option.map_eq_some_iff.1 h
  obtain ⟨⟨⟨-, later, hplace, htest⟩, -⟩, later', hplace', rfl⟩ := findAfter?_ite_eq_some_iff.1 hfound
  obtain rfl := Option.mem_unique hplace hplace'
  simp only [Bool.and_eq_true, List.contains_iff_mem] at htest
  exact htest.2

/-- **Whoever trades a death was near it.** -/
theorem trader_mem_near {chance : Chance} (h : chance ∈ chances roster fights exits window) :
    ∀ id ∈ chance.trader, id ∈ chance.near := by
  obtain ⟨⟨death, i⟩, -, hchance⟩ := List.mem_filterMap.1 h
  unfold chance? at hchance
  split at hchance
  · cases hchance
  · obtain ⟨side, -, rfl⟩ := Option.map_eq_some_iff.1 hchance
    exact fun id hid => mem_near_of_trader hid

theorem count_traders_le (id : PlayerId) : ∀ {chances : List Chance},
    (∀ chance ∈ chances, ∀ id ∈ chance.trader, id ∈ chance.near) →
      (chances.filterMap (·.trader)).count id ≤ (chances.flatMap (·.near)).count id
  | [], _ => Nat.le_refl _
  | chance :: chances, h => by
    have hrest := count_traders_le id (fun c hc => h c (List.mem_cons_of_mem _ hc))
    rw [List.flatMap_cons, List.count_append, List.filterMap_cons]
    cases ht : chance.trader with
    | none => exact Nat.le_trans hrest (Nat.le_add_left _ _)
    | some trader =>
      have hnear : trader ∈ chance.near := h chance List.mem_cons_self trader ht
      dsimp only
      rw [List.count_cons]
      split
      · next heq =>
        have hone : 1 ≤ chance.near.count id := List.one_le_count_iff.2 (beq_iff_eq.1 heq ▸ hnear)
        omega
      · omega

/-- **Nobody trades more deaths than the player had chances to.** -/
theorem kills_le_opportunities (roster : Table PlayerId Side) (fights : List Gunfight) (exits : List Exit)
    (window : Window) (id : PlayerId) :
    ((detect roster fights exits window).kills.get? id).getD 0 ≤
      ((detect roster fights exits window).opportunities.get? id).getD 0 := by
  rw [detect, getD_tally, getD_tally]
  exact count_traders_le id (fun _ hc => trader_mem_near hc)

end Trade

end Scorebook
