import Mathlib.Data.List.Induction
import Mathlib.Data.List.Nodup
import Mathlib.Data.Prod.Lex
import Mathlib.Order.Bounds.Basic
import Scorebook.Selection
/-!
# What is chosen from a list

Each choice said of the list alone: the item that a search finds is the first with a result after its position, and
the item that beats the others stands in the list between items that it beats and items that do not beat it.
-/
namespace Scorebook

/-! ## Searches -/

section Search

variable {α β : Type} {f : α → Option β}

theorem firstSome?_eq_some_iff {b : β} : ∀ {l : List α} {start j : Nat},
    firstSome? f start l = some (j, b) ↔
      ∃ n, j = start + n ∧ l[n]?.bind f = some b ∧ ∀ m < n, l[m]?.bind f = none
  | [], start, j => by simp [firstSome?]
  | a :: rest, start, j => by
    unfold firstSome?
    cases hf : f a with
    | some b' =>
      constructor
      · rintro ⟨rfl, rfl⟩
        exact ⟨0, rfl, hf, fun m hm => absurd hm (Nat.not_lt_zero m)⟩
      · rintro ⟨n, rfl, hb, hfirst⟩
        cases n with
        | zero =>
          cases hf.symm.trans hb
          rfl
        | succ n => cases hf.symm.trans (hfirst 0 (Nat.succ_pos n))
    | none =>
      dsimp only
      rw [firstSome?_eq_some_iff]
      constructor
      · rintro ⟨n, rfl, hb, hfirst⟩
        refine ⟨n + 1, by omega, hb, fun m hm => ?_⟩
        cases m with
        | zero => exact hf
        | succ m => exact hfirst m (by omega)
      · rintro ⟨n, rfl, hb, hfirst⟩
        cases n with
        | zero => cases hf.symm.trans hb
        | succ n => exact ⟨n, by omega, hb, fun m hm => hfirst (m + 1) (by omega)⟩

/-- **A search after a position finds the first item there that has a result.** -/
theorem findAfter?_eq_some_iff {items : List α} {i j : Nat} {b : β} :
    findAfter? f items i = some (j, b) ↔
      i < j ∧ items[j]?.bind f = some b ∧ ∀ m, i < m → m < j → items[m]?.bind f = none := by
  unfold findAfter?
  rw [firstSome?_eq_some_iff]
  simp only [List.getElem?_drop]
  constructor
  · rintro ⟨n, rfl, hb, hfirst⟩
    refine ⟨by omega, hb, fun m him hm => ?_⟩
    obtain ⟨k, rfl⟩ := Nat.exists_eq_add_of_le (Nat.succ_le_of_lt him)
    exact hfirst k (by omega)
  · rintro ⟨hij, hb, hfirst⟩
    obtain ⟨n, rfl⟩ := Nat.exists_eq_add_of_le (Nat.succ_le_of_lt hij)
    exact ⟨n, rfl, hb, fun m hm => hfirst (i + 1 + m) (by omega) (by omega)⟩

/-- The first item after a position that passes a test. -/
theorem findAfter?_ite_eq_some_iff {test : α → Bool} {result : α → β} {items : List α} {i j : Nat} {b : β} :
    findAfter? (fun a => if test a then some (result a) else none) items i = some (j, b) ↔
      IsLeast {j | i < j ∧ ∃ a ∈ items[j]?, test a = true} j ∧ ∃ a ∈ items[j]?, result a = b := by
  have hfound (x : Option α) : x.bind (fun a => if test a then some (result a) else none) = some b ↔
      (∃ a ∈ x, test a = true) ∧ ∃ a ∈ x, result a = b := by
    cases x <;> simp
  have hmissed (x : Option α) : x.bind (fun a => if test a then some (result a) else none) = none ↔
      ¬ ∃ a ∈ x, test a = true := by
    cases x <;> simp
  rw [findAfter?_eq_some_iff, hfound]
  simp only [hmissed]
  constructor
  · rintro ⟨hij, ⟨htest, hresult⟩, hfirst⟩
    refine ⟨⟨⟨hij, htest⟩, fun m hm => ?_⟩, hresult⟩
    by_contra hmj
    exact hfirst m hm.1 (Nat.lt_of_not_le hmj) hm.2
  · rintro ⟨⟨⟨hij, htest⟩, hleast⟩, hresult⟩
    exact ⟨hij, ⟨htest, hresult⟩, fun m him hmj hm => absurd (hleast ⟨him, hm⟩) (Nat.not_le_of_lt hmj)⟩

/-- A list of results is split where the list of items is. -/
theorem filterMap_eq_split {l : List α} {before later : List β} {b : β} :
    l.filterMap f = before ++ b :: later ↔
      ∃ l₁ a l₂, l = l₁ ++ a :: l₂ ∧ l₁.filterMap f = before ∧ f a = some b ∧ l₂.filterMap f = later := by
  constructor
  · intro h
    obtain ⟨l₁, r, rfl, hbefore, hr⟩ := List.filterMap_eq_append_iff.1 h
    obtain ⟨r₁, a, r₂, rfl, hnone, ha, hlater⟩ := List.filterMap_eq_cons_iff.1 hr
    refine ⟨l₁ ++ r₁, a, r₂, (List.append_assoc _ _ _).symm, ?_, ha, hlater⟩
    rw [List.filterMap_append, hbefore, List.filterMap_eq_nil_iff.2 hnone, List.append_nil]
  · rintro ⟨l₁, a, l₂, rfl, rfl, ha, rfl⟩
    rw [List.filterMap_append, List.filterMap_cons_some ha]

end Search

/-! ## Greatest and least -/

section Choice

variable {α : Type} {beats : α → α → Bool}

/-- What is chosen step by step is one of those to choose from. -/
theorem mem_of_leastBy? {a : α} : ∀ {l : List α}, leastBy? beats l = some a → a ∈ l
  | [], h => by cases h
  | x :: rest, h => by
    injection h with h
    subst h
    refine List.foldlRecOn (motive := (· ∈ x :: rest)) _ _ List.mem_cons_self (fun best hbest b hb => ?_)
    split
    · exact List.mem_cons_of_mem _ hb
    · exact hbest

theorem leastBy?_eq_none_iff {l : List α} : leastBy? beats l = none ↔ l = [] := by
  cases l <;> simp [leastBy?]

theorem lastGreatest?_eq_leastBy? {κ : Type} [Ord κ] (key : α → κ) (l : List α) :
    lastGreatest? key l = leastBy? (fun b best => (compare (key best) (key b)).isLE) l := by
  cases l <;> rfl

theorem mem_of_lastGreatest? {κ : Type} [Ord κ] {key : α → κ} {l : List α} {a : α}
    (h : lastGreatest? key l = some a) : a ∈ l :=
  mem_of_leastBy? (lastGreatest?_eq_leastBy? key l ▸ h)

/-- An item in its list: it beats whatever stands before it, and nothing that stands after it beats it. -/
def Chosen (beats : α → α → Bool) (l : List α) (a : α) : Prop :=
  ∃ before later, l = before ++ a :: later ∧ (∀ b ∈ before, beats a b = true) ∧ ∀ b ∈ later, beats b a = false

theorem Chosen.mem {l : List α} {a : α} (h : Chosen beats l a) : a ∈ l := by
  obtain ⟨before, later, rfl, -⟩ := h
  exact List.mem_append_right _ List.mem_cons_self

theorem Chosen.unique {l : List α} {a a' : α} (h : Chosen beats l a) (h' : Chosen beats l a') : a = a' := by
  obtain ⟨before, later, rfl, hbefore, hlater⟩ := h
  obtain ⟨before', later', hl, hbefore', hlater'⟩ := h'
  -- of two places, what stands at the second beats what stands at the first, and does not
  rcases List.append_eq_append_iff.1 hl with ⟨mid, hb, hr⟩ | ⟨mid, hb, hr⟩
  · cases mid with
    | nil => exact (List.cons.inj hr).1
    | cons x mid =>
      obtain ⟨rfl, rfl⟩ := List.cons.inj hr
      have hbeats := hbefore' a (hb ▸ List.mem_append_right _ List.mem_cons_self)
      have hnot := hlater a' (List.mem_append_right _ List.mem_cons_self)
      cases hbeats.symm.trans hnot
  · cases mid with
    | nil => exact (List.cons.inj hr).1.symm
    | cons x mid =>
      obtain ⟨rfl, rfl⟩ := List.cons.inj hr
      have hbeats := hbefore a' (hb ▸ List.mem_append_right _ List.mem_cons_self)
      have hnot := hlater' a (List.mem_append_right _ List.mem_cons_self)
      cases hbeats.symm.trans hnot

theorem chosen_foldl (htrans : ∀ a b c, beats a b = true → beats b c = true → beats a c = true)
    (hnot : ∀ a b c, beats a b = true → beats c b = false → beats a c = true) (a : α) (rest : List α) :
    Chosen beats (a :: rest) (rest.foldl (fun best b => if beats b best then b else best) a) := by
  induction rest using List.reverseRecOn with
  | nil => exact ⟨[], [], rfl, fun b hb => (List.not_mem_nil hb).elim, fun b hb => (List.not_mem_nil hb).elim⟩
  | append_singleton rest b ih =>
    obtain ⟨before, later, hl, hbefore, hlater⟩ := ih
    rw [List.foldl_append, List.foldl_cons, List.foldl_nil, ← List.cons_append]
    generalize rest.foldl (fun best b => if beats b best then b else best) a = best at hl hbefore hlater
    by_cases hb : beats b best = true
    · rw [if_pos hb]
      refine ⟨a :: rest, [], rfl, fun x hx => ?_, fun x hx => (List.not_mem_nil hx).elim⟩
      rw [hl] at hx
      rcases List.mem_append.1 hx with hx | hx
      · exact htrans b best x hb (hbefore x hx)
      · rcases List.mem_cons.1 hx with rfl | hx
        · exact hb
        · exact hnot b best x hb (hlater x hx)
    · rw [if_neg hb, hl]
      refine ⟨before, later ++ [b], List.append_assoc before (best :: later) [b], hbefore, fun x hx => ?_⟩
      rcases List.mem_append.1 hx with hx | hx
      · exact hlater x hx
      · rw [List.mem_singleton.1 hx]
        exact Bool.eq_false_iff.2 hb

/-- **The least item is the one that stands between items that it precedes and items that do not precede it.** -/
theorem leastBy?_eq_some_iff (htrans : ∀ a b c, beats a b = true → beats b c = true → beats a c = true)
    (hnot : ∀ a b c, beats a b = true → beats c b = false → beats a c = true) {l : List α} {a : α} :
    leastBy? beats l = some a ↔ Chosen beats l a := by
  cases l with
  | nil =>
    refine ⟨fun h => ?_, fun h => ?_⟩
    · cases h
    · cases h.mem
  | cons x rest =>
    have hchosen := chosen_foldl htrans hnot x rest
    refine ⟨fun h => ?_, fun h => congrArg some (hchosen.unique h)⟩
    cases h
    exact hchosen

/-- **Where of any two items one beats the other, the item that beats all others is chosen.** -/
theorem leastBy?_eq_some_iff_beats (htrans : ∀ a b c, beats a b = true → beats b c = true → beats a c = true)
    (hnot : ∀ a b c, beats a b = true → beats c b = false → beats a c = true) {l : List α}
    (hone : ∀ a ∈ l, ∀ b ∈ l, a ≠ b → beats a b = !beats b a) {a : α} :
    leastBy? beats l = some a ↔ a ∈ l ∧ ∀ b ∈ l, b ≠ a → beats a b = true := by
  have hbeats {x : α} (hx : leastBy? beats l = some x) : ∀ b ∈ l, b ≠ x → beats x b = true := by
    have hchosen := (leastBy?_eq_some_iff htrans hnot).1 hx
    intro b hb hne
    obtain ⟨before, later, rfl, hbefore, hlater⟩ := hchosen
    rcases List.mem_append.1 hb with hmem | hmem
    · exact hbefore b hmem
    · rcases List.mem_cons.1 hmem with rfl | hmem
      · exact absurd rfl hne
      · rw [hone x (List.mem_append_right _ List.mem_cons_self) b hb (Ne.symm hne), hlater b hmem]
        rfl
  constructor
  · exact fun h => ⟨mem_of_leastBy? h, hbeats h⟩
  · rintro ⟨ha, hall⟩
    cases hx : leastBy? beats l with
    | none =>
      rw [leastBy?_eq_none_iff.1 hx] at ha
      exact absurd ha List.not_mem_nil
    | some x =>
      by_contra hne
      have hne : a ≠ x := fun heq => hne (congrArg some heq.symm)
      -- of two items that each beat all others, each beats the other
      have hxa := hone x (mem_of_leastBy? hx) a ha hne.symm
      rw [hbeats hx a ha hne, hall x (mem_of_leastBy? hx) hne.symm] at hxa
      cases hxa

/-- **It is chosen in whatever order the items stand.** -/
theorem leastBy?_of_perm (htrans : ∀ a b c, beats a b = true → beats b c = true → beats a c = true)
    (hnot : ∀ a b c, beats a b = true → beats c b = false → beats a c = true) {l l' : List α} (hp : l'.Perm l)
    (hone : ∀ a ∈ l, ∀ b ∈ l, a ≠ b → beats a b = !beats b a) : leastBy? beats l' = leastBy? beats l := by
  have hone' : ∀ a ∈ l', ∀ b ∈ l', a ≠ b → beats a b = !beats b a :=
    fun a ha b hb => hone a (hp.mem_iff.1 ha) b (hp.mem_iff.1 hb)
  apply Option.ext
  intro a
  rw [leastBy?_eq_some_iff_beats htrans hnot hone, leastBy?_eq_some_iff_beats htrans hnot hone']
  simp only [hp.mem_iff]

section Greatest

variable {κ : Type} [LinearOrder κ] {key : α → κ} {l : List α} {a : α}

/-- **The greatest item is the last of those whose key is the greatest.** -/
theorem lastGreatest?_eq_some_iff :
    lastGreatest? key l = some a ↔
      ∃ before later, l = before ++ a :: later ∧ (∀ b ∈ before, key b ≤ key a) ∧ ∀ b ∈ later, key b < key a := by
  have hbeats (a b : α) : (compare (key b) (key a)).isLE = decide (key b ≤ key a) := by
    rw [Bool.eq_iff_iff, decide_eq_true_iff, Ordering.isLE_iff_ne_gt]
    exact compare_le_iff_le
  rw [lastGreatest?_eq_leastBy?]
  simp only [hbeats]
  rw [leastBy?_eq_some_iff]
  · simp only [Chosen, decide_eq_true_iff, decide_eq_false_iff_not, not_le]
  · simp only [decide_eq_true_iff]
    exact fun _ _ _ hab hbc => hbc.trans hab
  · simp only [decide_eq_true_iff, decide_eq_false_iff_not, not_le]
    exact fun _ _ _ hab hbc => hbc.le.trans hab

/-- **Where the items stand in an order, the greatest is the item with the greatest key, and of those the last in that
order.** -/
theorem lastGreatest?_eq_some_iff_of_pairwise {ι : Type} [LinearOrder ι] {pos : α → ι}
    (hl : l.Pairwise (fun a b => pos a < pos b)) :
    lastGreatest? key l = some a ↔ a ∈ l ∧ ∀ b ∈ l, toLex (key b, pos b) ≤ toLex (key a, pos a) := by
  rw [lastGreatest?_eq_some_iff]
  constructor
  · rintro ⟨before, later, rfl, hbefore, hlater⟩
    refine ⟨List.mem_append_right _ List.mem_cons_self, fun b hb => ?_⟩
    have hplaces := (List.pairwise_append.1 hl).2.2
    rcases List.mem_append.1 hb with hb | hb
    · exact Prod.Lex.toLex_le_toLex'.2 ⟨hbefore b hb, fun _ => (hplaces b hb a List.mem_cons_self).le⟩
    · rcases List.mem_cons.1 hb with rfl | hb
      · exact le_rfl
      · exact Prod.Lex.toLex_le_toLex.2 (.inl (hlater b hb))
  · rintro ⟨ha, hall⟩
    obtain ⟨before, later, rfl⟩ := List.append_of_mem ha
    refine ⟨before, later, rfl, fun b hb => ?_, fun b hb => ?_⟩
    · exact (Prod.Lex.toLex_le_toLex'.1 (hall b (List.mem_append_left _ hb))).1
    · have hplace := (List.pairwise_cons.1 (List.pairwise_append.1 hl).2.1).1 b hb
      rcases Prod.Lex.toLex_le_toLex.1 (hall b (List.mem_append_right _ (List.mem_cons_of_mem _ hb))) with hlt | hsame
      · exact hlt
      · exact absurd hsame.2 hplace.not_ge

end Greatest

/-- How far a tick is from another: the distance, and of two at one distance the earlier is nearer. -/
def Tick.apart (tick other : Tick) : Nat ×ₗ Tick := toLex ((other - tick).natAbs, other)

/-- **The item nearest to a tick is the first of those that nothing is nearer than.** -/
theorem nearestTo?_eq_some_iff {tick : Tick} {tickOf : α → Tick} {l : List α} {a : α} :
    nearestTo? tick tickOf l = some a ↔
      ∃ before later, l = before ++ a :: later ∧
        (∀ b ∈ before, Tick.apart tick (tickOf a) < Tick.apart tick (tickOf b)) ∧
        ∀ b ∈ later, Tick.apart tick (tickOf a) ≤ Tick.apart tick (tickOf b) := by
  have hbeats (a b : α) :
      ((tickOf a - tick).natAbs < (tickOf b - tick).natAbs ||
        ((tickOf a - tick).natAbs = (tickOf b - tick).natAbs && tickOf a < tickOf b)) =
        decide (Tick.apart tick (tickOf a) < Tick.apart tick (tickOf b)) := by
    rw [Bool.eq_iff_iff, decide_eq_true_iff, Tick.apart, Tick.apart, Prod.Lex.toLex_lt_toLex]
    simp only [Bool.or_eq_true, Bool.and_eq_true, decide_eq_true_iff]
  unfold nearestTo?
  simp only [hbeats]
  rw [leastBy?_eq_some_iff]
  · simp only [Chosen, decide_eq_true_iff, decide_eq_false_iff_not, not_lt]
  · simp only [decide_eq_true_iff]
    exact fun _ _ _ hab hbc => hab.trans hbc
  · simp only [decide_eq_true_iff, decide_eq_false_iff_not, not_lt]
    exact fun _ _ _ hab hbc => hab.trans_le hbc

/-! ### One more item near a tick -/

section Nearest

variable {tick : Tick} {tickOf : α → Tick} {l₁ l₂ : List α} {a x : α}

/-- Two ticks are equally far from a tick only if they are one. -/
theorem Tick.apart_inj {tick a b : Tick} (h : Tick.apart tick a = Tick.apart tick b) : a = b :=
  congrArg (fun x => (ofLex x).2) h

theorem apart_le_of_nearestTo? {l : List α} (h : nearestTo? tick tickOf l = some a) {b : α} (hb : b ∈ l) :
    Tick.apart tick (tickOf a) ≤ Tick.apart tick (tickOf b) := by
  obtain ⟨before, later, rfl, hbefore, hlater⟩ := nearestTo?_eq_some_iff.1 h
  rcases List.mem_append.1 hb with hb | hb
  · exact (hbefore b hb).le
  · rcases List.mem_cons.1 hb with rfl | hb
    · exact le_rfl
    · exact hlater b hb

/-- **An item farther away than the nearest is not nearest.** -/
theorem nearestTo?_insert_farther (h : nearestTo? tick tickOf (l₁ ++ l₂) = some a)
    (hx : Tick.apart tick (tickOf a) < Tick.apart tick (tickOf x)) :
    nearestTo? tick tickOf (l₁ ++ x :: l₂) = some a := by
  obtain ⟨before, later, hl, hbefore, hlater⟩ := nearestTo?_eq_some_iff.1 h
  refine nearestTo?_eq_some_iff.2 ?_
  -- the new item stands before the nearest or after it
  have hcase : (∃ mid, l₁ = before ++ a :: mid ∧ later = mid ++ l₂) ∨ ∃ mid, before = l₁ ++ mid ∧ l₂ = mid ++ a :: later := by
    rcases List.append_eq_append_iff.1 hl with ⟨mid, hb, hr⟩ | ⟨mid, hb, hr⟩
    · exact .inr ⟨mid, hb, hr⟩
    · cases mid with
      | nil => exact .inr ⟨[], by simpa using hb.symm, hr.symm⟩
      | cons y mid =>
        obtain ⟨rfl, hlater⟩ := List.cons.inj hr
        exact .inl ⟨mid, hb, hlater⟩
  rcases hcase with ⟨mid, rfl, rfl⟩ | ⟨mid, rfl, rfl⟩
  · refine ⟨before, mid ++ x :: l₂, by simp, hbefore, fun b hb => ?_⟩
    rcases List.mem_append.1 hb with hb | hb
    · exact hlater b (List.mem_append_left _ hb)
    · rcases List.mem_cons.1 hb with rfl | hb
      · exact hx.le
      · exact hlater b (List.mem_append_right _ hb)
  · refine ⟨l₁ ++ x :: mid, later, by simp, fun b hb => ?_, hlater⟩
    rcases List.mem_append.1 hb with hb | hb
    · exact hbefore b (List.mem_append_left _ hb)
    · rcases List.mem_cons.1 hb with rfl | hb
      · exact hx
      · exact hbefore b (List.mem_append_right _ hb)

/-- An item nearer than all others is nearest. -/
theorem nearestTo?_insert_nearer (h : ∀ b ∈ l₁ ++ l₂, Tick.apart tick (tickOf x) < Tick.apart tick (tickOf b)) :
    nearestTo? tick tickOf (l₁ ++ x :: l₂) = some x :=
  nearestTo?_eq_some_iff.2 ⟨l₁, l₂, rfl, fun b hb => h b (List.mem_append_left _ hb),
    fun b hb => (h b (List.mem_append_right _ hb)).le⟩

end Nearest

end Choice

/-! ## Order -/

section Order

variable {α κ : Type} [Ord κ] {key : α → κ}

theorem pairwise_zipIdx (l : List α) : l.zipIdx.Pairwise (fun a b => a.2 < b.2) := by
  refine (List.pairwise_map (f := Prod.snd) (R := (· < ·))).1 ?_
  rw [List.zipIdx_map_snd]
  exact List.pairwise_lt_range'

theorem mem_sortByKey {l : List α} {a : α} : a ∈ sortByKey key l ↔ a ∈ l := List.mem_mergeSort

theorem pairwise_sortByKey [Std.TransOrd κ] (key : α → κ) (l : List α) :
    (sortByKey key l).Pairwise (fun a b => (compare (key a) (key b)).isLE = true) := by
  refine List.pairwise_mergeSort (fun _ _ _ => Std.TransCmp.isLE_trans) (fun a b => ?_) l
  cases hab : compare (key a) (key b) with
  | lt | eq => rfl
  | gt =>
    rw [Std.OrientedCmp.gt_iff_lt.1 hab]
    rfl

/-- **Items of different keys have one order.** -/
theorem sortByKey_of_perm [Std.TransOrd κ] [Std.LawfulEqOrd κ] {l l' : List α} (hp : l'.Perm l)
    (hone : ∀ a ∈ l, ∀ b ∈ l, key a = key b → a = b) : sortByKey key l' = sortByKey key l := by
  refine List.Perm.eq_of_pairwise (fun a b ha hb hab hba => ?_) (pairwise_sortByKey key l') (pairwise_sortByKey key l)
    ((List.mergeSort_perm l' _).trans (hp.trans (List.mergeSort_perm l _).symm))
  have heq : key a = key b := Std.LawfulEqCmp.eq_of_compare (Std.OrientedCmp.isLE_antisymm hab hba)
  exact hone a (hp.mem_iff.1 (mem_sortByKey.1 ha)) b (mem_sortByKey.1 hb) heq

end Order

/-- The item that is found under a key, where no two have one key. -/
theorem find?_eq_some_iff_of_nodup {α κ : Type} [DecidableEq κ] {key : α → κ} {l : List α} (hone : (l.map key).Nodup)
    {k : κ} {a : α} : l.find? (fun x => key x = k) = some a ↔ a ∈ l ∧ key a = k := by
  constructor
  · exact fun h => ⟨List.mem_of_find?_eq_some h, by simpa using List.find?_some h⟩
  · rintro ⟨ha, hk⟩
    obtain ⟨b, hb⟩ : ∃ b, l.find? (fun x => key x = k) = some b :=
      Option.isSome_iff_exists.1 (List.find?_isSome.2 ⟨a, ha, by simpa using hk⟩)
    have hkey : key b = k := by simpa using List.find?_some hb
    rw [hb, List.inj_on_of_nodup_map hone (List.mem_of_find?_eq_some hb) ha (hkey.trans hk.symm)]

/-- **The first item of an ordered list that passes a test goes before all others that do.** -/
theorem find?_eq_some_iff_of_pairwise {α : Type} {before : α → α → Prop} (hasymm : ∀ a b, before a b → ¬ before b a)
    {test : α → Bool} {a : α} : ∀ {l : List α}, l.Pairwise before →
      (l.find? test = some a ↔
        a ∈ l ∧ test a = true ∧ ∀ b ∈ l, test b = true → b ≠ a → before a b)
  | [], _ => by simp
  | x :: l, h => by
    obtain ⟨hx, hl⟩ := List.pairwise_cons.1 h
    rw [List.find?_cons]
    cases htest : test x with
    | true =>
      constructor
      · rintro ⟨⟩
        refine ⟨List.mem_cons_self, htest, fun b hb _ hne => ?_⟩
        exact hx b ((List.mem_cons.1 hb).resolve_left hne)
      · rintro ⟨ha, -, hfirst⟩
        by_contra hne
        have hne : x ≠ a := fun heq => hne (congrArg some heq)
        have hlater := (List.mem_cons.1 ha).resolve_left hne.symm
        exact hasymm _ _ (hx a hlater) (hfirst x List.mem_cons_self htest hne)
    | false =>
      rw [find?_eq_some_iff_of_pairwise hasymm hl]
      constructor
      · rintro ⟨ha, hpass, hfirst⟩
        refine ⟨List.mem_cons_of_mem _ ha, hpass, fun b hb hb' => ?_⟩
        rcases List.mem_cons.1 hb with rfl | hb
        · rw [htest] at hb'
          cases hb'
        · exact hfirst b hb hb'
      · rintro ⟨ha, hpass, hfirst⟩
        rcases List.mem_cons.1 ha with rfl | ha
        · rw [htest] at hpass
          cases hpass
        · exact ⟨ha, hpass, fun b hb => hfirst b (List.mem_cons_of_mem _ hb)⟩

end Scorebook
