import Mathlib.Data.List.Sort
import Scorebook.Table
/-!
# What a table holds after each operation

Entries and look-ups say the same of a table (`mem_entries_iff`), so that everything else is said of look-ups.
-/
namespace Scorebook.Table

open Std (TransOrd LawfulEqOrd TransCmp LawfulEqCmp OrientedCmp)

variable {κ α β : Type} [Ord κ]

theorem compare_eq_iff [LawfulEqOrd κ] {a b : κ} : compare a b = .eq ↔ a = b :=
  ⟨LawfulEqCmp.eq_of_compare, fun h => h ▸ Std.ReflCmp.compare_self⟩

/-! ## Entries and look-ups -/

theorem find?_eq_some_of_mem [TransOrd κ] [LawfulEqOrd κ] {k : κ} {v : α} :
    ∀ {l : List (κ × α)}, l.Pairwise keyLt → (k, v) ∈ l →
      l.find? (fun e => compare e.1 k == .eq) = some (k, v)
  | [], _, h => by cases h
  | d :: rest, hs, h => by
    rw [List.find?_cons]
    rcases List.mem_cons.1 h with rfl | hmem
    · simp
    · have hlt : compare d.1 k = .lt := List.rel_of_pairwise_cons hs hmem
      simp only [hlt]
      exact find?_eq_some_of_mem hs.of_cons hmem

/-- **An entry is what its key is bound to.** -/
theorem mem_entries_iff [TransOrd κ] [LawfulEqOrd κ] {t : Table κ α} {k : κ} {v : α} :
    (k, v) ∈ t.entries ↔ t.get? k = some v := by
  constructor
  · intro h
    rw [get?, find?_eq_some_of_mem t.sorted h]
    rfl
  · intro h
    obtain ⟨e, he, rfl⟩ := Option.map_eq_some_iff.1 h
    have hk : compare e.1 k = .eq := by simpa using List.find?_some he
    rw [← compare_eq_iff.1 hk]
    exact List.mem_of_find?_eq_some he

theorem get?_eq_none_iff [TransOrd κ] [LawfulEqOrd κ] {t : Table κ α} {k : κ} :
    t.get? k = none ↔ k ∉ t.keys := by
  rw [keys, List.mem_map]
  constructor
  · rintro h ⟨⟨k', v⟩, he, rfl⟩
    rw [mem_entries_iff.1 he] at h
    cases h
  · intro h
    cases hg : t.get? k with
    | none => rfl
    | some v => exact absurd ⟨(k, v), mem_entries_iff.2 hg, rfl⟩ h

theorem contains_iff {t : Table κ α} {k : κ} : t.contains k = true ↔ ∃ v, t.get? k = some v :=
  Option.isSome_iff_exists

theorem contains_iff_mem_keys [TransOrd κ] [LawfulEqOrd κ] {t : Table κ α} {k : κ} :
    t.contains k = true ↔ k ∈ t.keys := by
  rw [contains, ← not_iff_not, Bool.not_eq_true, Option.isSome_eq_false_iff, Option.isNone_iff_eq_none,
    get?_eq_none_iff]

theorem mem_values_iff [TransOrd κ] [LawfulEqOrd κ] {t : Table κ α} {v : α} :
    v ∈ t.values ↔ ∃ k, t.get? k = some v := by
  rw [values, List.mem_map]
  constructor
  · rintro ⟨⟨k, v⟩, he, rfl⟩
    exact ⟨k, mem_entries_iff.1 he⟩
  · rintro ⟨k, h⟩
    exact ⟨(k, v), mem_entries_iff.2 h, rfl⟩

theorem keys_nodup [LawfulEqOrd κ] (t : Table κ α) : t.keys.Nodup := by
  rw [keys, List.Nodup, List.pairwise_map]
  refine t.sorted.imp (fun {a b} hab heq => ?_)
  rw [keyLt, heq, compare_eq_iff.2 rfl] at hab
  cases hab

theorem filter_map_values [LawfulEqOrd κ] [DecidableEq κ] {f : α → κ} {k : κ} :
    ∀ {l : List (κ × α)}, l.Pairwise keyLt → (∀ e ∈ l, f e.2 = e.1) →
      (l.map (·.2)).filter (fun v => f v = k) =
        ((l.find? (fun e => compare e.1 k == .eq)).map (·.2)).toList
  | [], _, _ => rfl
  | d :: rest, hs, hf => by
    have hd : f d.2 = d.1 := hf d List.mem_cons_self
    rw [List.map_cons, List.filter_cons, List.find?_cons, hd]
    by_cases hk : d.1 = k
    · have hrest : (rest.map (·.2)).filter (fun v => f v = k) = [] := by
        refine List.filter_eq_nil_iff.2 (fun v hv => ?_)
        obtain ⟨e, he, rfl⟩ := List.mem_map.1 hv
        have hlt : compare d.1 e.1 = .lt := List.rel_of_pairwise_cons hs he
        rw [hf e (List.mem_cons_of_mem _ he), decide_eq_true_eq]
        intro hek
        rw [hk, hek, compare_eq_iff.2 rfl] at hlt
        cases hlt
      rw [hrest]
      simp [hk]
    · have hne : (compare d.1 k == .eq) = false := by
        rw [beq_eq_false_iff_ne]
        exact fun h => hk (compare_eq_iff.1 h)
      simp only [hk, hne, decide_false, Bool.false_eq_true, if_false]
      exact filter_map_values hs.of_cons (fun e he => hf e (List.mem_cons_of_mem _ he))

/-- **The value that carries a key**, in a table whose values carry their keys, is what the key is bound to. -/
theorem filter_values [TransOrd κ] [LawfulEqOrd κ] [DecidableEq κ] {t : Table κ α} {f : α → κ}
    (hf : ∀ k v, t.get? k = some v → f v = k) (k : κ) :
    t.values.filter (fun v => f v = k) = (t.get? k).toList :=
  filter_map_values t.sorted (fun e he => hf e.1 e.2 (mem_entries_iff.1 he))

/-! ## Insertion -/

theorem get?_insert [TransOrd κ] [LawfulEqOrd κ] [DecidableEq κ] (t : Table κ α) (k k' : κ) (v : α) :
    (t.insert k v).get? k' = if k = k' then some v else t.get? k' := by
  split
  · next h => rw [← h, get?_insert_self]
  · next h => exact get?_insert_of_ne t v h

theorem get?_update [TransOrd κ] [LawfulEqOrd κ] [DecidableEq κ] (t : Table κ α) (k k' : κ)
    (f : Option α → α) :
    (t.update k f).get? k' = if k = k' then some (f (t.get? k)) else t.get? k' :=
  get?_insert t k k' _

theorem get?_insertNew [TransOrd κ] [LawfulEqOrd κ] [DecidableEq κ] (t : Table κ α) (k k' : κ) (v : α) :
    (t.insertNew k v).get? k' = if k = k' then some ((t.get? k).getD v) else t.get? k' := by
  unfold insertNew contains
  cases hg : t.get? k with
  | none => simp [get?_insert]
  | some w =>
    simp only [Option.isSome_some, if_true, Option.getD_some]
    split
    · next h => rw [← h, hg]
    · rfl

theorem mem_of_get?_foldl_insert [TransOrd κ] [LawfulEqOrd κ] [DecidableEq κ] {k : κ} {v : α} :
    ∀ {l : List (κ × α)} {t : Table κ α}, (l.foldl (fun t e => t.insert e.1 e.2) t).get? k = some v →
      (k, v) ∈ l ∨ t.get? k = some v
  | [], _, h => .inr h
  | (k', v') :: l, t, h => by
    rcases mem_of_get?_foldl_insert (l := l) h with h | h
    · exact .inl (List.mem_cons_of_mem _ h)
    · rw [get?_insert] at h
      split at h
      · next hk =>
        cases h
        cases hk
        exact .inl List.mem_cons_self
      · exact .inr h

theorem mem_of_get?_ofList [TransOrd κ] [LawfulEqOrd κ] [DecidableEq κ] {l : List (κ × α)} {k : κ} {v : α}
    (h : (ofList l).get? k = some v) : (k, v) ∈ l :=
  (mem_of_get?_foldl_insert h).resolve_right (fun h => by cases h)

/-! ## Entries after two insertions -/

theorem insertEntry_comm_of_lt [TransOrd κ] [LawfulEqOrd κ] {k k' : κ} (h : compare k k' = .lt) (v v' : α) :
    ∀ l : List (κ × α), insertEntry k v (insertEntry k' v' l) = insertEntry k' v' (insertEntry k v l)
  | [] => by simp [insertEntry, h, OrientedCmp.gt_iff_lt.2 h]
  | d :: rest => by
    have hgt : compare k' k = .gt := OrientedCmp.gt_iff_lt.2 h
    cases hd : compare k' d.1 with
    | lt =>
      have hk : compare k d.1 = .lt := TransCmp.lt_trans h hd
      simp [insertEntry, hd, hk, h, hgt]
    | eq =>
      have hk : compare k d.1 = .lt := compare_eq_iff.1 hd ▸ h
      simp [insertEntry, hd, hk, h, hgt]
    | gt =>
      cases hk : compare k d.1 with
      | lt | eq => simp [insertEntry, hd, hk, hgt]
      | gt => simp [insertEntry, hd, hk, insertEntry_comm_of_lt h v v' rest]

/-- **Entries of two keys are made in any order.** -/
theorem insertEntry_comm [TransOrd κ] [LawfulEqOrd κ] {k k' : κ} (h : k ≠ k') (v v' : α) (l : List (κ × α)) :
    insertEntry k v (insertEntry k' v' l) = insertEntry k' v' (insertEntry k v l) := by
  cases hc : compare k k' with
  | lt => exact insertEntry_comm_of_lt hc v v' l
  | eq => exact absurd (compare_eq_iff.1 hc) h
  | gt => exact (insertEntry_comm_of_lt (OrientedCmp.gt_iff_lt.1 hc) v' v l).symm

theorem insertEntry_insertEntry [LawfulEqOrd κ] (k : κ) (v v' : α) :
    ∀ l : List (κ × α), insertEntry k v (insertEntry k v' l) = insertEntry k v l
  | [] => by simp [insertEntry]
  | d :: rest => by
    cases hd : compare k d.1 with
    | lt | eq => simp [insertEntry, hd]
    | gt => simp [insertEntry, hd, insertEntry_insertEntry k v v' rest]

theorem insertEntry_ne_nil {k : κ} {v : α} : ∀ {l : List (κ × α)}, insertEntry k v l ≠ []
  | [] => List.cons_ne_nil _ _
  | d :: rest => by
    unfold insertEntry
    split <;> exact List.cons_ne_nil _ _

theorem insertEntry_of_lt [TransOrd κ] {k : κ} (v : α) :
    ∀ {l : List (κ × α)}, (∀ e ∈ l, compare e.1 k = .lt) → insertEntry k v l = l ++ [(k, v)]
  | [], _ => rfl
  | d :: rest, h => by
    have hd : compare k d.1 = .gt := OrientedCmp.gt_iff_lt.2 (h d List.mem_cons_self)
    simp only [insertEntry, hd, List.cons_append]
    rw [insertEntry_of_lt v (fun e he => h e (List.mem_cons_of_mem _ he))]

/-! ## Removal and change of values -/

theorem find?_map_values [LawfulEqOrd κ] (f : κ → α → β) (k : κ) :
    ∀ l : List (κ × α), ((l.map (fun e => (e.1, f e.1 e.2))).find? (fun e => compare e.1 k == .eq)).map (·.2) =
      ((l.find? (fun e => compare e.1 k == .eq)).map (·.2)).map (f k)
  | [] => rfl
  | d :: rest => by
    rw [List.map_cons, List.find?_cons, List.find?_cons]
    cases hk : compare d.1 k == .eq with
    | true =>
      have : d.1 = k := compare_eq_iff.1 (by simpa using hk)
      simp [this]
    | false => exact find?_map_values f k rest

@[simp] theorem get?_mapValues [LawfulEqOrd κ] (t : Table κ α) (f : κ → α → β) (k : κ) :
    (t.mapValues f).get? k = (t.get? k).map (f k) :=
  find?_map_values f k t.entries

theorem get?_modify [LawfulEqOrd κ] [DecidableEq κ] (t : Table κ α) (k k' : κ) (f : α → α) :
    (t.modify k f).get? k' = if k = k' then (t.get? k').map f else t.get? k' := by
  rw [modify, get?_mapValues]
  by_cases h : k = k'
  · have : compare k' k = .eq := compare_eq_iff.2 h.symm
    simp [h]
  · have : ¬ compare k' k = .eq := fun h' => h (compare_eq_iff.1 h').symm
    simp [h, this]

theorem map_get?_modify [LawfulEqOrd κ] [DecidableEq κ] (t : Table κ α) (k k' : κ) {f : α → α} (g : α → β)
    (hf : ∀ v, g (f v) = g v) : ((t.modify k f).get? k').map g = (t.get? k').map g := by
  rw [get?_modify]
  split
  · rw [Option.map_map]
    exact congrFun (congrArg Option.map (funext hf)) _
  · rfl

@[simp] theorem contains_modify [LawfulEqOrd κ] [DecidableEq κ] (t : Table κ α) (k k' : κ) (f : α → α) :
    (t.modify k f).contains k' = t.contains k' := by
  rw [contains, contains, get?_modify]
  split
  · rw [Option.isSome_map]
  · rfl

theorem get?_erase [LawfulEqOrd κ] [TransOrd κ] [DecidableEq κ] (t : Table κ α) (k k' : κ) :
    (t.erase k).get? k' = if k = k' then none else t.get? k' := by
  have hmem : ∀ v, (k', v) ∈ (t.erase k).entries ↔ k ≠ k' ∧ (k', v) ∈ t.entries := by
    intro v
    have hne : (compare k' k != .eq) = true ↔ k ≠ k' := by
      rw [bne_iff_ne, ne_eq, compare_eq_iff, eq_comm]
    simp only [erase, List.mem_filter, hne]
    exact and_comm
  apply Option.ext
  intro v
  rw [← mem_entries_iff, hmem, mem_entries_iff]
  split
  · next h => simp [h]
  · next h => simp [h]

theorem entries_erase [LawfulEqOrd κ] [DecidableEq κ] (t : Table κ α) (k : κ) :
    (t.erase k).entries = t.entries.filter (fun e => !decide (k = e.1)) := by
  refine List.filter_congr (fun e _ => ?_)
  rw [Bool.eq_iff_iff, bne_iff_ne, ne_eq, compare_eq_iff, Bool.not_eq_true', decide_eq_false_iff_not, eq_comm]

/-! ## Tables that hold the same -/

/-- **A table is what its look-ups say.** -/
theorem ext_get? [TransOrd κ] [LawfulEqOrd κ] {t u : Table κ α} (h : ∀ k, t.get? k = u.get? k) : t = u := by
  have hirrefl : Std.Irrefl (keyLt : κ × α → κ × α → Prop) := by
    refine ⟨fun a ha => ?_⟩
    rw [keyLt, compare_eq_iff.2 rfl] at ha
    cases ha
  have hantisymm : Std.Antisymm (keyLt : κ × α → κ × α → Prop) := by
    refine ⟨fun a b hab hba => ?_⟩
    exact absurd (TransCmp.lt_trans hab hba) (hirrefl.irrefl a)
  refine ext (t.sorted.eq_of_mem_iff u.sorted (fun e => ?_))
  obtain ⟨k, v⟩ := e
  rw [mem_entries_iff, mem_entries_iff, h]

theorem insert_insert [TransOrd κ] [LawfulEqOrd κ] (t : Table κ α) (k : κ) (v w : α) :
    (t.insert k v).insert k w = t.insert k w :=
  ext (insertEntry_insertEntry k w v t.entries)

theorem insert_comm [TransOrd κ] [LawfulEqOrd κ] (t : Table κ α) {k k' : κ} (v v' : α) (h : k ≠ k') :
    (t.insert k v).insert k' v' = (t.insert k' v').insert k v :=
  ext (insertEntry_comm h.symm v' v t.entries)

theorem erase_of_get?_none [TransOrd κ] [LawfulEqOrd κ] [DecidableEq κ] {t : Table κ α} {k : κ}
    (h : t.get? k = none) : t.erase k = t := by
  apply ext_get?
  intro k'
  rw [get?_erase]
  split
  · next hk => rw [← hk, h]
  · rfl

theorem modify_of_get?_none [TransOrd κ] [LawfulEqOrd κ] [DecidableEq κ] {t : Table κ α} {k : κ}
    (h : t.get? k = none) (f : α → α) : t.modify k f = t := by
  apply ext_get?
  intro k'
  rw [get?_modify]
  split
  · next hk => rw [← hk, h]; rfl
  · rfl

theorem insertEntry_split {k : κ} (v : α) [LawfulEqOrd κ] :
    ∀ {l : List (κ × α)}, (∀ e ∈ l, e.1 ≠ k) →
      ∃ before after, l = before ++ after ∧ insertEntry k v l = before ++ (k, v) :: after
  | [], _ => ⟨[], [], rfl, rfl⟩
  | d :: rest, h => by
    unfold insertEntry
    split
    · exact ⟨[], d :: rest, rfl, rfl⟩
    · next heq => exact absurd (compare_eq_iff.1 heq).symm (h d List.mem_cons_self)
    · obtain ⟨before, after, hl, hi⟩ := insertEntry_split v (fun e he => h e (List.mem_cons_of_mem _ he))
      exact ⟨d :: before, after, by rw [hl, List.cons_append], by rw [hi, List.cons_append]⟩

/-- **A new key gets its place among the others.** -/
theorem insert_of_get?_none [TransOrd κ] [LawfulEqOrd κ] {t : Table κ α} {k : κ} (h : t.get? k = none) (v : α) :
    ∃ before after, t.values = before ++ after ∧ (t.insert k v).values = before ++ v :: after := by
  have hne : ∀ e ∈ t.entries, e.1 ≠ k := by
    intro e he hk
    have hmem : (k, e.2) ∈ t.entries := hk ▸ he
    rw [mem_entries_iff, h] at hmem
    cases hmem
  obtain ⟨before, after, hl, hi⟩ := insertEntry_split v hne
  refine ⟨before.map (·.2), after.map (·.2), ?_, ?_⟩
  · rw [values, hl, List.map_append]
  · show (insertEntry k v t.entries).map (·.2) = _
    rw [hi, List.map_append, List.map_cons]

/-! ## Keys, and how many there are -/

/-- The values of a table are what its keys are bound to. -/
theorem map_getD_keys [TransOrd κ] [LawfulEqOrd κ] (t : Table κ α) (d : α) :
    t.keys.map (fun k => (t.get? k).getD d) = t.values := by
  rw [keys, values, List.map_map]
  refine List.map_congr_left (fun e he => ?_)
  rw [Function.comp_apply, mem_entries_iff.1 he]
  rfl

theorem size_eq_length_keys (t : Table κ α) : t.size = t.keys.length := by rw [size, keys, List.length_map]

@[simp] theorem keys_mapValues (t : Table κ α) (f : κ → α → β) : (t.mapValues f).keys = t.keys := by
  rw [keys, keys, mapValues, List.map_map]
  rfl

@[simp] theorem keys_modify (t : Table κ α) (k : κ) (f : α → α) : (t.modify k f).keys = t.keys :=
  keys_mapValues t _

/-- **Tables that bind the same keys list the same keys.** -/
theorem keys_eq_of_contains [TransOrd κ] [LawfulEqOrd κ] {t : Table κ α} {u : Table κ β}
    (h : ∀ k, t.contains k = u.contains k) : t.keys = u.keys := by
  have hbare : t.mapValues (fun _ _ => ()) = u.mapValues (fun _ _ => ()) := by
    apply ext_get?
    intro k
    have hk := h k
    rw [contains, contains] at hk
    rw [get?_mapValues, get?_mapValues]
    cases ht : t.get? k <;> cases hu : u.get? k <;> simp [ht, hu] at hk ⊢
  rw [← keys_mapValues t (fun _ _ => ()), hbare, keys_mapValues]

theorem contains_eq_of_keys [TransOrd κ] [LawfulEqOrd κ] {t : Table κ α} {u : Table κ β} (h : t.keys = u.keys) (k : κ) :
    t.contains k = u.contains k := by
  rw [Bool.eq_iff_iff, contains_iff_mem_keys, contains_iff_mem_keys, h]

theorem contains_insert [TransOrd κ] [LawfulEqOrd κ] [DecidableEq κ] (t : Table κ α) (k k' : κ) (v : α) :
    (t.insert k v).contains k' = (k = k' || t.contains k') := by
  rw [contains, get?_insert, contains]
  by_cases hk : k = k' <;> simp [hk]

theorem contains_foldl_insert [TransOrd κ] [LawfulEqOrd κ] [DecidableEq κ] {k : κ} :
    ∀ {l : List (κ × α)} {t : Table κ α},
      (l.foldl (fun t e => t.insert e.1 e.2) t).contains k = true ↔ (∃ e ∈ l, e.1 = k) ∨ t.contains k = true
  | [], _ => by simp
  | e :: l, t => by
    rw [List.foldl_cons, contains_foldl_insert, contains_insert]
    simp [or_assoc, or_left_comm]

/-- A table has the keys of the list that it was made of. -/
theorem contains_ofList [TransOrd κ] [LawfulEqOrd κ] [DecidableEq κ] {l : List (κ × α)} {k : κ} :
    (ofList l).contains k = true ↔ ∃ e ∈ l, e.1 = k := by
  rw [ofList, contains_foldl_insert]
  exact or_iff_left Bool.false_ne_true

/-- **A table made of entries with different keys has these entries.** -/
theorem entries_ofList_perm [TransOrd κ] [LawfulEqOrd κ] [DecidableEq κ] {l : List (κ × α)} (h : (l.map (·.1)).Nodup) :
    (ofList l).entries.Perm l := by
  have hentries : (ofList l).entries.Nodup := List.Nodup.of_map _ (keys_nodup (ofList l))
  refine (List.perm_ext_iff_of_nodup hentries (List.Nodup.of_map _ h)).2 (fun e => ?_)
  obtain ⟨k, v⟩ := e
  rw [mem_entries_iff]
  refine ⟨mem_of_get?_ofList, fun hmem => ?_⟩
  obtain ⟨v', hv'⟩ := contains_iff.1 (contains_ofList.2 ⟨(k, v), hmem, rfl⟩)
  have hsame := List.inj_on_of_nodup_map h hmem (mem_of_get?_ofList hv') rfl
  rw [hv', (Prod.mk.inj hsame).2]

/-- **A table grows with a new key, and not with one that it has.** -/
theorem size_insert [TransOrd κ] [LawfulEqOrd κ] [DecidableEq κ] (t : Table κ α) (k : κ) (v : α) :
    (t.insert k v).size = if t.contains k then t.size else t.size + 1 := by
  split
  · next hk =>
    have hkeys : (t.insert k v).keys = t.keys := by
      refine keys_eq_of_contains (fun k' => ?_)
      rw [contains_insert]
      by_cases heq : k = k'
      · simp [← heq, hk]
      · simp [heq]
    rw [size_eq_length_keys, hkeys, size_eq_length_keys]
  · next hk =>
    have hnone : t.get? k = none := by simpa [contains] using hk
    obtain ⟨before, after, ht, hi⟩ := insert_of_get?_none hnone v
    have hsize {u : Table κ α} : u.size = u.values.length := by rw [size, values, List.length_map]
    rw [hsize, hsize, hi, ht, List.length_append, List.length_append, List.length_cons, Nat.add_assoc]

/-! ## Changing all values, and one of them -/

theorem mapValues_insert [TransOrd κ] [LawfulEqOrd κ] [DecidableEq κ] (t : Table κ α) (k : κ) (v : α) (g : κ → α → β) :
    (t.insert k v).mapValues g = (t.mapValues g).insert k (g k v) := by
  apply ext_get?
  intro k'
  simp only [get?_mapValues, get?_insert]
  by_cases hk : k = k'
  · simp [hk]
  · simp [hk]

theorem mapValues_modify [TransOrd κ] [LawfulEqOrd κ] [DecidableEq κ] (t : Table κ α) (k : κ) {f : α → α} {g : κ → α → β}
    {f' : β → β} (h : ∀ v, g k (f v) = f' (g k v)) : (t.modify k f).mapValues g = (t.mapValues g).modify k f' := by
  apply ext_get?
  intro k'
  simp only [get?_mapValues, get?_modify]
  by_cases hk : k = k'
  · subst hk
    simp [Option.map_map, Function.comp_def, h]
  · simp [hk]

/-! ## What holds of every entry -/

/-- Every key is bound to a value that fits it. -/
def All (P : κ → α → Prop) (t : Table κ α) : Prop := ∀ ⦃k : κ⦄ ⦃v : α⦄, t.get? k = some v → P k v

section All

variable {P Q : κ → α → Prop} {t : Table κ α}

theorem all_empty : (∅ : Table κ α).All P := by
  intro k v h
  cases h

theorem All.imp (h : t.All P) (hpq : ∀ k v, P k v → Q k v) : t.All Q := fun k v hg => hpq k v (h hg)

theorem All.insert [TransOrd κ] [LawfulEqOrd κ] [DecidableEq κ] (h : t.All P) {k : κ} {v : α} (hv : P k v) :
    (t.insert k v).All P := by
  intro k' v' hg
  rw [get?_insert] at hg
  split at hg
  · next hk =>
    cases hg
    exact hk ▸ hv
  · exact h hg

theorem All.erase [TransOrd κ] [LawfulEqOrd κ] [DecidableEq κ] (h : t.All P) (k : κ) : (t.erase k).All P := by
  intro k' v' hg
  rw [get?_erase] at hg
  split at hg
  · cases hg
  · exact h hg

theorem All.modify [LawfulEqOrd κ] [DecidableEq κ] (h : t.All P) {k : κ} {f : α → α} (hf : ∀ v, P k v → P k (f v)) :
    (t.modify k f).All P := by
  intro k' v' hg
  rw [get?_modify] at hg
  split at hg
  · next hk =>
    obtain ⟨v, hv, rfl⟩ := Option.map_eq_some_iff.1 hg
    subst hk
    exact hf v (h hv)
  · exact h hg

theorem mapValues_of_fixed [TransOrd κ] [LawfulEqOrd κ] {f : κ → α → α} (h : t.All (fun k v => f k v = v)) :
    t.mapValues f = t := by
  apply ext_get?
  intro k
  rw [get?_mapValues]
  cases hg : t.get? k with
  | none => rfl
  | some v => exact congrArg some (h hg)

end All

end Scorebook.Table
