/-!
# Tables sorted by key

A `Table κ α` maps keys to values and lists its entries in strictly increasing order of key.  The order
is part of the type: a report that walks a table walks it in the order of its keys, whatever the order
in which the entries were made.
-/
namespace Scorebook

open Std (TransOrd LawfulEqOrd TransCmp LawfulEqCmp OrientedCmp)

/-! ## The order of pairs -/

/-- Pairs are ordered by their first part, then by their second. -/
instance pairOrd {α β : Type} [Ord α] [Ord β] : Ord (α × β) where
  compare := compareLex (compareOn Prod.fst) (compareOn Prod.snd)

instance pairTransOrd {α β : Type} [Ord α] [Ord β] [TransOrd α] [TransOrd β] : TransOrd (α × β) :=
  inferInstanceAs (TransCmp (compareLex (compareOn Prod.fst) (compareOn Prod.snd)))

instance pairLawfulEqOrd {α β : Type} [Ord α] [Ord β] [LawfulEqOrd α] [LawfulEqOrd β] :
    LawfulEqOrd (α × β) where
  compare_self := by
    intro a
    show compareLex (compareOn Prod.fst) (compareOn Prod.snd) a a = .eq
    rw [compareLex_eq_eq]
    exact ⟨Std.ReflCmp.compare_self, Std.ReflCmp.compare_self⟩
  eq_of_compare := by
    intro a b h
    have h : compareLex (compareOn Prod.fst) (compareOn Prod.snd) a b = .eq := h
    rw [compareLex_eq_eq] at h
    exact Prod.ext (LawfulEqCmp.eq_of_compare h.1) (LawfulEqCmp.eq_of_compare h.2)

/-! ## Tables -/

def keyLt {κ α : Type} [Ord κ] (a b : κ × α) : Prop := compare a.1 b.1 = .lt

/-- A finite map with its entries in strictly increasing order of key. -/
structure Table (κ : Type) [Ord κ] (α : Type) where
  entries : List (κ × α)
  sorted : entries.Pairwise keyLt

namespace Table

variable {κ α β : Type} [Ord κ]

def empty : Table κ α := ⟨[], List.Pairwise.nil⟩

instance : EmptyCollection (Table κ α) := ⟨empty⟩
instance : Inhabited (Table κ α) := ⟨empty⟩

@[simp] theorem entries_empty : (∅ : Table κ α).entries = [] := rfl

@[ext] theorem ext {t u : Table κ α} (h : t.entries = u.entries) : t = u := by
  cases t; cases u; cases h; rfl

def get? (t : Table κ α) (k : κ) : Option α :=
  (t.entries.find? (fun e => compare e.1 k == .eq)).map (·.2)

def contains (t : Table κ α) (k : κ) : Bool := (t.get? k).isSome

def size (t : Table κ α) : Nat := t.entries.length

def isEmpty (t : Table κ α) : Bool := t.entries.isEmpty

def keys (t : Table κ α) : List κ := t.entries.map (·.1)

def values (t : Table κ α) : List α := t.entries.map (·.2)

@[simp] theorem get?_empty (k : κ) : (∅ : Table κ α).get? k = none := rfl

/-! ## Insertion -/

/-- The entry list with `k` bound to `v`: at its place in the order, or in the place of the old entry. -/
def insertEntry (k : κ) (v : α) : List (κ × α) → List (κ × α)
  | [] => [(k, v)]
  | e :: rest =>
    match compare k e.1 with
    | .lt => (k, v) :: e :: rest
    | .eq => (k, v) :: rest
    | .gt => e :: insertEntry k v rest

theorem mem_insertEntry {k : κ} {v : α} {e : κ × α} :
    ∀ {l : List (κ × α)}, e ∈ insertEntry k v l → e = (k, v) ∨ e ∈ l
  | [], h => by simpa [insertEntry] using h
  | d :: rest, h => by
    unfold insertEntry at h
    split at h
    · simpa using h
    · rcases List.mem_cons.1 h with h | h
      · exact .inl h
      · exact .inr (List.mem_cons_of_mem _ h)
    · rcases List.mem_cons.1 h with h | h
      · exact .inr (h ▸ List.mem_cons_self)
      · rcases mem_insertEntry h with h | h
        · exact .inl h
        · exact .inr (List.mem_cons_of_mem _ h)

theorem sorted_insertEntry [TransOrd κ] [LawfulEqOrd κ] (k : κ) (v : α) :
    ∀ {l : List (κ × α)}, l.Pairwise keyLt → (insertEntry k v l).Pairwise keyLt
  | [], _ => by simp [insertEntry]
  | d :: rest, h => by
    have hd := List.pairwise_cons.1 h
    unfold insertEntry
    split
    · next hlt =>
      refine List.pairwise_cons.2 ⟨?_, h⟩
      intro e he
      rcases List.mem_cons.1 he with rfl | he
      · exact hlt
      · exact TransCmp.lt_trans hlt (hd.1 e he)
    · next heq =>
      have hk : k = d.1 := LawfulEqCmp.eq_of_compare heq
      refine List.pairwise_cons.2 ⟨?_, hd.2⟩
      intro e he
      have := hd.1 e he
      unfold keyLt at this ⊢
      rw [hk]; exact this
    · next hgt =>
      refine List.pairwise_cons.2 ⟨?_, sorted_insertEntry k v hd.2⟩
      intro e he
      rcases mem_insertEntry he with rfl | he
      · exact OrientedCmp.gt_iff_lt.1 hgt
      · exact hd.1 e he

/-- The table with `k` bound to `v`, whatever it was bound to before. -/
def insert [TransOrd κ] [LawfulEqOrd κ] (t : Table κ α) (k : κ) (v : α) : Table κ α :=
  ⟨insertEntry k v t.entries, sorted_insertEntry k v t.sorted⟩

/-- The table with `k` bound to `v` unless it is bound already. -/
def insertNew [TransOrd κ] [LawfulEqOrd κ] (t : Table κ α) (k : κ) (v : α) : Table κ α :=
  if t.contains k then t else t.insert k v

/-- The table with the entry of `k` computed from what `k` was bound to before. -/
def update [TransOrd κ] [LawfulEqOrd κ] (t : Table κ α) (k : κ) (f : Option α → α) : Table κ α :=
  t.insert k (f (t.get? k))

def ofList [TransOrd κ] [LawfulEqOrd κ] (l : List (κ × α)) : Table κ α :=
  l.foldl (fun t e => t.insert e.1 e.2) ∅

/-! ## Removal and change of values -/

theorem sorted_map_values (f : κ → α → β) {l : List (κ × α)} (h : l.Pairwise keyLt) :
    (l.map (fun e => (e.1, f e.1 e.2))).Pairwise keyLt :=
  List.pairwise_map.2 (h.imp (fun hab => hab))

def erase (t : Table κ α) (k : κ) : Table κ α :=
  ⟨t.entries.filter (fun e => compare e.1 k != .eq), t.sorted.filter _⟩

/-- The same keys with every value changed by `f`. -/
def mapValues (t : Table κ α) (f : κ → α → β) : Table κ β :=
  ⟨t.entries.map (fun e => (e.1, f e.1 e.2)), sorted_map_values f t.sorted⟩

/-- The same keys with the value of `k`, if it has one, changed by `f`. -/
def modify (t : Table κ α) (k : κ) (f : α → α) : Table κ α :=
  t.mapValues (fun k' v => if compare k' k == .eq then f v else v)

def filter (t : Table κ α) (p : κ → α → Bool) : Table κ α :=
  ⟨t.entries.filter (fun e => p e.1 e.2), t.sorted.filter _⟩

/-! ## Look-ups after each operation -/

theorem find?_insertEntry_self [LawfulEqOrd κ] (k : κ) (v : α) :
    ∀ l : List (κ × α), (insertEntry k v l).find? (fun e => compare e.1 k == .eq) = some (k, v)
  | [] => by simp [insertEntry]
  | d :: rest => by
    unfold insertEntry
    split
    · simp
    · simp
    · next hgt =>
      have hne : ¬ compare d.1 k = .eq := by
        intro h
        have hself : compare k d.1 = .eq := by
          rw [LawfulEqCmp.eq_of_compare h]; exact Std.ReflCmp.compare_self
        rw [hself] at hgt
        cases hgt
      simp [hne, find?_insertEntry_self k v rest]

theorem find?_insertEntry_of_ne [LawfulEqOrd κ] {k k' : κ} (v : α) (hne : k ≠ k') :
    ∀ l : List (κ × α), (insertEntry k v l).find? (fun e => compare e.1 k' == .eq) =
      l.find? (fun e => compare e.1 k' == .eq)
  | [] => by
    have : ¬ compare k k' = .eq := fun h => hne (LawfulEqCmp.eq_of_compare h)
    simp [insertEntry, this]
  | d :: rest => by
    have hk : ¬ compare k k' = .eq := fun h => hne (LawfulEqCmp.eq_of_compare h)
    unfold insertEntry
    split
    · simp [List.find?_cons, hk]
    · next heq =>
      have hd : k = d.1 := LawfulEqCmp.eq_of_compare heq
      simp [← hd, hk]
    · simp only [List.find?_cons, find?_insertEntry_of_ne v hne rest]

@[simp] theorem get?_insert_self [TransOrd κ] [LawfulEqOrd κ] (t : Table κ α) (k : κ) (v : α) :
    (t.insert k v).get? k = some v := by
  simp [get?, insert, find?_insertEntry_self]

theorem get?_insert_of_ne [TransOrd κ] [LawfulEqOrd κ] (t : Table κ α) {k k' : κ} (v : α)
    (hne : k ≠ k') : (t.insert k v).get? k' = t.get? k' := by
  simp [get?, insert, find?_insertEntry_of_ne v hne]

end Table

end Scorebook
