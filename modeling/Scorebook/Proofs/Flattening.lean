import Mathlib.Data.List.Pairwise
import Scorebook.Delivery.FlatRecord
import Scorebook.Proofs.Lookup
/-!
# Flat records lose nothing

A flat record has one entry for each leaf of a value (`Json.leaves`), under the keys that lead to it.  No path to a leaf
starts with the path to another (`pairwise_leaves`), so the leaves can be put back in any order (`put_comm`), and they
make up the value without the empty objects inside it (`putAll_leaves`).
-/
namespace Scorebook

namespace Json

/-! ## Leaves -/

mutual

/-- What is no object inside a value, with the keys that lead to it.  A list is a leaf. -/
def leaves : Json → List (List String × Json)
  | .object fields => leavesOf fields
  | v => [([], v)]

def leavesOf : List (String × Json) → List (List String × Json)
  | [] => []
  | (k, v) :: rest => (leaves v).map (fun l => (k :: l.1, l.2)) ++ leavesOf rest

end

mutual

/-- The value without the empty objects inside it. -/
def prune : Json → Json
  | .object fields => .object (pruneFields fields)
  | v => v

def pruneFields : List (String × Json) → List (String × Json)
  | [] => []
  | (k, v) :: rest =>
    match prune v with
    | .object [] => pruneFields rest
    | w => (k, w) :: pruneFields rest

end

/-- The fields of the object under a key, none if no object is there. -/
def subfields (k : String) (fields : List (String × Json)) : List (String × Json) :=
  match fields.find? (fun e => compare e.1 k == .eq) with
  | some (_, .object inner) => inner
  | _ => []

/-- The fields with a leaf put where its path leads, in objects that are made on the way. -/
def put : List String → Json → List (String × Json) → List (String × Json)
  | [], _, fields => fields
  | k :: path, v, fields =>
    Table.insertEntry k (if path.isEmpty then v else .object (put path v (subfields k fields))) fields

/-- What holds of the fields of each object that is not inside a list. -/
inductive EachObject (P : List (String × Json) → Prop) : Json → Prop where
  | leaf {v : Json} (h : ∀ fields, v ≠ .object fields) : EachObject P v
  | object {fields : List (String × Json)} (h : P fields) (inner : ∀ e ∈ fields, EachObject P e.2) :
      EachObject P (.object fields)

/-- Keys of which a path can be made: they are not empty and have no point. -/
def ProperKeys (v : Json) : Prop := v.EachObject (∀ e ∈ ·, e.1 ≠ "" ∧ '.' ∉ e.1.toList)

/-- The keys of each object increase. -/
def Sorted (v : Json) : Prop := v.EachObject (·.Pairwise keyLt)

/-- No object inside the value is empty. -/
def NoneEmpty (v : Json) : Prop := v.EachObject (∀ e ∈ ·, e.2 ≠ .object [])

section Trees

variable {P : List (String × Json) → Prop} {v : Json} {fields : List (String × Json)} {l : List String × Json}

theorem leaves_of_leaf (h : ∀ fields, v ≠ .object fields) : v.leaves = [([], v)] := by
  cases v with
  | object fields => exact absurd rfl (h fields)
  | _ => rfl

theorem leavesOf_eq_flatMap : ∀ fields : List (String × Json),
    leavesOf fields = fields.flatMap (fun e => e.2.leaves.map (fun l => (e.1 :: l.1, l.2)))
  | [] => rfl
  | (k, v) :: rest => by rw [leavesOf, leavesOf_eq_flatMap rest, List.flatMap_cons]

theorem mem_leavesOf : l ∈ leavesOf fields ↔ ∃ e ∈ fields, ∃ l' ∈ e.2.leaves, (e.1 :: l'.1, l'.2) = l := by
  rw [leavesOf_eq_flatMap, List.mem_flatMap]
  simp only [List.mem_map]

theorem path_ne_nil (h : l ∈ leavesOf fields) : l.1 ≠ [] := by
  obtain ⟨e, -, l', -, rfl⟩ := mem_leavesOf.1 h
  exact List.cons_ne_nil _ _

theorem proper_of_mem_leaves (h : v.ProperKeys) : ∀ l ∈ v.leaves, ∀ k ∈ l.1, k ≠ "" ∧ '.' ∉ k.toList := by
  induction h with
  | leaf h =>
    rw [leaves_of_leaf h]
    intro l hl
    cases List.mem_singleton.1 hl
    exact fun k hk => absurd hk List.not_mem_nil
  | object h inner ih =>
    intro l hl
    obtain ⟨e, he, l', hl', rfl⟩ := mem_leavesOf.1 hl
    intro k hk
    rcases List.mem_cons.1 hk with rfl | hk
    · exact h e he
    · exact ih e he l' hl' k hk

/-! ### Paths that keep apart -/

/-- Neither path starts with the other. -/
def Apart (p q : List String) : Prop := ¬ p <+: q ∧ ¬ q <+: p

theorem Apart.ne {p q : List String} (h : Apart p q) : p ≠ q := by
  rintro rfl
  exact h.1 List.prefix_rfl

theorem apart_cons {k k' : String} {p q : List String} : Apart (k :: p) (k' :: q) ↔ (k = k' → Apart p q) := by
  simp only [Apart, List.cons_prefix_cons]
  by_cases hk : k = k'
  · simp [hk]
  · simp [hk, Ne.symm hk]

/-- **No path to a leaf starts with the path to another.** -/
theorem pairwise_leaves (h : v.Sorted) : v.leaves.Pairwise (fun a b => Apart a.1 b.1) := by
  induction h with
  | leaf h =>
    rw [leaves_of_leaf h]
    exact List.pairwise_singleton _ _
  | object h inner ih =>
    show (leavesOf _).Pairwise _
    rw [leavesOf_eq_flatMap, List.pairwise_flatMap]
    constructor
    · intro e he
      exact List.pairwise_map.2 ((ih e he).imp (fun hab => apart_cons.2 (fun _ => hab)))
    · refine h.imp (fun {d e} hlt => ?_)
      have hne : d.1 ≠ e.1 := by
        intro heq
        rw [keyLt, Table.compare_eq_iff.2 heq] at hlt
        cases hlt
      simp only [List.forall_mem_map]
      exact fun l _ l' _ => apart_cons.2 (fun heq => absurd heq hne)

theorem nodup_paths (h : v.Sorted) : (v.leaves.map (·.1)).Nodup := by
  rw [List.Nodup, List.pairwise_map]
  exact (pairwise_leaves h).imp Apart.ne

/-! ### Putting leaves back -/

theorem subfields_insertEntry_self (k : String) (inner fields : List (String × Json)) :
    subfields k (Table.insertEntry k (.object inner) fields) = inner := by
  rw [subfields, Table.find?_insertEntry_self]

theorem subfields_insertEntry_of_ne {k k' : String} (h : k ≠ k') (v : Json) (fields : List (String × Json)) :
    subfields k' (Table.insertEntry k v fields) = subfields k' fields := by
  rw [subfields, Table.find?_insertEntry_of_ne v h, subfields]

/-- A leaf of an object inside is put into that object. -/
theorem put_cons {path : List String} (h : path ≠ []) (k : String) (v : Json) (fields : List (String × Json)) :
    put (k :: path) v fields = Table.insertEntry k (.object (put path v (subfields k fields))) fields := by
  rw [put, if_neg (by simpa using h)]

/-- **Leaves of which neither path starts with the other are put in any order.** -/
theorem put_comm (x y : Json) : ∀ {p q : List String}, Apart p q → ∀ fields : List (String × Json),
    put p x (put q y fields) = put q y (put p x fields)
  | [], q, h, _ => absurd List.nil_prefix h.1
  | p, [], h, _ => absurd List.nil_prefix h.2
  | k :: p, k' :: q, h, fields => by
    by_cases hk : k = k'
    · subst hk
      have h : Apart p q := apart_cons.1 h rfl
      have hp : p ≠ [] := by
        rintro rfl
        exact h.1 List.nil_prefix
      have hq : q ≠ [] := by
        rintro rfl
        exact h.2 List.nil_prefix
      rw [put_cons hp, put_cons hq, put_cons hp, put_cons hq, subfields_insertEntry_self, subfields_insertEntry_self,
        Table.insertEntry_insertEntry, Table.insertEntry_insertEntry, put_comm x y h]
    · simp only [put]
      rw [subfields_insertEntry_of_ne (Ne.symm hk), subfields_insertEntry_of_ne hk, Table.insertEntry_comm hk]

theorem put_ne_nil : ∀ {path : List String}, path ≠ [] →
    ∀ (v : Json) (fields : List (String × Json)), put path v fields ≠ []
  | _ :: _, _, _, _ => Table.insertEntry_ne_nil

/-- The fields with leaves put in one after the other. -/
def putAll (leaves : List (List String × Json)) (fields : List (String × Json)) : List (String × Json) :=
  leaves.foldl (fun fields l => put l.1 l.2 fields) fields

theorem putAll_append (ls ls' : List (List String × Json)) (fields : List (String × Json)) :
    putAll (ls ++ ls') fields = putAll ls' (putAll ls fields) := List.foldl_append

theorem putAll_ne_nil {ls : List (List String × Json)} (hpaths : ∀ l ∈ ls, l.1 ≠ []) (h : ls ≠ [])
    (fields : List (String × Json)) : putAll ls fields ≠ [] := by
  obtain ⟨init, l, rfl⟩ := (List.eq_nil_or_concat ls).resolve_left h
  rw [List.concat_eq_append, putAll_append]
  exact put_ne_nil (hpaths l (by simp)) _ _

/-- Leaves put under a key are put into the object there. -/
theorem putAll_under (k : String) : ∀ {ls : List (List String × Json)}, (∀ l ∈ ls, l.1 ≠ []) →
    ∀ inner fields : List (String × Json),
      putAll (ls.map (fun l => (k :: l.1, l.2))) (Table.insertEntry k (.object inner) fields) =
        Table.insertEntry k (.object (putAll ls inner)) fields
  | [], _, _, _ => rfl
  | l :: ls, h, inner, fields => by
    show putAll (ls.map _) (put (k :: l.1) l.2 (Table.insertEntry k (.object inner) fields)) = _
    rw [put_cons (h l List.mem_cons_self), subfields_insertEntry_self, Table.insertEntry_insertEntry,
      putAll_under k (fun l hl => h l (List.mem_cons_of_mem _ hl))]
    rfl

/-- Leaves whose paths keep apart are put in any order. -/
theorem putAll_of_perm {ls ls' : List (List String × Json)} (hp : ls'.Perm ls)
    (h : ls.Pairwise (fun a b => Apart a.1 b.1)) (fields : List (String × Json)) :
    putAll ls' fields = putAll ls fields := by
  have hsymm : Std.Symm (fun a b : List String × Json => Apart a.1 b.1) := ⟨fun _ _ hab => ⟨hab.2, hab.1⟩⟩
  refine (hp.symm.foldl_eq' (fun a ha b hb fields => ?_) fields).symm
  rcases eq_or_ne a b with rfl | hne
  · rfl
  · exact put_comm b.2 a.2 (h.forall hb ha hne.symm) fields

theorem pruneFields_cons_of_empty {k : String} {rest : List (String × Json)} (h : v.prune = .object []) :
    pruneFields ((k, v) :: rest) = pruneFields rest := by
  rw [pruneFields, h]

theorem pruneFields_cons_of_ne {k : String} {rest : List (String × Json)} (h : v.prune ≠ .object []) :
    pruneFields ((k, v) :: rest) = (k, v.prune) :: pruneFields rest := by
  rw [pruneFields]
  split
  · next he => exact absurd he h
  · rfl

theorem prune_of_leaf (h : ∀ fields, v ≠ .object fields) : v.prune = v := by
  cases v with
  | object fields => exact absurd rfl (h fields)
  | _ => rfl

/-- The leaves of one more field are put at the end, or there are none. -/
theorem putAll_field {k : String} (hk : ∀ e ∈ fields, compare e.1 k = .lt)
    (hinner : ∀ inner, v = .object inner → putAll (leavesOf inner) [] = pruneFields inner) :
    v.prune = .object [] ∧ putAll (v.leaves.map (fun l => (k :: l.1, l.2))) fields = fields ∨
    v.prune ≠ .object [] ∧ putAll (v.leaves.map (fun l => (k :: l.1, l.2))) fields = fields ++ [(k, v.prune)] := by
  by_cases hv : ∃ inner, v = .object inner
  · obtain ⟨inner, rfl⟩ := hv
    have hprune : (Json.object inner).prune = .object (putAll (leavesOf inner) []) :=
      congrArg Json.object (hinner inner rfl).symm
    have hpaths : ∀ l ∈ leavesOf inner, l.1 ≠ [] := fun _ => path_ne_nil
    have hleaves : (Json.object inner).leaves = leavesOf inner := rfl
    rw [hprune, hleaves]
    cases hl : leavesOf inner with
    | nil => exact .inl ⟨rfl, rfl⟩
    | cons l ls =>
      rw [hl] at hpaths
      refine .inr ⟨fun heq => putAll_ne_nil hpaths (List.cons_ne_nil _ _) [] (Json.object.inj heq), ?_⟩
      have hsub : subfields k fields = [] := by
        have hnone : fields.find? (fun e => compare e.1 k == .eq) = none :=
          List.find?_eq_none.2 (fun e he => by simp [hk e he])
        rw [subfields, hnone]
      show putAll (ls.map _) (put (k :: l.1) l.2 fields) = _
      rw [put_cons (hpaths l List.mem_cons_self), hsub,
        putAll_under k (fun l' hl' => hpaths l' (List.mem_cons_of_mem _ hl')), Table.insertEntry_of_lt _ hk]
      rfl
  · have hleaf : ∀ inner, v ≠ .object inner := fun inner heq => hv ⟨inner, heq⟩
    rw [leaves_of_leaf hleaf, prune_of_leaf hleaf]
    exact .inr ⟨hleaf [], Table.insertEntry_of_lt v hk⟩

/-- Leaves put back in their order make up the pruned fields, if those of the objects inside do. -/
theorem putAll_fields : ∀ {fields : List (String × Json)}, fields.Pairwise keyLt →
    (∀ e ∈ fields, ∀ inner, e.2 = .object inner → putAll (leavesOf inner) [] = pruneFields inner) →
    ∀ {before : List (String × Json)}, (∀ d ∈ before, ∀ e ∈ fields, compare d.1 e.1 = .lt) →
      putAll (leavesOf fields) before = before ++ pruneFields fields
  | [], _, _, before, _ => (List.append_nil before).symm
  | (k, v) :: rest, hs, hinner, before, hbefore => by
    obtain ⟨hlt, hs⟩ := List.pairwise_cons.1 hs
    have hrest : ∀ e ∈ rest, ∀ inner, e.2 = .object inner → putAll (leavesOf inner) [] = pruneFields inner :=
      fun e he => hinner e (List.mem_cons_of_mem _ he)
    rw [leavesOf, putAll_append]
    rcases putAll_field (fun d hd => hbefore d hd _ List.mem_cons_self) (hinner _ List.mem_cons_self) with
      ⟨hempty, hput⟩ | ⟨hne, hput⟩
    · rw [hput, pruneFields_cons_of_empty hempty]
      exact putAll_fields hs hrest (fun d hd e he => hbefore d hd e (List.mem_cons_of_mem _ he))
    · rw [hput, pruneFields_cons_of_ne hne, putAll_fields hs hrest, List.append_assoc]
      · rfl
      · intro d hd e he
        rcases List.mem_append.1 hd with hd | hd
        · exact hbefore d hd e (List.mem_cons_of_mem _ he)
        · rw [List.mem_singleton.1 hd]
          exact hlt e he

/-- **The leaves of an object make it up again, without the empty objects inside it.** -/
theorem putAll_leaves (h : v.Sorted) :
    ∀ fields, v = .object fields → putAll (leavesOf fields) [] = pruneFields fields := by
  induction h with
  | leaf h => exact fun fields heq => absurd heq (h fields)
  | object h inner ih =>
    rintro fields ⟨⟩
    exact putAll_fields h ih (fun d hd => absurd hd List.not_mem_nil)

theorem pruneFields_of_prune : ∀ {fields : List (String × Json)}, (∀ e ∈ fields, e.2 ≠ .object []) →
    (∀ e ∈ fields, e.2.prune = e.2) → pruneFields fields = fields
  | [], _, _ => rfl
  | (k, v) :: rest, hne, hprune => by
    have hv : v.prune = v := hprune _ List.mem_cons_self
    have hvne : v.prune ≠ .object [] := by
      rw [hv]
      exact hne _ List.mem_cons_self
    rw [pruneFields_cons_of_ne hvne, hv, pruneFields_of_prune (fun e he => hne e (List.mem_cons_of_mem _ he))
      (fun e he => hprune e (List.mem_cons_of_mem _ he))]

theorem prune_of_noneEmpty (h : v.NoneEmpty) : v.prune = v := by
  induction h with
  | leaf h => exact prune_of_leaf h
  | object h inner ih => exact congrArg Json.object (pruneFields_of_prune h ih)

end Trees

/-! ## Values as general documents hold them -/

mutual

/-- The objects of a general document are sorted. -/
theorem sorted_plain : ∀ v : Json, v.plain.Sorted
  | .object fields => by
    refine .object (Table.ofList (plainFields fields)).sorted (fun e he => ?_)
    exact sorted_plainFields fields e (Table.mem_of_get?_ofList (Table.mem_entries_iff.1 he))
  | .null | .bool _ | .int _ | .text _ | .list _ | .unreadable => .leaf (fun _ h => nomatch h)
  | .double x | .single x => by
    refine .leaf (fun _ h => ?_)
    unfold plain at h
    split at h <;> cases h

theorem sorted_plainFields : ∀ fields : List (String × Json), ∀ e ∈ plainFields fields, e.2.Sorted
  | [], e, he => absurd he List.not_mem_nil
  | (k, v) :: rest, e, he => by
    rcases List.mem_cons.1 he with rfl | he
    · exact sorted_plain v
    · exact sorted_plainFields rest e he

end

end Json

namespace FlatRecord

open Json

/-- The key of a leaf: the keys that lead to it, joined by points. -/
def dotted (path : List String) : String := ".".intercalate path

/-- The keys that lead to a leaf, split off its key. -/
def splitKey (key : String) : List String := (key.toList.splitOn '.').map String.ofList

/-- The object that has the leaves of a flat record. -/
def rebuild (r : FlatRecord) : Json := .object (putAll (r.entries.map (fun e => (splitKey e.1, e.2))) [])

theorem splitKey_dotted {path : List String} (hne : path ≠ []) (h : ∀ k ∈ path, '.' ∉ k.toList) :
    splitKey (dotted path) = path := by
  have hpoint : ".".toList = ['.'] := rfl
  rw [splitKey, dotted, String.toList_intercalate, hpoint, List.splitOn_intercalate, List.map_map]
  · exact (List.map_congr_left (fun k _ => String.ofList_toList)).trans (List.map_id _)
  · exact List.forall_mem_map.2 h
  · simpa using hne

theorem dotted_concat : ∀ {path : List String}, path ≠ [] → ∀ k : String, dotted (path ++ [k]) = dotted path ++ "." ++ k
  | [a], _, k => by simp [dotted]
  | a :: b :: path, _, k => by
    have hrest := dotted_concat (List.cons_ne_nil b path) k
    unfold dotted at hrest ⊢
    rw [List.cons_append, List.cons_append, String.intercalate_cons_cons, ← List.cons_append, hrest,
      String.intercalate_cons_cons]
    simp only [String.append_assoc]

theorem dotted_ne_empty : ∀ {path : List String}, path ≠ [] → (∀ k ∈ path, k ≠ "") → dotted path ≠ ""
  | [a], _, h => by simpa [dotted] using h
  | a :: b :: path, _, h => by
    rw [dotted, String.intercalate_cons_cons, ne_eq, String.append_eq_empty_iff, String.append_eq_empty_iff]
    exact fun he => h a List.mem_cons_self he.1.1

/-- The key of a field, where no key on the way is empty. -/
theorem join_dotted {path : List String} (h : ∀ k ∈ path, k ≠ "") (k : String) :
    join (dotted path) k = dotted (path ++ [k]) := by
  by_cases hne : path = []
  · subst hne
    simp [join, dotted]
  · rw [join, dotted_concat hne, if_neg]
    rw [String.isEmpty_iff]
    exact dotted_ne_empty hne h

section Entries

variable {v w : Json} {fields fields' : List (String × Json)}

theorem enterFields_eq : ∀ {fields : List (String × Json)}, (∀ e ∈ fields, e.1 ≠ "") →
    (∀ e ∈ fields, ∀ path : List String, (∀ k ∈ path, k ≠ "") → ∀ out : FlatRecord, enter (dotted path) e.2 out =
      e.2.leaves.foldl (fun out l => out.insert (dotted (path ++ l.1)) l.2) out) →
    ∀ path : List String, (∀ k ∈ path, k ≠ "") → ∀ out : FlatRecord, enterFields (dotted path) fields out =
      (leavesOf fields).foldl (fun out l => out.insert (dotted (path ++ l.1)) l.2) out
  | [], _, _, _, _, _ => rfl
  | (k, v) :: rest, hkeys, henter, path, hpath, out => by
    have hpath' : ∀ k' ∈ path ++ [k], k' ≠ "" := by
      intro k' hk'
      rcases List.mem_append.1 hk' with hk' | hk'
      · exact hpath k' hk'
      · rw [List.mem_singleton.1 hk']
        exact hkeys _ List.mem_cons_self
    rw [enterFields, join_dotted hpath, henter _ List.mem_cons_self _ hpath',
      enterFields_eq (fun e he => hkeys e (List.mem_cons_of_mem _ he))
        (fun e he => henter e (List.mem_cons_of_mem _ he)) path hpath, leavesOf, List.foldl_append, List.foldl_map]
    simp only [List.append_assoc, List.singleton_append]

/-- A value is entered leaf by leaf. -/
theorem enter_eq (h : v.ProperKeys) : ∀ path : List String, (∀ k ∈ path, k ≠ "") → ∀ out : FlatRecord,
    enter (dotted path) v out = v.leaves.foldl (fun out l => out.insert (dotted (path ++ l.1)) l.2) out := by
  induction h with
  | @leaf v h =>
    intro path _ out
    rw [leaves_of_leaf h, List.foldl_cons, List.foldl_nil, List.append_nil]
    cases v with
    | object fields => exact absurd rfl (h fields)
    | _ => rfl
  | object h inner ih => exact enterFields_eq (fun e he => (h e he).1) ih

/-- The flat record of an object has its leaves. -/
theorem ofJson_eq (hv : v.plain = .object fields) (hkeys : v.plain.ProperKeys) :
    ofJson v = Table.ofList (v.plain.leaves.map (fun l => (dotted l.1, l.2))) := by
  have henter := enter_eq hkeys [] (fun _ hk => absurd hk List.not_mem_nil) ∅
  rw [hv] at henter ⊢
  rw [ofJson, hv, Table.ofList, List.foldl_map]
  exact henter

theorem splitKey_of_mem_leaves (hv : v.plain = .object fields) (hkeys : v.plain.ProperKeys) {l : List String × Json}
    (hl : l ∈ v.plain.leaves) : splitKey (dotted l.1) = l.1 := by
  refine splitKey_dotted ?_ (fun k hk => (proper_of_mem_leaves hkeys l hl k hk).2)
  rw [hv] at hl
  exact path_ne_nil hl

/-- **No two leaves have one key.** -/
theorem nodup_keys (hv : v.plain = .object fields) (hkeys : v.plain.ProperKeys) :
    (v.plain.leaves.map (fun l => dotted l.1)).Nodup := by
  have hpaths : (v.plain.leaves.map (fun l => dotted l.1)).map splitKey = v.plain.leaves.map (·.1) := by
    rw [List.map_map]
    exact List.map_congr_left (fun l hl => splitKey_of_mem_leaves hv hkeys hl)
  exact List.Nodup.of_map splitKey (hpaths ▸ nodup_paths (sorted_plain v))

/-- **A flat record has one entry for each leaf.** -/
theorem entries_ofJson (hv : v.plain = .object fields) (hkeys : v.plain.ProperKeys) :
    (ofJson v).entries.Perm (v.plain.leaves.map (fun l => (dotted l.1, l.2))) := by
  rw [ofJson_eq hv hkeys]
  refine Table.entries_ofList_perm ?_
  rw [List.map_map]
  exact nodup_keys hv hkeys

/-- **A flat record makes up the value again, without the empty objects inside it.** -/
theorem rebuild_ofJson (hv : v.plain = .object fields) (hkeys : v.plain.ProperKeys) :
    rebuild (ofJson v) = v.plain.prune := by
  have hleaves : ((ofJson v).entries.map (fun e => (splitKey e.1, e.2))).Perm v.plain.leaves := by
    have hsplit : (v.plain.leaves.map (fun l => (dotted l.1, l.2))).map (fun e => (splitKey e.1, e.2)) =
        v.plain.leaves := by
      rw [List.map_map]
      refine (List.map_congr_left (fun l hl => ?_)).trans (List.map_id _)
      exact congrArg (·, l.2) (splitKey_of_mem_leaves hv hkeys hl)
    exact hsplit ▸ (entries_ofJson hv hkeys).map _
  have hsorted := sorted_plain v
  rw [rebuild, putAll_of_perm hleaves (pairwise_leaves hsorted)]
  rw [hv] at hsorted ⊢
  exact congrArg Json.object (putAll_leaves hsorted fields rfl)

/-- **Flattening loses nothing.**  Of an object with proper keys, a flat record has one entry for each leaf, with what
stands there, and no two leaves have one key; it makes up the object again, without the empty objects inside it.
Objects without such have one flat record only if they are the same. -/
theorem ofJson_lossless (hv : v.plain = .object fields) (hkeys : v.plain.ProperKeys) :
    (ofJson v).entries.Perm (v.plain.leaves.map (fun l => (dotted l.1, l.2))) ∧
    (v.plain.leaves.map (fun l => dotted l.1)).Nodup ∧
    rebuild (ofJson v) = v.plain.prune ∧
    ∀ {w : Json} {fields' : List (String × Json)}, w.plain = .object fields' → w.plain.ProperKeys →
      v.plain.NoneEmpty → w.plain.NoneEmpty → ofJson v = ofJson w → v.plain = w.plain := by
  refine ⟨entries_ofJson hv hkeys, nodup_keys hv hkeys, rebuild_ofJson hv hkeys, ?_⟩
  intro w fields' hw hkeys' hnone hnone' heq
  calc v.plain = v.plain.prune := (prune_of_noneEmpty hnone).symm
    _ = rebuild (ofJson v) := (rebuild_ofJson hv hkeys).symm
    _ = rebuild (ofJson w) := congrArg rebuild heq
    _ = w.plain.prune := rebuild_ofJson hw hkeys'
    _ = w.plain := prune_of_noneEmpty hnone'

/-- An object inside an object, its fields in either order. -/
theorem ofJson_lossless_of_nested :
    let v : Json := .object [("b", .int 2), ("a", .object [("x", .int 1)])]
    let w : Json := .object [("a", .object [("x", .int 1)]), ("b", .int 2)]
    v.plain.ProperKeys ∧ v.plain.NoneEmpty ∧ ofJson v = ofJson w ∧
      (ofJson v).entries.Perm [("a.x", .int 1), ("b", .int 2)] ∧ rebuild (ofJson v) = w ∧ v.plain = w.plain := by
  intro v w
  have hv : v.plain = w := by rfl
  have hw : w.plain = w := by rfl
  have heach {P : List (String × Json) → Prop} (houter : P [("a", .object [("x", .int 1)]), ("b", .int 2)])
      (hinner : P [("x", .int 1)]) : w.EachObject P := by
    refine .object houter (List.forall_mem_cons.2 ⟨.object hinner ?_, ?_⟩)
    · exact List.forall_mem_singleton.2 (.leaf nofun)
    · exact List.forall_mem_singleton.2 (.leaf nofun)
  have hproper : w.ProperKeys := heach (by decide) (by decide)
  have hnone : w.NoneEmpty := heach (by simp) (by simp)
  have hone : ofJson v = ofJson w := by rw [ofJson, ofJson, hv, hw]
  obtain ⟨hentries, -, hrebuild, hinj⟩ := ofJson_lossless hv (hv ▸ hproper)
  rw [hv] at hentries hrebuild hinj ⊢
  exact ⟨hproper, hnone, hone, hentries, hrebuild, hinj hw (hw.symm ▸ hproper) hnone (hw.symm ▸ hnone) hone⟩

end Entries

end FlatRecord

end Scorebook
