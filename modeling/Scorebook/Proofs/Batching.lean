import Scorebook.Delivery.Batch
/-!
# Batches partition the records

The records of a collection fill its batches in order, each up to the size, and the last batch is marked (`Partition`).
There is no other way to fill batches so (`build_eq_iff_partition`).  The mark goes by a count of its own, a rounded
division (`pieces`); it is the number of pieces that a list is cut into, whatever its length and the size
(`IsCut.pieces_eq`).
-/
namespace Scorebook

namespace Batch

/-! ## Cutting a list -/

/-- A list cut into full pieces of `size` items and a rest, which is not empty and may be shorter. -/
structure IsCut {α : Type} (size : Nat) (items : List α) (full : List (List α)) (rest : List α) : Prop where
  joined : full.flatten ++ rest = items
  length_eq : ∀ piece ∈ full, piece.length = size
  pos : 0 < rest.length
  le : rest.length ≤ size

section Cuts

variable {α β : Type} {size : Nat} {items piece rest rest' : List α} {full full' : List (List α)}

theorem IsCut.cons (h : IsCut size items full rest) (hpiece : piece.length = size) :
    IsCut size (piece ++ items) (piece :: full) rest where
  joined := by rw [List.flatten_cons, List.append_assoc, h.joined]
  length_eq := List.forall_mem_cons.2 ⟨hpiece, h.length_eq⟩
  pos := h.pos
  le := h.le

theorem IsCut.map (h : IsCut size items full rest) (f : α → β) :
    IsCut size (items.map f) (full.map (List.map f)) (rest.map f) where
  joined := by rw [← List.map_flatten, ← List.map_append, h.joined]
  length_eq := List.forall_mem_map.2 (fun piece hpiece => (List.length_map f).trans (h.length_eq piece hpiece))
  pos := (List.length_map f).symm ▸ h.pos
  le := (List.length_map f).symm ▸ h.le

/-- A list that is not empty can be cut. -/
theorem exists_isCut (hsize : 0 < size) {items : List α} (hne : items ≠ []) : ∃ full rest, IsCut size items full rest := by
  -- A piece of as many items as are left is the rest already.
  rcases Nat.lt_or_ge size items.length with hlt | hle
  · have hdrop : items.drop size ≠ [] := List.ne_nil_of_length_pos (by rw [List.length_drop]; omega)
    obtain ⟨full, rest, h⟩ := exists_isCut hsize hdrop
    have hcut := h.cons (List.length_take_of_le (Nat.le_of_lt hlt))
    rw [List.take_append_drop] at hcut
    exact ⟨_, _, hcut⟩
  · exact ⟨[], items, rfl, fun _ hmem => absurd hmem List.not_mem_nil, List.length_pos_iff.2 hne, hle⟩
termination_by items.length
decreasing_by rw [List.length_drop]; omega

theorem chunks_of_length_le (hne : items ≠ []) (hle : items.length ≤ size) : chunks size items = [items] := by
  cases items with
  | nil => exact absurd rfl hne
  | cons a rest =>
    have hrest : rest.length ≤ size - 1 := Nat.le_sub_one_of_lt hle
    rw [chunks, List.take_of_length_le hrest, List.drop_of_length_le hrest, chunks]

theorem chunks_append (hsize : 0 < size) (hpiece : piece.length = size) :
    chunks size (piece ++ items) = piece :: chunks size items := by
  cases piece with
  | nil => exact absurd hpiece (Nat.ne_of_lt hsize)
  | cons a rest =>
    have hrest : size - 1 = rest.length := by rw [← hpiece, List.length_cons, Nat.add_sub_cancel]
    rw [List.cons_append, chunks, hrest, List.take_left, List.drop_left]

/-- **A list is cut in one way only**, that of `chunks`. -/
theorem IsCut.chunks_eq (h : IsCut size items full rest) : chunks size items = full ++ [rest] := by
  obtain ⟨rfl, hfull, hpos, hle⟩ := h
  induction full with
  | nil => exact chunks_of_length_le (List.ne_nil_of_length_pos hpos) hle
  | cons piece full ih =>
    obtain ⟨hpiece, hfull⟩ := List.forall_mem_cons.1 hfull
    rw [List.flatten_cons, List.append_assoc, chunks_append (Nat.lt_of_lt_of_le hpos hle) hpiece, ih hfull,
      List.cons_append]

theorem IsCut.unique (h : IsCut size items full rest) (h' : IsCut size items full' rest') :
    full' = full ∧ rest' = rest := by
  obtain ⟨hfull, hrest⟩ := List.append_inj' (h'.chunks_eq.symm.trans h.chunks_eq) rfl
  exact ⟨hfull, List.singleton_inj.1 hrest⟩

theorem IsCut.length_items (h : IsCut size items full rest) : items.length = full.length * size + rest.length := by
  rw [← h.joined, List.length_append, List.length_flatten, List.map_congr_left h.length_eq, List.map_const',
    List.sum_replicate_nat]

theorem IsCut.ne_nil (h : IsCut size items full rest) : items ≠ [] := by
  rw [← h.joined]
  exact List.append_ne_nil_of_right_ne_nil _ (List.ne_nil_of_length_pos h.pos)

/-- **The rounded division counts the pieces**, the rest among them. -/
theorem IsCut.pieces_eq (h : IsCut size items full rest) : pieces items.length size = full.length + 1 := by
  have hpos := h.pos
  have hle := h.le
  have hsize : 0 < size := Nat.lt_of_lt_of_le hpos hle
  -- One item less, so that a rest that is itself full does not count twice.
  have hcount : items.length + size - 1 = rest.length - 1 + size * (full.length + 1) := by
    rw [h.length_items, Nat.mul_succ, Nat.mul_comm]
    omega
  have hrest : (rest.length - 1) / size = 0 := Nat.div_eq_of_lt (by omega)
  rw [pieces, hcount, Nat.add_mul_div_left _ _ hsize, hrest, Nat.zero_add]

example : chunks 2 ['a', 'b', 'c', 'd'] = [['a', 'b'], ['c', 'd']] ∧ pieces 4 2 = 2 := by cbv

end Cuts

/-! ## Filling batches -/

/-- How the records of a collection fill its batches, `last` after all `before`. -/
structure Partition (c : Collection) (records : List FlatRecord) (size : Nat) (before : List Batch) (last : Batch) :
    Prop where
  collection : ∀ b ∈ before ++ [last], b.collection = c
  index : (before ++ [last]).map (·.index) = List.range (before.length + 1)
  notLast : ∀ b ∈ before, b.isLast = false
  isLast : last.isLast = true
  joined : (before ++ [last]).flatMap (·.records) = records
  length_eq : ∀ b ∈ before, b.records.length = size
  le : last.records.length ≤ size
  pos : records ≠ [] → 0 < last.records.length

/-- The batches of full pieces, after which the last one follows. -/
def ofFull (c : Collection) (full : List (List FlatRecord)) : List Batch :=
  full.zipIdx.map (fun e => ⟨c, e.2, false, e.1⟩)

section Partitions

variable {c : Collection} {size : Nat} {records : List FlatRecord} {full : List (List FlatRecord)}
  {rest : List FlatRecord} {before before' : List Batch} {b last last' : Batch}

theorem length_ofFull (c : Collection) (full : List (List FlatRecord)) : (ofFull c full).length = full.length := by
  rw [ofFull, List.length_map, List.length_zipIdx]

theorem map_index_ofFull (c : Collection) (full : List (List FlatRecord)) :
    (ofFull c full).map (·.index) = List.range full.length := by
  rw [ofFull, List.map_map, List.range_eq_range']
  exact List.zipIdx_map_snd 0 full

theorem map_records_ofFull (c : Collection) (full : List (List FlatRecord)) : (ofFull c full).map (·.records) = full := by
  rw [ofFull, List.map_map]
  exact List.zipIdx_map_fst 0 full

theorem of_mem_ofFull (h : b ∈ ofFull c full) : b.collection = c ∧ b.isLast = false ∧ b.records ∈ full := by
  obtain ⟨e, he, rfl⟩ := List.mem_map.1 h
  exact ⟨rfl, rfl, List.fst_mem_of_mem_zipIdx he⟩

/-- Batches that are numbered and not marked are made of nothing but their records. -/
theorem eq_ofFull (hcollection : ∀ b ∈ before, b.collection = c)
    (hindex : before.map (·.index) = List.range before.length) (hlast : ∀ b ∈ before, b.isLast = false) :
    before = ofFull c (before.map (·.records)) := by
  refine List.ext_getElem (by rw [length_ofFull, List.length_map]) (fun i hi _ => ?_)
  have hmem : before[i] ∈ before := List.getElem_mem hi
  have hat : before[i].index = i := by
    have h := List.getElem_of_eq hindex (by simpa using hi)
    simpa using h
  have hparts : before[i] = ⟨before[i].collection, before[i].index, before[i].isLast, before[i].records⟩ := rfl
  rw [hcollection _ hmem, hat, hlast _ hmem] at hparts
  simpa [ofFull] using hparts

theorem IsCut.partition (h : IsCut size records full rest) (c : Collection) :
    Partition c records size (ofFull c full) ⟨c, full.length, true, rest⟩ where
  collection := by
    intro b hb
    rcases List.mem_append.1 hb with hb | hb
    · exact (of_mem_ofFull hb).1
    · rw [List.mem_singleton.1 hb]
  index := by
    rw [List.map_append, map_index_ofFull, length_ofFull, List.range_succ]
    rfl
  notLast := fun _ hb => (of_mem_ofFull hb).2.1
  isLast := rfl
  joined := by
    rw [List.flatMap_append, List.flatMap_def, map_records_ofFull, List.flatMap_singleton]
    exact h.joined
  length_eq := fun _ hb => h.length_eq _ (of_mem_ofFull hb).2.2
  le := h.le
  pos := fun _ => h.pos

/-- No records fill one empty batch. -/
theorem partition_nil (c : Collection) (size : Nat) : Partition c [] size [] ⟨c, 0, true, []⟩ where
  collection := by simp
  index := rfl
  notLast := by simp
  isLast := rfl
  joined := rfl
  length_eq := by simp
  le := Nat.zero_le size
  pos := fun h => absurd rfl h

namespace Partition

theorem isCut (h : Partition c records size before last) (hne : records ≠ []) :
    IsCut size records (before.map (·.records)) last.records where
  joined := by rw [← h.joined, List.flatMap_append, List.flatMap_def, List.flatMap_singleton]
  length_eq := List.forall_mem_map.2 h.length_eq
  pos := h.pos hne
  le := h.le

theorem of_nil (hsize : 0 < size) (h : Partition c [] size before last) : before = [] ∧ last.records = [] := by
  have hempty := List.flatMap_eq_nil_iff.1 h.joined
  refine ⟨List.eq_nil_iff_forall_not_mem.2 (fun b hb => ?_), hempty last (List.mem_append_right _ List.mem_cons_self)⟩
  have hlength := h.length_eq b hb
  rw [hempty b (List.mem_append_left _ hb)] at hlength
  exact Nat.ne_of_lt hsize hlength

theorem eq_ofFull (h : Partition c records size before last) :
    before = ofFull c (before.map (·.records)) ∧ last = ⟨c, before.length, true, last.records⟩ := by
  have hindex := h.index
  rw [List.map_append, List.range_succ] at hindex
  obtain ⟨hbefore, hlast⟩ := List.append_inj' hindex rfl
  refine ⟨Batch.eq_ofFull (fun b hb => h.collection b (List.mem_append_left _ hb)) hbefore h.notLast, ?_⟩
  have hat : last.index = before.length := List.singleton_inj.1 hlast
  have hparts : last = ⟨last.collection, last.index, last.isLast, last.records⟩ := rfl
  rwa [h.collection last (List.mem_append_right _ List.mem_cons_self), hat, h.isLast] at hparts

/-- **Records fill batches in one way only.** -/
theorem unique (hsize : 0 < size) (h : Partition c records size before last)
    (h' : Partition c records size before' last') : before' = before ∧ last' = last := by
  have hrecords : before'.map (·.records) = before.map (·.records) ∧ last'.records = last.records := by
    by_cases hne : records = []
    · subst hne
      obtain ⟨rfl, hrest⟩ := h.of_nil hsize
      obtain ⟨rfl, hrest'⟩ := h'.of_nil hsize
      exact ⟨rfl, hrest'.trans hrest.symm⟩
    · exact (h.isCut hne).unique (h'.isCut hne)
  have hbefore : before' = before := by
    rw [h.eq_ofFull.1, h'.eq_ofFull.1, hrecords.1]
  have hlast : last' = last := by
    rw [h.eq_ofFull.2, h'.eq_ofFull.2, hrecords.2, hbefore]
  exact ⟨hbefore, hlast⟩

end Partition

end Partitions

/-! ## Building batches -/

section Build

variable {size : Nat} {records rest : List Json} {full : List (List Json)}

/-- The mark stands at the last piece. -/
theorem build_of_isCut (c : Collection) (h : IsCut (max size 1) records full rest) :
    build c records size = ofFull c (full.map (List.map FlatRecord.ofJson)) ++
      [⟨c, full.length, true, rest.map FlatRecord.ofJson⟩] := by
  have hne : records.isEmpty = false := List.isEmpty_eq_false_iff.2 h.ne_nil
  unfold build
  dsimp only
  rw [hne, if_neg Bool.false_ne_true, h.chunks_eq, h.pieces_eq, List.zipIdx_append, List.map_append, ofFull,
    List.zipIdx_map, List.map_map]
  congr 1
  -- A piece that the rest follows has a lower index than the mark asks for.
  · refine List.map_congr_left (fun e he => ?_)
    have hlt : e.2 < full.length := List.snd_lt_of_mem_zipIdx he
    simp [Nat.ne_of_lt hlt]
  · simp

theorem exists_partition_build (c : Collection) (records : List Json) (size : Nat) : ∃ before last,
    build c records size = before ++ [last] ∧
      Partition c (records.map FlatRecord.ofJson) (max size 1) before last := by
  by_cases hne : records = []
  · subst hne
    exact ⟨[], _, rfl, partition_nil c _⟩
  · obtain ⟨full, rest, h⟩ := exists_isCut (Nat.le_max_right size 1) hne
    have hpartition := (h.map FlatRecord.ofJson).partition c
    rw [List.length_map] at hpartition
    exact ⟨_, _, build_of_isCut c h, hpartition⟩

/-- **Batches partition the records.**  Whatever the records and the size, zero counting as one: there is a last batch,
and the batches are the one partition of the flat records into batches of that size.  No records have one empty batch. -/
theorem build_eq_iff_partition (c : Collection) (records : List Json) (size : Nat) :
    (∃ before last, build c records size = before ++ [last]) ∧
    (∀ before last, build c records size = before ++ [last] ↔
      Partition c (records.map FlatRecord.ofJson) (max size 1) before last) ∧
    build c [] size = [⟨c, 0, true, []⟩] := by
  obtain ⟨before, last, hbuild, hpartition⟩ := exists_partition_build c records size
  refine ⟨⟨before, last, hbuild⟩, fun before' last' => ⟨fun h => ?_, fun h => ?_⟩, rfl⟩
  · obtain ⟨rfl, hlast⟩ := List.append_inj' (hbuild.symm.trans h) rfl
    rwa [List.singleton_inj.1 hlast] at hpartition
  · obtain ⟨rfl, rfl⟩ := hpartition.unique (Nat.le_max_right size 1) h
    exact hbuild

end Build

end Batch

end Scorebook
