import Scorebook.Proofs.Choosing
import Scorebook.Proofs.Counting
/-!
# Ranks and achievements

The ranks of the records of a match number them in one order (`PlayerMatch.Above`), and an achievement is held by the
record that earns it: by its value, the greatest of those that are positive, and of equal ones the lowest id.
-/
namespace Scorebook

/-! ## Places in a list -/

/-- In an ordered list whose items differ under `f`, what stands at the earlier place goes before. -/
theorem rel_of_idxOf_lt {α κ : Type} [DecidableEq κ] {R : α → α → Prop} {f : α → κ} {a b : α} : ∀ {l : List α},
    l.Pairwise R → (l.map f).Nodup → a ∈ l → b ∈ l → (l.map f).idxOf (f a) < (l.map f).idxOf (f b) → R a b
  | x :: l, hl, hf, ha, hb, hlt => by
    obtain ⟨hx, hl⟩ := List.pairwise_cons.1 hl
    obtain ⟨hfx, hf⟩ := List.nodup_cons.1 hf
    have hne {y : α} (hy : y ∈ l) : f x ≠ f y := fun h => hfx (h ▸ List.mem_map_of_mem hy)
    rcases List.mem_cons.1 hb with rfl | hmem
    · rw [List.map_cons, List.idxOf_cons_self] at hlt
      exact absurd hlt (Nat.not_lt_zero _)
    · rcases List.mem_cons.1 ha with rfl | hmem'
      · exact hx b hmem
      · rw [List.map_cons, List.idxOf_cons_ne _ (hne hmem'), List.idxOf_cons_ne _ (hne hmem)] at hlt
        exact rel_of_idxOf_lt hl hf hmem' hmem (Nat.lt_of_succ_lt_succ hlt)

/-- A test that only the item at one place passes. -/
theorem filter_eq_of_place {α : Type} {test : α → Bool} : ∀ {l : List α} (place : Option Nat),
    (∀ i, ∀ a ∈ l[i]?, test a = true ↔ place = some i) → l.filter test = (place.bind (l[·]?)).toList
  | [], none, _ => rfl
  | [], some _, _ => rfl
  | a :: l, none, h => by
    have hrest := filter_eq_of_place none (fun i b hb => (h (i + 1) b hb).trans (by simp))
    rw [List.filter_cons_of_neg (fun ht => nomatch (h 0 a rfl).1 ht), hrest]
    rfl
  | a :: l, some 0, h => by
    have hrest := filter_eq_of_place none (fun i b hb => (h (i + 1) b hb).trans (by simp))
    rw [List.filter_cons_of_pos ((h 0 a rfl).2 rfl), hrest]
    rfl
  | a :: l, some (n + 1), h => by
    have hrest := filter_eq_of_place (some n) (fun i b hb => (h (i + 1) b hb).trans (by simp))
    rw [List.filter_cons_of_neg (fun ht => nomatch (h 0 a rfl).1 ht), hrest]
    rfl

theorem map_idxOf_self {l : List Nat} (h : l.Nodup) : l.map l.idxOf = List.range l.length := by
  refine List.ext_getElem (by simp) (fun i hi hi' => ?_)
  rw [List.getElem_map, List.getElem_range, h.idxOf_getElem]

/-- In a list that increases under `f`, what stands no later is no greater. -/
theorem le_of_pairwise_lt {α : Type} {f : α → Nat} {l : List α} (hl : (l.map f).Pairwise (· < ·)) {i j : Nat} {a b : α}
    (ha : l[i]? = some a) (hb : l[j]? = some b) (hij : i ≤ j) : f a ≤ f b := by
  rw [List.pairwise_map] at hl
  rcases Nat.lt_or_eq_of_le hij with hlt | rfl
  · obtain ⟨hi, rfl⟩ := List.getElem?_eq_some_iff.1 ha
    obtain ⟨hj, rfl⟩ := List.getElem?_eq_some_iff.1 hb
    exact Nat.le_of_lt (List.pairwise_iff_getElem.1 hl i j hi hj hlt)
  · cases ha.symm.trans hb
    exact Nat.le_refl _

namespace PlayerMatch

/-! ## Ranks -/

/-- A record stands above another: it has more impact, or as much and more kills, or as much of both and the lower
id. -/
def Above (a b : PlayerMatch) : Prop :=
  Ratio.place b.totalImpact < Ratio.place a.totalImpact ∨
    Ratio.place b.totalImpact = Ratio.place a.totalImpact ∧
      (b.kills < a.kills ∨ b.kills = a.kills ∧ a.player < b.player)

variable {a b : PlayerMatch} {records : List PlayerMatch}

/-- What records are ranked by, the highest record first. -/
def rankKey (r : PlayerMatch) : ℕᵒᵈ ×ₗ ℕᵒᵈ ×ₗ ℕ :=
  toLex (OrderDual.toDual (Ratio.place r.totalImpact), toLex (OrderDual.toDual r.kills, r.player))

theorem above_iff : Above a b ↔ a.rankKey < b.rankKey := by
  simp only [Above, rankKey, Prod.Lex.toLex_lt_toLex, OrderDual.toDual_lt_toDual, OrderDual.toDual_inj, eq_comm]

theorem ranksBefore_iff : ranksBefore a b = true ↔ a.rankKey ≤ b.rankKey := by
  simp only [rankKey, Prod.Lex.toLex_le_toLex, OrderDual.toDual_lt_toDual, OrderDual.toDual_inj]
  unfold ranksBefore
  split
  · next h => simp [Nat.compare_eq_lt.1 h]
  · next h => simp [(Nat.compare_eq_gt.1 h).not_gt, (Nat.compare_eq_gt.1 h).ne]
  · next h =>
    rw [Nat.compare_eq_eq.1 h]
    split
    · next hk => simp [Nat.compare_eq_lt.1 hk]
    · next hk => simp [(Nat.compare_eq_gt.1 hk).not_gt, (Nat.compare_eq_gt.1 hk).ne]
    · next hk => simp [Nat.compare_eq_eq.1 hk]

theorem player_eq_of_rankKey (h : a.rankKey = b.rankKey) : a.player = b.player :=
  congrArg (fun k => (ofLex (ofLex k).2).2) h

/-- The places of records in the order of their ranks. -/
def order (records : List PlayerMatch) : List Nat :=
  (records.zipIdx.mergeSort (fun a b => ranksBefore a.1 b.1)).map (·.2)

theorem map_snd_zipIdx (records : List PlayerMatch) : records.zipIdx.map (·.2) = List.range records.length := by
  rw [List.zipIdx_map_snd, List.range_eq_range']

theorem order_perm (records : List PlayerMatch) : (order records).Perm (List.range records.length) := by
  rw [← map_snd_zipIdx]
  exact (List.mergeSort_perm _ _).map _

theorem nodup_order (records : List PlayerMatch) : (order records).Nodup :=
  (order_perm records).nodup_iff.2 List.nodup_range

theorem map_rank_rankAll (records : List PlayerMatch) :
    (rankAll records).map (·.rank) = (List.range records.length).map ((order records).idxOf · + 1) := by
  rw [← map_snd_zipIdx, List.map_map]
  exact List.map_map

theorem length_rankAll (records : List PlayerMatch) : (rankAll records).length = records.length := by
  unfold rankAll
  rw [List.length_map, List.length_zipIdx]

/-- **The ranks are the numbers from one on, each once.** -/
theorem ranks_perm (records : List PlayerMatch) :
    ((rankAll records).map (·.rank)).Perm (List.range' 1 records.length) := by
  have hlength : (order records).length = records.length := by
    rw [(order_perm records).length_eq, List.length_range]
  have hranks : (order records).map ((order records).idxOf · + 1) = List.range' 1 records.length := by
    have hadd : (order records).map ((order records).idxOf · + 1) =
        ((order records).map (order records).idxOf).map (· + 1) := List.map_map.symm
    rw [hadd, map_idxOf_self (nodup_order records), hlength, List.range'_eq_map_range]
    exact List.map_congr_left (fun n _ => Nat.add_comm n 1)
  rw [map_rank_rankAll, ← hranks]
  exact (order_perm records).symm.map _

/-- The record at the earlier place of the order goes before the other, or as high. -/
theorem rankKey_le_of_order {i j : Nat} (ha : records[i]? = some a) (hb : records[j]? = some b)
    (hlt : (order records).idxOf i < (order records).idxOf j) : a.rankKey ≤ b.rankKey := by
  have hsorted : (records.zipIdx.mergeSort (fun a b => ranksBefore a.1 b.1)).Pairwise
      (fun a b => ranksBefore a.1 b.1 = true) := by
    refine List.pairwise_mergeSort (fun x y z hxy hyz => ?_) (fun x y => ?_) _
    · exact ranksBefore_iff.2 ((ranksBefore_iff.1 hxy).trans (ranksBefore_iff.1 hyz))
    · rw [Bool.or_eq_true, ranksBefore_iff, ranksBefore_iff]
      exact le_total _ _
  have hmem {k : Nat} {r : PlayerMatch} (h : records[k]? = some r) :
      (r, k) ∈ records.zipIdx.mergeSort (fun a b => ranksBefore a.1 b.1) :=
    List.mem_mergeSort.2 (List.mem_zipIdx_iff_getElem?.2 h)
  exact ranksBefore_iff.1 (rel_of_idxOf_lt (f := Prod.snd) hsorted (nodup_order records) (hmem ha) (hmem hb) hlt)

/-- **Of records of different players, the one that stands above another has the lower rank.** -/
theorem rank_lt_iff (hone : (records.map (·.player)).Nodup) (ha : a ∈ rankAll records) (hb : b ∈ rankAll records) :
    a.rank < b.rank ↔ Above a b := by
  obtain ⟨⟨a, i⟩, hi, rfl⟩ := List.mem_map.1 ha
  obtain ⟨⟨b, j⟩, hj, rfl⟩ := List.mem_map.1 hb
  rw [List.mem_zipIdx_iff_getElem?] at hi hj
  -- a rank is no part of what records are ranked by
  show (order records).idxOf i + 1 < (order records).idxOf j + 1 ↔ Above a b
  rw [Nat.add_lt_add_iff_right, above_iff]
  constructor
  · intro hlt
    refine lt_of_le_of_ne (rankKey_le_of_order hi hj hlt) (fun heq => ?_)
    have hplayer : (records.map (·.player))[i]? = (records.map (·.player))[j]? := by
      rw [List.getElem?_map, List.getElem?_map, hi, hj]
      exact congrArg some (player_eq_of_rankKey heq)
    have hi' : i < (records.map (·.player)).length := by
      rw [List.length_map]
      exact (List.getElem?_eq_some_iff.1 hi).1
    rw [(List.getElem?_inj hi' hone).1 hplayer] at hlt
    exact Nat.lt_irrefl _ hlt
  · intro habove
    rcases Nat.lt_trichotomy ((order records).idxOf i) ((order records).idxOf j) with hlt | heq | hgt
    · exact hlt
    · have hmem : i ∈ order records := by
        rw [(order_perm records).mem_iff, List.mem_range]
        exact (List.getElem?_eq_some_iff.1 hi).1
      rw [List.idxOf_inj hmem] at heq
      cases heq
      cases hi.symm.trans hj
      exact absurd habove (lt_irrefl _)
    · exact absurd habove (rankKey_le_of_order hj hi hgt).not_gt

/-! ## Achievements -/

/-- The value at a place earns what values are compared for: it is positive, and no other positive one is greater, nor
as great at an earlier place. -/
def Earns (values : List Float) (i : Nat) : Prop :=
  ∃ x ∈ values[i]?, 0 < x ∧
    ∀ j, ∀ y ∈ values[j]?, 0 < y → Ratio.place y < Ratio.place x ∨ Ratio.place y = Ratio.place x ∧ i ≤ j

variable {as : List Achievement} {h : Achievement} {i : Nat}

theorem mem_contenders_iff {e : PlayerMatch × Nat} :
    e ∈ records.zipIdx.reverse.filter (fun e => 0 < achievementValue h e.1) ↔
      records[e.2]? = some e.1 ∧ 0 < achievementValue h e.1 := by
  rw [List.mem_filter, List.mem_reverse, List.mem_zipIdx_iff_getElem?, decide_eq_true_iff]

/-- **The search finds the value that earns an achievement.** -/
theorem winner?_eq_some_iff : winner? records h = some i ↔ Earns (records.map (achievementValue h)) i := by
  -- the contenders stand in the order of their places, the last first
  have hordered : (records.zipIdx.reverse.filter (fun e => 0 < achievementValue h e.1)).Pairwise
      (fun a b => OrderDual.toDual a.2 < OrderDual.toDual b.2) :=
    (List.pairwise_reverse.2 (pairwise_zipIdx records)).filter _
  have hvalue {j : Nat} {x : Float} :
      (records.map (achievementValue h))[j]? = some x ↔ ∃ r, records[j]? = some r ∧ achievementValue h r = x := by
    rw [List.getElem?_map, Option.map_eq_some_iff]
  unfold winner?
  rw [Option.map_eq_some_iff]
  constructor
  · rintro ⟨⟨r, i⟩, hwon, rfl⟩
    obtain ⟨hmem, hfirst⟩ := (lastGreatest?_eq_some_iff_of_pairwise hordered).1 hwon
    obtain ⟨hr, hpos⟩ := mem_contenders_iff.1 hmem
    refine ⟨achievementValue h r, hvalue.2 ⟨r, hr, rfl⟩, hpos, fun j y hy hpos' => ?_⟩
    obtain ⟨r', hr', rfl⟩ := hvalue.1 hy
    exact Prod.Lex.toLex_le_toLex.1 (hfirst (r', j) (mem_contenders_iff.2 ⟨hr', hpos'⟩))
  · rintro ⟨x, hx, hpos, hfirst⟩
    obtain ⟨r, hr, rfl⟩ := hvalue.1 hx
    refine ⟨(r, i), (lastGreatest?_eq_some_iff_of_pairwise hordered).2 ⟨mem_contenders_iff.2 ⟨hr, hpos⟩, ?_⟩, rfl⟩
    intro e he
    obtain ⟨he, hpos'⟩ := mem_contenders_iff.1 he
    exact Prod.Lex.toLex_le_toLex.2 (hfirst e.2 _ (hvalue.2 ⟨e.1, he, rfl⟩) hpos')

theorem winner?_eq_none_iff : winner? records h = none ↔ ∀ r ∈ records, ¬ 0 < achievementValue h r := by
  unfold winner?
  rw [Option.map_eq_none_iff, lastGreatest?_eq_leastBy?, leastBy?_eq_none_iff, List.eq_nil_iff_forall_not_mem]
  constructor
  · intro hnone r hr hpos
    obtain ⟨i, hi⟩ := List.mem_iff_getElem?.1 hr
    exact hnone (r, i) (mem_contenders_iff.2 ⟨hi, hpos⟩)
  · intro hall e he
    obtain ⟨he, hpos⟩ := mem_contenders_iff.1 he
    exact hall e.1 (List.mem_of_getElem? he) hpos

/-- What an achievement is awarded for decides who wins it. -/
theorem winner?_congr {records' : List PlayerMatch}
    (hvalues : records'.map (achievementValue h) = records.map (achievementValue h)) :
    winner? records' h = winner? records h := by
  apply Option.ext
  intro i
  rw [winner?_eq_some_iff, winner?_eq_some_iff, hvalues]

theorem achievementValue_award (h : Achievement) (r : PlayerMatch) (as : List Achievement) :
    achievementValue h { r with achievements := as } = achievementValue h r := by
  cases h <;> rfl

theorem achievementValue_rank (h : Achievement) (r : PlayerMatch) (n : Nat) :
    achievementValue h { r with rank := n } = achievementValue h r := by
  cases h <;> rfl

theorem achievements_award (records : List PlayerMatch) (h : Achievement) (i : Nat) :
    (award records h)[i]?.map (·.achievements) =
      records[i]?.map (fun r => r.achievements ++ if winner? records h = some i then [h] else []) := by
  unfold award
  split
  · next n hn =>
    rw [hn, List.getElem?_modify]
    cases records[i]? with
    | none => rfl
    | some r => by_cases hi : n = i <;> simp [hi]
  · next hn =>
    rw [hn]
    simp

/-- **Of achievements awarded one after another, a record gets those that it wins.** -/
theorem achievements_foldl_award (i : Nat) : ∀ (as : List Achievement) (records : List PlayerMatch),
    (as.foldl award records)[i]?.map (·.achievements) =
      records[i]?.map (fun r => r.achievements ++ as.filter (fun h => winner? records h = some i))
  | [], records => by simp
  | h :: as, records => by
    have hwinner (h' : Achievement) : winner? (award records h) h' = winner? records h' :=
      winner?_congr (map_award _ (achievementValue_award h') records h)
    have hrest := achievements_foldl_award i as (award records h)
    simp only [hwinner] at hrest
    have hmap (l : List PlayerMatch) (late : List Achievement) :
        l[i]?.map (fun r => r.achievements ++ late) = (l[i]?.map (·.achievements)).map (· ++ late) := by
      rw [Option.map_map]
      rfl
    rw [List.foldl_cons, hrest, hmap, achievements_award, Option.map_map]
    refine congrFun (congrArg Option.map (funext (fun r => ?_))) _
    by_cases hi : winner? records h = some i <;> simp [hi]

/-- Of new records, each has the achievements that it wins. -/
theorem achievements_rankAll (hnew : ∀ r ∈ records, r.achievements = []) {r : PlayerMatch}
    (hr : (rankAll (as.foldl award records))[i]? = some r) :
    r.achievements = as.filter (fun h => winner? (rankAll (as.foldl award records)) h = some i) := by
  have hwinner (h : Achievement) : winner? (rankAll (as.foldl award records)) h = winner? records h := by
    refine winner?_congr ?_
    rw [map_rankAll _ (achievementValue_rank h), map_foldl_award _ (achievementValue_award h)]
  have hach : some r.achievements = records[i]?.map
      (fun r => r.achievements ++ as.filter (fun h => winner? records h = some i)) := by
    have hranked := congrArg (·[i]?) (map_rankAll (·.achievements) (fun _ _ => rfl) (as.foldl award records))
    simp only [List.getElem?_map, hr] at hranked
    exact hranked.trans (achievements_foldl_award i as records)
  obtain ⟨r₀, hr₀, heq⟩ := Option.map_eq_some_iff.1 hach.symm
  rw [hnew r₀ (List.mem_of_getElem? hr₀), List.nil_append] at heq
  simp only [hwinner]
  exact heq.symm

/-- The holder of an achievement is its winner. -/
theorem holders_rankAll (hnew : ∀ r ∈ records, r.achievements = []) (hall : h ∈ as) :
    (rankAll (as.foldl award records)).filter (h ∈ ·.achievements) =
      ((winner? (rankAll (as.foldl award records)) h).bind ((rankAll (as.foldl award records))[·]?)).toList := by
  refine filter_eq_of_place _ (fun i r hr => ?_)
  rw [decide_eq_true_iff, achievements_rankAll hnew hr, List.mem_filter, decide_eq_true_iff, and_iff_right hall]

/-! ## Standings -/

/-- How the records of a match stand to one another. -/
structure Standings (records : List PlayerMatch) : Prop where
  /-- The ranks are the numbers from one on, each once. -/
  ranks : (records.map (·.rank)).Perm (List.range' 1 records.length)
  /-- Of two records, the one that stands above has the lower rank. -/
  above : ∀ a ∈ records, ∀ b ∈ records, a.rank < b.rank ↔ a.Above b
  /-- An achievement is held by nobody if no record has a positive value for it, and else by one record, whose value is
  positive and the greatest of those that are; of equal ones it is the record with the lowest id. -/
  honours : ∀ h : Achievement,
    (∀ r ∈ records, ¬ 0 < achievementValue h r) ∧ records.filter (h ∈ ·.achievements) = [] ∨
    ∃ r ∈ records, records.filter (h ∈ ·.achievements) = [r] ∧ 0 < achievementValue h r ∧
      ∀ r' ∈ records, 0 < achievementValue h r' →
        Ratio.place (achievementValue h r') < Ratio.place (achievementValue h r) ∨
        Ratio.place (achievementValue h r') = Ratio.place (achievementValue h r) ∧ r.player ≤ r'.player

theorem standings_rankAll (hnew : ∀ r ∈ records, r.achievements = [])
    (hplayers : (records.map (·.player)).Pairwise (· < ·)) :
    Standings (rankAll (Achievement.all.foldl award records)) := by
  have hawarded : (Achievement.all.foldl award records).map (·.player) = records.map (·.player) :=
    map_foldl_award _ (fun _ _ => rfl) _ _
  rw [← hawarded] at hplayers
  refine ⟨?_, fun a ha b hb => rank_lt_iff (hplayers.imp Nat.ne_of_lt) ha hb, fun h => ?_⟩
  · rw [length_rankAll]
    exact ranks_perm _
  · have hall : h ∈ Achievement.all := by cases h <;> decide
    rw [holders_rankAll hnew hall]
    rw [← map_rankAll _ (fun _ _ => rfl)] at hplayers
    generalize rankAll (Achievement.all.foldl award records) = ranked at hplayers
    cases hwon : winner? ranked h with
    | none => exact .inl ⟨winner?_eq_none_iff.1 hwon, rfl⟩
    | some i =>
      obtain ⟨x, hx, hpos, hfirst⟩ := winner?_eq_some_iff.1 hwon
      rw [List.getElem?_map] at hx
      obtain ⟨r, hr, rfl⟩ := Option.map_eq_some_iff.1 hx
      refine .inr ⟨r, List.mem_of_getElem? hr, congrArg Option.toList hr, hpos, fun r' hr' hpos' => ?_⟩
      obtain ⟨j, hj⟩ := List.mem_iff_getElem?.1 hr'
      have hvalue : (ranked.map (achievementValue h))[j]? = some (achievementValue h r') := by
        rw [List.getElem?_map, hj]
        rfl
      refine (hfirst j _ hvalue hpos').imp id (fun ⟨hequal, hij⟩ => ⟨hequal, ?_⟩)
      exact le_of_pairwise_lt hplayers hr hj hij

end PlayerMatch

namespace MatchState

open PlayerMatch

/-- The records of a match before any achievement is awarded. -/
def unawarded (s : MatchState) : List PlayerMatch :=
  shareImpact (s.players.values.map (fun p =>
    summarize p (s.team? p.id) (s.playerRounds.filter (·.player = p.id))))

theorem playerMatches_closeMatch (s : MatchState) :
    s.closeMatch.playerMatches = rankAll (Achievement.all.foldl award s.unawarded) := by
  rw [closeMatch, unawarded]

theorem achievements_unawarded {s : MatchState} {r : PlayerMatch} (hr : r ∈ s.unawarded) : r.achievements = [] := by
  have hmem := List.mem_map_of_mem (f := (·.achievements)) hr
  rw [unawarded, map_shareImpact _ (fun _ _ => rfl), List.map_map] at hmem
  obtain ⟨p, -, hp⟩ := List.mem_map.1 hmem
  exact hp.symm

/-- Players keyed by their ids have their records in the order of these. -/
theorem map_player_unawarded {s : MatchState} (hown : ∀ id p, s.players.get? id = some p → p.id = id) :
    s.unawarded.map (·.player) = s.players.keys := by
  rw [unawarded, map_shareImpact _ (fun _ _ => rfl), Table.values, List.map_map, List.map_map]
  exact List.map_congr_left (fun e he => hown e.1 e.2 (Table.mem_entries_iff.1 he))

/-- **A match is ranked in one order, and its achievements are held by those who earned them.** -/
theorem standings_closeMatch {s : MatchState} (hown : ∀ id p, s.players.get? id = some p → p.id = id) :
    Standings s.closeMatch.playerMatches := by
  rw [playerMatches_closeMatch]
  refine standings_rankAll (fun _ => achievements_unawarded) ?_
  rw [map_player_unawarded hown, Table.keys, List.pairwise_map]
  exact s.players.sorted.imp Nat.compare_eq_lt.1

/-- Of three players the one with the most impact is ranked first, and of the other two, who have as much of it, the one
with more kills.  What two players earn as much of is held by the one with the lower id, and nobody supported or opened. -/
theorem standings_of_three :
    let player (id : PlayerId) : PlayerId × Player := (id, { id, name := "" })
    let round (player : PlayerId) (kills : Nat) (impact : Float) : PlayerRound :=
      { round := 1, player, name := "", side := some .ct, kills, impact }
    let s : MatchState :=
      { header := default, tickRate := 64, players := Table.ofList [player 2, player 4, player 6]
        playerRounds := [round 2 1 0.5, round 4 2 0.5, round 6 0 1.5] }
    let records := s.closeMatch.playerMatches
    (∀ id p, s.players.get? id = some p → p.id = id) ∧ Standings records ∧
      records.map (fun r => (r.player, r.kills, r.totalImpact, r.achievements)) =
        [(2, 1, 0.5, [.closer, .topAim]), (4, 2, 0.5, [.fragger]), (6, 0, 1.5, [.mostImpact, .matchSwing])] ∧
      records.map (·.rank) = [3, 2, 1] := by
  intro player round s records
  have hown : ∀ id p, s.players.get? id = some p → p.id = id := by
    intro id p hp
    have hmem := Table.mem_of_get?_ofList hp
    simp only [player, List.mem_cons, Prod.mk.injEq, List.not_mem_nil, or_false] at hmem
    rcases hmem with ⟨rfl, rfl⟩ | ⟨rfl, rfl⟩ | ⟨rfl, rfl⟩ <;> rfl
  have hstandings : Standings records := standings_closeMatch hown
  have hshown : records.map (fun r => (r.player, r.kills, r.totalImpact, r.achievements)) =
      [(2, 1, 0.5, [.closer, .topAim]), (4, 2, 0.5, [.fragger]), (6, 0, 1.5, [.mostImpact, .matchSwing])] := by
    decide +kernel
  refine ⟨hown, hstandings, hshown, ?_⟩
  -- the ranks are sorted out by what stands above what
  obtain ⟨a, b, c, hrecords⟩ := List.length_eq_three.1 ((List.length_map _).symm.trans (congrArg List.length hshown))
  rw [hrecords] at hshown hstandings ⊢
  simp only [List.map_cons, List.map_nil, List.cons.injEq, Prod.mk.injEq, and_true] at hshown
  obtain ⟨⟨-, hkillsa, himpacta, -⟩, ⟨-, hkillsb, himpactb, -⟩, -, hkillsc, himpactc, -⟩ := hshown
  have hcb : c.rank < b.rank := by
    refine (hstandings.above c (by simp) b (by simp)).2 (.inl ?_)
    rw [himpactb, himpactc]
    decide +kernel
  have hba : b.rank < a.rank := by
    refine (hstandings.above b (by simp) a (by simp)).2 (.inr ⟨by rw [himpacta, himpactb], .inl ?_⟩)
    rw [hkillsa, hkillsb]
    decide
  have hmem : ∀ r ∈ [a, b, c], r.rank ∈ List.range' 1 3 := fun r hr =>
    hstandings.ranks.subset (List.mem_map_of_mem hr)
  simp only [List.mem_cons, List.not_mem_nil, or_false, forall_eq_or_imp, forall_eq, List.mem_range'_1] at hmem
  simp only [List.map_cons, List.map_nil, List.cons.injEq, and_true]
  omega

end MatchState

end Scorebook
