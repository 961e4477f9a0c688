import Mathlib.Data.List.Induction
import Scorebook.Proofs.LastStanding
/-!
# Clutches by who has left

What a clutch is can be said without a replay.  The exits of a round take each player of the roster out once
(`leavers`), and after so many of them somebody is left of each side (`staying`).  A player has a clutch if at some such
moment nobody else is left of the side and one to five are of the other (`Alone`), and wins it if at some moment the
player is there and nobody of the other side is (`Outlives`).  The replay finds these clutches and no others, each at
its first moment, and has decided all of them by its last exit (`detect_eq_moments`).
-/
namespace Scorebook

namespace Clutch

/-- Who is taken out by the exits of a round, in the order of the first exits. -/
def leavers (roster : Table PlayerId Side) (exits : List Exit) : List PlayerId :=
  ((exits.map (·.player)).filter roster.contains).eraseDups

/-- Who stays of a side when others are gone. -/
def staying (roster : Table PlayerId Side) (gone : List PlayerId) (side : Side) : List PlayerId :=
  (roster.entries.filter (fun e => e.2 = side && !gone.contains e.1)).map (·.1)

/-- After `n` have left, a player is the only one of a side, against one to five. -/
structure Alone (roster : Table PlayerId Side) (gone : List PlayerId) (side : Side) (player : PlayerId) (n : Nat) :
    Prop where
  moment : 1 ≤ n ∧ n ≤ gone.length
  only : staying roster (gone.take n) side = [player]
  enemies : 1 ≤ (staying roster (gone.take n) side.opposite).length ∧
    (staying roster (gone.take n) side.opposite).length ≤ teamSize

/-- The player is alone after `n` have left, and was not before. -/
structure FirstAlone (roster : Table PlayerId Side) (gone : List PlayerId) (side : Side) (player : PlayerId) (n : Nat) :
    Prop extends Alone roster gone side player n where
  first : ∀ m < n, ¬ Alone roster gone side player m

/-- After `n` have left, a player is there and nobody of the other side is. -/
def Outlives (roster : Table PlayerId Side) (gone : List PlayerId) (side : Side) (player : PlayerId) (n : Nat) : Prop :=
  n ≤ gone.length ∧ player ∈ staying roster (gone.take n) side ∧ staying roster (gone.take n) side.opposite = []

variable {roster : Table PlayerId Side} {gone : List PlayerId} {side : Side} {player : PlayerId} {n m : Nat}

/-! ## Who stays -/

theorem mem_staying : player ∈ staying roster gone side ↔ roster.get? player = some side ∧ player ∉ gone := by
  unfold staying
  rw [List.mem_map]
  constructor
  · rintro ⟨e, he, rfl⟩
    obtain ⟨hmem, hkey⟩ := List.mem_filter.1 he
    simp only [Bool.and_eq_true, decide_eq_true_eq, Bool.not_eq_true', List.contains_eq_mem, decide_eq_false_iff_not]
      at hkey
    exact ⟨hkey.1 ▸ Table.mem_entries_iff.1 hmem, hkey.2⟩
  · rintro ⟨hget, hstay⟩
    exact ⟨(player, side), List.mem_filter.2 ⟨Table.mem_entries_iff.2 hget, by simp [hstay]⟩, rfl⟩

theorem mem_staying_take_of_le (h : player ∈ staying roster (gone.take n) side) (hm : m ≤ n) :
    player ∈ staying roster (gone.take m) side := by
  obtain ⟨hget, hstay⟩ := mem_staying.1 h
  exact mem_staying.2 ⟨hget, fun hleft => hstay ((List.take_prefix_take_left hm).subset hleft)⟩

theorem Alone.member (h : Alone roster gone side player n) : roster.get? player = some side :=
  (mem_staying.1 (h.only ▸ List.mem_singleton_self player)).1

theorem FirstAlone.unique (h : FirstAlone roster gone side player n) (h' : FirstAlone roster gone side player m) :
    n = m := by
  rcases Nat.lt_trichotomy n m with hlt | heq | hgt
  · exact absurd h.toAlone (h'.first n hlt)
  · exact heq
  · exact absurd h'.toAlone (h.first m hgt)

/-! ## One more leaves -/

section Concat

variable {last : PlayerId}

theorem take_concat (last : PlayerId) (h : n ≤ gone.length) : (gone ++ [last]).take n = gone.take n :=
  List.take_append_of_le_length h

theorem take_concat_self : (gone ++ [last]).take (gone.length + 1) = gone ++ [last] :=
  List.take_of_length_le (by simp)

/-- **The moments of the past stay as they are.** -/
theorem alone_concat (h : n ≤ gone.length) :
    Alone roster (gone ++ [last]) side player n ↔ Alone roster gone side player n := by
  have hlen : (gone ++ [last]).length = gone.length + 1 := by simp
  constructor
  · rintro ⟨⟨hpos, -⟩, honly, henemies⟩
    rw [take_concat last h] at honly henemies
    exact ⟨⟨hpos, h⟩, honly, henemies⟩
  · rintro ⟨⟨hpos, -⟩, honly, henemies⟩
    rw [← take_concat last h] at honly henemies
    exact ⟨⟨hpos, by omega⟩, honly, henemies⟩

theorem FirstAlone.concat (h : FirstAlone roster gone side player n) :
    FirstAlone roster (gone ++ [last]) side player n := by
  have hle := h.moment.2
  exact ⟨(alone_concat hle).2 h.toAlone, fun m hm hagain => h.first m hm ((alone_concat (by omega)).1 hagain)⟩

/-- **An enemy is outlived in the past or just now.** -/
theorem exists_outlives_concat : (∃ n, Outlives roster (gone ++ [last]) side player n) ↔
    (∃ n, Outlives roster gone side player n) ∨
      player ∈ staying roster (gone ++ [last]) side ∧ staying roster (gone ++ [last]) side.opposite = [] := by
  have hlen : (gone ++ [last]).length = gone.length + 1 := by simp
  constructor
  · rintro ⟨n, hn, hstay, hnone⟩
    by_cases hpast : n ≤ gone.length
    · rw [take_concat last hpast] at hstay hnone
      exact .inl ⟨n, hpast, hstay, hnone⟩
    · obtain rfl : n = gone.length + 1 := by omega
      rw [take_concat_self] at hstay hnone
      exact .inr ⟨hstay, hnone⟩
  · rintro (⟨n, hn, hstay, hnone⟩ | ⟨hstay, hnone⟩)
    · rw [← take_concat last hn] at hstay hnone
      exact ⟨n, by omega, hstay, hnone⟩
    · refine ⟨gone.length + 1, by omega, ?_, ?_⟩ <;> rw [take_concat_self]
      · exact hstay
      · exact hnone

end Concat

theorem eraseDups_concat (l : List PlayerId) (id : PlayerId) :
    (l ++ [id]).eraseDups = if id ∈ l then l.eraseDups else l.eraseDups ++ [id] := by
  rw [List.eraseDups_append]
  split
  · next h => simp [List.removeAll, h]
  · next h => simp [List.removeAll, h, List.eraseDups_cons]

/-- **An exit takes its player out if the player is on the roster and has not left.** -/
theorem leavers_concat (roster : Table PlayerId Side) (exits : List Exit) (x : Exit) :
    leavers roster (exits ++ [x]) =
      if roster.contains x.player = true ∧ x.player ∉ leavers roster exits then leavers roster exits ++ [x.player]
      else leavers roster exits := by
  unfold leavers
  rw [List.map_append, List.filter_append, List.map_singleton]
  simp only [List.mem_eraseDups]
  by_cases hin : roster.contains x.player = true
  · rw [List.filter_cons_of_pos hin, List.filter_nil, eraseDups_concat]
    by_cases hleft : x.player ∈ (exits.map (·.player)).filter roster.contains
    · rw [if_pos hleft, if_neg (fun h => h.2 hleft)]
    · rw [if_neg hleft, if_pos ⟨hin, hleft⟩]
  · rw [List.filter_cons_of_neg hin, List.filter_nil, List.append_nil, if_neg (fun h => hin h.1)]

namespace Replay

/-- A replay knows its clutches by the moments at which they began.  At the present moment only some sides have been
looked at for new ones. -/
structure Knows (roster : Table PlayerId Side) (gone : List PlayerId) (looked : List Side) (r : Replay) : Prop extends
    Contested roster r where
  rest : r.living.entries = roster.entries.filter (fun e => !gone.contains e.1)
  began : ∀ a ∈ r.attempts, ∃ n, FirstAlone roster gone a.side a.player n ∧
    a.opponents = (staying roster (gone.take n) a.side.opposite).length ∧ (n = gone.length → a.side ∈ looked)
  known : ∀ side player n, Alone roster gone side player n → (n = gone.length → side ∈ looked) →
    ∃ a ∈ r.attempts, a.player = player
  ordered : r.attempts.Pairwise (fun a b => ∀ n m, FirstAlone roster gone a.side a.player n →
    FirstAlone roster gone b.side b.player m → n < m ∨ n = m ∧ a.side = .ct ∧ b.side = .t)
  outlived : ∀ a ∈ r.attempts, a.status = .won ↔ ∃ n, Outlives roster gone a.side a.player n
  lost : ∀ a ∈ r.attempts, a.status = .lost → a.player ∈ gone

/-- The replay when somebody has left, before it is looked at for new clutches. -/
def leave (r : Replay) (last : PlayerId) : Replay :=
  { r.without last with attempts := r.attempts.map ((r.without last).resolve last) }

theorem step_eq (r : Replay) (x : Exit) :
    r.step x = if r.living.contains x.player then ((r.leave x.player).begin .ct).begin .t else r := rfl

theorem player_resolve (r : Replay) (last : PlayerId) (a : Attempt) : (r.resolve last a).player = a.player := by
  rcases resolve_cases r last a with ⟨-, he⟩ | ⟨-, -, he⟩ | ⟨-, -, -, he⟩ | ⟨-, -, -, he⟩ <;> rw [he]

theorem opponents_resolve (r : Replay) (last : PlayerId) (a : Attempt) :
    (r.resolve last a).opponents = a.opponents := by
  rcases resolve_cases r last a with ⟨-, he⟩ | ⟨-, -, he⟩ | ⟨-, -, -, he⟩ | ⟨-, -, -, he⟩ <;> rw [he]

namespace Knows

variable {r : Replay} {looked : List Side}

theorem start (roster : Table PlayerId Side) : Knows roster [] [.ct, .t] { living := roster } where
  toContested := .start roster
  rest := by simp
  began a ha := by cases ha
  known side player n h := by
    have := h.moment
    simp only [List.length_nil] at this
    omega
  ordered := .nil
  outlived a ha := by cases ha
  lost a ha := by cases ha

theorem livingOn_eq (h : Knows roster gone looked r) (side : Side) : r.livingOn side = staying roster gone side := by
  rw [livingOn, h.rest, List.filter_filter]
  rfl

theorem get?_living (h : Knows roster gone looked r) :
    r.living.get? player = some side ↔ roster.get? player = some side ∧ player ∉ gone := by
  rw [← mem_livingOn, h.livingOn_eq, mem_staying]

/-- A player is alone now if the player is the last of a side, against enough enemies but not too many. -/
theorem alone_now (h : Knows roster gone looked r) (hpos : 1 ≤ gone.length) :
    Alone roster gone side player gone.length ↔ r.livingOn side = [player] ∧
      1 ≤ (r.livingOn side.opposite).length ∧ (r.livingOn side.opposite).length ≤ teamSize := by
  rw [h.livingOn_eq, h.livingOn_eq]
  constructor
  · rintro ⟨-, honly, henemies⟩
    rw [List.take_length] at honly henemies
    exact ⟨honly, henemies⟩
  · rintro ⟨honly, henemies⟩
    rw [← List.take_length (l := gone)] at honly henemies
    exact ⟨⟨hpos, Nat.le_refl _⟩, honly, henemies⟩

/-! ### When somebody leaves -/

section Leave

variable {last : PlayerId}

theorem rest_leave (h : Knows roster gone looked r) (last : PlayerId) :
    (r.leave last).living.entries = roster.entries.filter (fun e => !(gone ++ [last]).contains e.1) := by
  show (r.living.erase last).entries = _
  rw [Table.entries_erase, h.rest, List.filter_filter]
  refine List.filter_congr (fun e _ => ?_)
  rw [Bool.and_comm]
  simp [eq_comm]

/-- **When somebody leaves, exactly those have won who have outlived the other side.** -/
theorem outlived_resolve (h : Knows roster gone looked r) {a : Attempt} (ha : a ∈ r.attempts) :
    ((r.without last).resolve last a).status = .won ↔ ∃ n, Outlives roster (gone ++ [last]) a.side a.player n := by
  have hgone : (∃ n, Outlives roster (gone ++ [last]) a.side a.player n) ↔ a.status = .won ∨
      a.player ∈ staying roster (gone ++ [last]) a.side ∧ staying roster (gone ++ [last]) a.side.opposite = [] := by
    rw [exists_outlives_concat, h.outlived a ha]
  have henemies : staying roster (gone ++ [last]) a.side.opposite = [] ↔
      ∀ id, (r.without last).living.get? id ≠ some a.side.opposite := by
    rw [List.eq_nil_iff_forall_not_mem]
    refine forall_congr' (fun id => not_congr ?_)
    rw [mem_staying, get?_without, h.get?_living, List.mem_append, List.mem_singleton]
    grind
  rw [hgone, henemies]
  rcases resolve_cases (r.without last) last a with ⟨hd, he⟩ | ⟨hu, hleft, he⟩ | ⟨hu, hne, hnone, he⟩ |
    ⟨hu, hne, ⟨id, hid⟩, he⟩ <;> rw [he]
  · refine ⟨.inl, ?_⟩
    rintro (hwon | ⟨hstays, -⟩)
    · exact hwon
    · cases hs : a.status with
      | undecided => exact absurd hs hd
      | won => rfl
      | lost => exact absurd (List.mem_append_left _ (h.lost a ha hs)) (mem_staying.1 hstays).2
  · refine iff_of_false (fun hwon => by cases hwon) ?_
    rintro (hwon | ⟨hstays, -⟩)
    · rw [hu] at hwon
      cases hwon
    · exact (mem_staying.1 hstays).2 (hleft ▸ List.mem_append_right _ List.mem_cons_self)
  · have hlives := h.get?_living.1 ((h.stands a ha).undecided hu).1
    refine iff_of_true rfl (.inr ⟨mem_staying.2 ⟨hlives.1, fun hmem => ?_⟩, hnone⟩)
    rcases List.mem_append.1 hmem with hmem | hmem
    · exact hlives.2 hmem
    · exact hne (List.mem_singleton.1 hmem)
  · rw [hu]
    refine iff_of_false (fun hwon => by cases hwon) ?_
    rintro (hwon | ⟨-, hnone⟩)
    · cases hwon
    · exact hnone id hid

/-- **When somebody leaves, what was known of the past is known still**, and no side has been looked at again. -/
theorem leave (h : Knows roster gone [.ct, .t] r) (last : PlayerId) :
    Knows roster (gone ++ [last]) [] (r.leave last) where
  toContested := h.toContested.leave last
  rest := h.rest_leave last
  began a ha := by
    obtain ⟨a, hold, rfl⟩ := List.mem_map.1 ha
    obtain ⟨n, hfirst, hopponents, -⟩ := h.began a hold
    have hle := hfirst.moment.2
    rw [side_resolve, player_resolve, opponents_resolve]
    refine ⟨n, hfirst.concat, ?_, fun hnow => ?_⟩
    · rw [take_concat _ hle]
      exact hopponents
    · rw [List.length_append, List.length_singleton] at hnow
      omega
  known side player n halone hpast := by
    have hlen : (gone ++ [last]).length = gone.length + 1 := by simp
    have hmoment := halone.moment.2
    have hle : n ≤ gone.length := by
      by_contra hnow
      cases hpast (by omega)
    obtain ⟨a, ha, hplayer⟩ := h.known side player n ((alone_concat hle).1 halone) (fun _ => by cases side <;> simp)
    exact ⟨_, List.mem_map_of_mem ha, (player_resolve _ _ _).trans hplayer⟩
  ordered := by
    show (r.attempts.map _).Pairwise _
    rw [List.pairwise_map]
    refine h.ordered.imp_of_mem (fun {a b} ha hb hab n m hn hm => ?_)
    rw [side_resolve, player_resolve] at hn hm
    obtain ⟨n', hn', -⟩ := h.began a ha
    obtain ⟨m', hm', -⟩ := h.began b hb
    rw [hn.unique hn'.concat, hm.unique hm'.concat, side_resolve, side_resolve]
    exact hab n' m' hn' hm'
  outlived a ha := by
    obtain ⟨a, hold, rfl⟩ := List.mem_map.1 ha
    rw [side_resolve, player_resolve]
    exact h.outlived_resolve hold
  lost a ha hlost := by
    obtain ⟨a, hold, rfl⟩ := List.mem_map.1 ha
    rw [player_resolve]
    rcases resolve_cases (r.without last) last a with ⟨-, he⟩ | ⟨-, hleft, -⟩ | ⟨-, -, -, he⟩ | ⟨hu, -, -, he⟩
    · rw [he] at hlost
      exact List.mem_append_left _ (h.lost a hold hlost)
    · exact List.mem_append_right _ (List.mem_singleton.2 hleft)
    · rw [he] at hlost
      cases hlost
    · rw [he, hu] at hlost
      cases hlost

end Leave

/-! ### When a side is looked at -/

/-- **A side is looked at**: whoever is alone on it now has a clutch from now on, if not before. -/
theorem begin (h : Knows roster gone looked r) (hpos : 1 ≤ gone.length) (side : Side)
    (horder : ∀ s ∈ looked, s = .ct ∧ side = .t) : Knows roster gone (looked ++ [side]) (r.begin side) := by
  have hcontested := h.toContested.begin side
  have hbegan : ∀ a ∈ r.attempts, ∃ n, FirstAlone roster gone a.side a.player n ∧
      a.opponents = (staying roster (gone.take n) a.side.opposite).length ∧
      (n = gone.length → a.side ∈ looked ++ [side]) := by
    intro a ha
    obtain ⟨n, hfirst, hopponents, hlooked⟩ := h.began a ha
    exact ⟨n, hfirst, hopponents, fun hnow => List.mem_append_left _ (hlooked hnow)⟩
  rcases begin_cases r side with ⟨he, hknown⟩ | ⟨player, hl, hsome, hfew, hother, he⟩ <;> rw [he] at hcontested ⊢
  · refine { hcontested with
      rest := h.rest, began := hbegan, ordered := h.ordered, outlived := h.outlived, lost := h.lost
      known := fun side' player n halone hlooked => ?_ }
    by_cases hnow : n = gone.length ∧ side' = side
    · obtain ⟨rfl, rfl⟩ := hnow
      obtain ⟨honly, hsome, hfew⟩ := (h.alone_now hpos).1 halone
      exact hknown player honly hsome hfew
    · refine h.known side' player n halone (fun hn => ?_)
      rcases List.mem_append.1 (hlooked hn) with hold | hnew
      · exact hold
      · exact absurd ⟨hn, List.mem_singleton.1 hnew⟩ hnow
  · have halone : Alone roster gone side player gone.length := (h.alone_now hpos).2 ⟨hl, hsome, hfew⟩
    have hfirst : FirstAlone roster gone side player gone.length := by
      refine ⟨halone, fun m hm hbefore => ?_⟩
      obtain ⟨a, ha, hplayer⟩ := h.known side player m hbefore (fun heq => by omega)
      exact hother a ha hplayer
    refine { hcontested with
      rest := h.rest, began := fun a ha => ?_, known := fun side' player' n halone' hlooked => ?_
      ordered := ?_, outlived := fun a ha => ?_, lost := fun a ha hlost => ?_ }
    · rcases List.mem_append.1 ha with hold | hnew
      · exact hbegan a hold
      · rw [List.mem_singleton.1 hnew]
        refine ⟨gone.length, hfirst, ?_, fun _ => List.mem_append_right _ (List.mem_singleton_self side)⟩
        rw [List.take_length, h.livingOn_eq]
    · by_cases hnow : n = gone.length ∧ side' = side
      · obtain ⟨rfl, rfl⟩ := hnow
        obtain ⟨honly, -⟩ := (h.alone_now hpos).1 halone'
        cases hl.symm.trans honly
        exact ⟨_, List.mem_append_right _ (List.mem_singleton_self _), rfl⟩
      · obtain ⟨a, ha, hplayer⟩ := h.known side' player' n halone' (fun hn => by
          rcases List.mem_append.1 (hlooked hn) with hold | hnew
          · exact hold
          · exact absurd ⟨hn, List.mem_singleton.1 hnew⟩ hnow)
        exact ⟨a, List.mem_append_left _ ha, hplayer⟩
    · refine List.pairwise_append.2 ⟨h.ordered, List.pairwise_singleton _ _, fun a ha b hb n m hn hm => ?_⟩
      rw [List.mem_singleton.1 hb] at hm ⊢
      obtain ⟨n', hn', -, hlooked⟩ := h.began a ha
      cases hn.unique hn'
      cases hm.unique hfirst
      rcases Nat.lt_or_eq_of_le hn.moment.2 with hlt | heq
      · exact .inl hlt
      · exact .inr ⟨heq, horder a.side (hlooked heq)⟩
    · rcases List.mem_append.1 ha with hold | hnew
      · exact h.outlived a hold
      · rw [List.mem_singleton.1 hnew]
        refine iff_of_false (fun hwon => by cases hwon) ?_
        rintro ⟨n, hn, -, hnone⟩
        -- an enemy who is still there was there at every moment
        obtain ⟨enemy, henemy⟩ := List.length_pos_iff_exists_mem.1 hsome
        rw [h.livingOn_eq, ← List.take_length (l := gone)] at henemy
        have hthere := mem_staying_take_of_le henemy hn
        rw [hnone] at hthere
        cases hthere
    · rcases List.mem_append.1 ha with hold | hnew
      · exact h.lost a hold hlost
      · rw [List.mem_singleton.1 hnew] at hlost
        cases hlost

/-- **The replay knows its clutches** when it has come through the exits. -/
theorem foldl (roster : Table PlayerId Side) (exits : List Exit) :
    Knows roster (leavers roster exits) [.ct, .t] (exits.foldl Replay.step { living := roster }) := by
  induction exits using List.reverseRecOn with
  | nil => exact .start roster
  | append_singleton exits x ih =>
    have hcontains : (exits.foldl Replay.step { living := roster }).living.contains x.player = true ↔
        roster.contains x.player = true ∧ x.player ∉ leavers roster exits := by
      simp only [Table.contains_iff, ih.get?_living, exists_and_right]
    rw [List.foldl_append, List.foldl_cons, List.foldl_nil, leavers_concat, step_eq]
    by_cases hleaves : roster.contains x.player = true ∧ x.player ∉ leavers roster exits
    · have hpos : 1 ≤ (leavers roster exits ++ [x.player]).length := by simp
      rw [if_pos hleaves, if_pos (hcontains.2 hleaves)]
      have hct := (ih.leave x.player).begin hpos .ct (fun s hs => by cases hs)
      exact hct.begin hpos .t (fun s hs => ⟨List.mem_singleton.1 hs, rfl⟩)
    · rw [if_neg hleaves, if_neg (fun h => hleaves (hcontains.1 h))]
      exact ih

end Knows

end Replay

variable {exits : List Exit}

/-- **The replay finds the clutches of a round.**  A player of a side has one if and only if the player is alone at some
moment.  It is against those who are there at the first such moment, and won if and only if the player is there at a
moment at which they are not.  There is one on each side at most, one of them is won at most, and they stand in the
order of their first moments, that of the counter-terrorists before that of the terrorists if they begin together.  All
of them are decided by the last exit. -/
theorem detect_eq_moments (roster : Table PlayerId Side) (exits : List Exit) :
    (∀ side player, (∃ k ∈ detect roster exits, k.player = player ∧ roster.get? player = some side) ↔
      ∃ n, Alone roster (leavers roster exits) side player n) ∧
    (∀ k ∈ detect roster exits, ∃ side n, FirstAlone roster (leavers roster exits) side k.player n ∧
      k.opponents = (staying roster ((leavers roster exits).take n) side.opposite).length ∧
      (k.won = true ↔ ∃ m, Outlives roster (leavers roster exits) side k.player m)) ∧
    (detect roster exits).Pairwise (fun k k' =>
      roster.get? k.player ≠ roster.get? k'.player ∧ ¬ (k.won = true ∧ k'.won = true) ∧
      ∀ side side' n n', FirstAlone roster (leavers roster exits) side k.player n →
        FirstAlone roster (leavers roster exits) side' k'.player n' → n < n' ∨ n = n' ∧ side = .ct ∧ side' = .t) ∧
    detect roster exits = (exits.foldl Replay.step { living := roster }).attempts.map Attempt.outcome := by
  have h := Replay.Knows.foldl roster exits
  have hdetect := detect_eq roster exits
  refine ⟨fun side player => ⟨?_, ?_⟩, fun k hk => ?_, ?_, hdetect⟩
  · rintro ⟨k, hk, rfl, hside⟩
    obtain ⟨a, ha, rfl⟩ := List.mem_map.1 (hdetect ▸ hk)
    obtain ⟨n, hfirst, -⟩ := h.began a ha
    cases hfirst.member.symm.trans hside
    exact ⟨n, hfirst.toAlone⟩
  · rintro ⟨n, halone⟩
    obtain ⟨a, ha, rfl⟩ := h.known side player n halone (fun _ => by cases side <;> simp)
    exact ⟨a.outcome, hdetect ▸ List.mem_map_of_mem ha, rfl, halone.member⟩
  · obtain ⟨a, ha, rfl⟩ := List.mem_map.1 (hdetect ▸ hk)
    obtain ⟨n, hfirst, hopponents, -⟩ := h.began a ha
    exact ⟨a.side, n, hfirst, hopponents, decide_eq_true_iff.trans (h.outlived a ha)⟩
  · rw [hdetect, List.pairwise_map]
    refine (h.sides.and (h.wins.and h.ordered)).imp_of_mem (fun {a b} ha hb hab => ⟨?_, ?_, ?_⟩)
    · intro hsame
      have hmember : some a.side = some b.side :=
        (h.stands a ha).member.symm.trans (hsame.trans (h.stands b hb).member)
      exact hab.1 (Option.some.inj hmember)
    · simp only [Attempt.outcome, decide_eq_true_eq]
      exact hab.2.1
    · intro side side' n n' hn hn'
      cases (h.stands a ha).member.symm.trans hn.member
      cases (h.stands b hb).member.symm.trans hn'.member
      exact hab.2.2 n n' hn hn'

end Clutch

end Scorebook
