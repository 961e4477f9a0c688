import Scorebook.Clutch
import Scorebook.Proofs.Lookup
/-!
# One clutch on each side

Nobody joins the living while a round is replayed.  So a side that is down to its last player has that player or nobody
from then on, and one clutch.  A clutch that is won leaves nobody on the other side, whose own clutch is lost by then.
So of the clutches of a round there is at most one on each side, and at most one of them is won.
-/
namespace Scorebook

theorem Side.eq_opposite_of_ne {a b : Side} (h : a ≠ b) : b = a.opposite := by
  cases a <;> cases b <;> first | rfl | exact absurd rfl h

namespace Clutch

variable {roster living : Table PlayerId Side}

/-- A clutch as the living tell of it: its player is the last of a side, and faces one to five enemies at its start; as
long as it is undecided the player lives and has enemies, and when it is won nobody is left of them. -/
structure Attempt.Stands (roster living : Table PlayerId Side) (a : Attempt) : Prop where
  member : roster.get? a.player = some a.side
  opponents : 1 ≤ a.opponents ∧ a.opponents ≤ teamSize
  alone : ∀ id, living.get? id = some a.side → id = a.player
  undecided : a.status = .undecided →
    living.get? a.player = some a.side ∧ ∃ id, living.get? id = some a.side.opposite
  won : a.status = .won → ∀ id, living.get? id ≠ some a.side.opposite

namespace Replay

variable {r : Replay}

theorem mem_livingOn {side : Side} {id : PlayerId} : id ∈ r.livingOn side ↔ r.living.get? id = some side := by
  unfold livingOn
  rw [List.mem_map]
  constructor
  · rintro ⟨e, he, rfl⟩
    obtain ⟨hmem, hside⟩ := List.mem_filter.1 he
    exact of_decide_eq_true hside ▸ Table.mem_entries_iff.1 hmem
  · intro hg
    exact ⟨(id, side), List.mem_filter.2 ⟨Table.mem_entries_iff.2 hg, by simp⟩, rfl⟩

theorem isEmpty_livingOn {side : Side} :
    (r.livingOn side).isEmpty = true ↔ ∀ id, r.living.get? id ≠ some side := by
  simp only [List.isEmpty_iff, List.eq_nil_iff_forall_not_mem, mem_livingOn, ne_eq]

/-! ## Who is alive -/

theorem living_begin (r : Replay) (side : Side) : (r.begin side).living = r.living := by
  unfold Replay.begin
  split
  · dsimp only
    split <;> rfl
  · rfl

theorem living_step (r : Replay) (x : Exit) : (r.step x).living = r.living.erase x.player := by
  unfold Replay.step
  split
  · rw [living_begin, living_begin]
  · next hgone =>
    refine (Table.erase_of_get?_none ?_).symm
    rwa [Bool.not_eq_true, Table.contains, Option.isSome_eq_false_iff, Option.isNone_iff_eq_none] at hgone

/-- **Whoever leaves is out of the replay, and nobody else is.** -/
theorem entries_living_foldl : ∀ (exits : List Exit) (r : Replay),
    (exits.foldl Replay.step r).living.entries = r.living.entries.filter (fun e => !exits.any (·.player = e.1))
  | [], r => by simp
  | x :: exits, r => by
    rw [List.foldl_cons, entries_living_foldl exits, living_step, Table.entries_erase, List.filter_filter]
    refine List.filter_congr (fun e _ => ?_)
    rw [List.any_cons, Bool.not_or, Bool.and_comm]

/-! ## When somebody leaves -/

section Leaving

variable {gone : PlayerId} {a b : Attempt}

/-- **What becomes of a clutch when somebody leaves**: it stands as it did, unless it was undecided and its player has
left, or the last enemy. -/
theorem resolve_cases (r : Replay) (gone : PlayerId) (a : Attempt) :
    (a.status ≠ .undecided ∧ r.resolve gone a = a) ∨
      (a.status = .undecided ∧ a.player = gone ∧ r.resolve gone a = { a with status := .lost }) ∨
      (a.status = .undecided ∧ a.player ≠ gone ∧ (∀ id, r.living.get? id ≠ some a.side.opposite) ∧
        r.resolve gone a = { a with status := .won }) ∨
      a.status = .undecided ∧ a.player ≠ gone ∧ (∃ id, r.living.get? id = some a.side.opposite) ∧
        r.resolve gone a = a := by
  unfold resolve
  by_cases hu : a.status = .undecided
  · rw [if_pos hu]
    by_cases hgone : a.player = gone
    · exact .inr (.inl ⟨hu, hgone, if_pos hgone⟩)
    · rw [if_neg hgone]
      by_cases hnone : (r.livingOn a.side.opposite).isEmpty = true
      · exact .inr (.inr (.inl ⟨hu, hgone, isEmpty_livingOn.1 hnone, if_pos hnone⟩))
      · have hsome : ∃ id, r.living.get? id = some a.side.opposite := by
          by_contra hno
          exact hnone (isEmpty_livingOn.2 (fun id hid => hno ⟨id, hid⟩))
        exact .inr (.inr (.inr ⟨hu, hgone, hsome, if_neg hnone⟩))
  · exact .inl ⟨hu, if_neg hu⟩

theorem side_resolve (r : Replay) (gone : PlayerId) (a : Attempt) : (r.resolve gone a).side = a.side := by
  rcases resolve_cases r gone a with ⟨-, he⟩ | ⟨-, -, he⟩ | ⟨-, -, -, he⟩ | ⟨-, -, -, he⟩ <;> rw [he]

/-- A clutch that is won was won before, or its player is still there and nobody is left of the enemies. -/
theorem of_status_resolve_eq_won (h : (r.resolve gone a).status = .won) :
    a.status = .won ∨
      a.status = .undecided ∧ a.player ≠ gone ∧ ∀ id, r.living.get? id ≠ some a.side.opposite := by
  rcases resolve_cases r gone a with ⟨-, he⟩ | ⟨-, -, he⟩ | ⟨hu, hne, hnone, he⟩ | ⟨hu, -, -, he⟩ <;> rw [he] at h
  · exact .inl h
  · cases h
  · exact .inr ⟨hu, hne, hnone⟩
  · exact .inl h

/-- The replay without a player who leaves, before the clutches are looked at. -/
def without (r : Replay) (gone : PlayerId) : Replay := { r with living := r.living.erase gone }

theorem get?_without {id : PlayerId} {side : Side} :
    (r.without gone).living.get? id = some side ↔ gone ≠ id ∧ r.living.get? id = some side := by
  rw [without, Table.get?_erase]
  split
  · next h => simp [h]
  · next h => simp [h]

theorem stands_resolve (h : a.Stands roster r.living) (gone : PlayerId) :
    ((r.without gone).resolve gone a).Stands roster (r.without gone).living := by
  have halone (id : PlayerId) (hid : (r.without gone).living.get? id = some a.side) : id = a.player :=
    h.alone id (get?_without.1 hid).2
  have hwon (hw : a.status = .won) (id : PlayerId) : (r.without gone).living.get? id ≠ some a.side.opposite :=
    fun hid => h.won hw id (get?_without.1 hid).2
  rcases resolve_cases (r.without gone) gone a with ⟨hd, he⟩ | ⟨-, -, he⟩ | ⟨-, -, hnone, he⟩ | ⟨hu, hne, hsome, he⟩ <;>
    rw [he]
  · exact ⟨h.member, h.opponents, halone, fun hu => absurd hu hd, hwon⟩
  · exact ⟨h.member, h.opponents, halone, fun hu => (by cases hu), fun hw => (by cases hw)⟩
  · exact ⟨h.member, h.opponents, halone, fun hu => (by cases hu), fun _ => hnone⟩
  · have hlives := get?_without.2 ⟨Ne.symm hne, (h.undecided hu).1⟩
    exact ⟨h.member, h.opponents, halone, fun _ => ⟨hlives, hsome⟩, hwon⟩

/-- **Nobody wins a clutch against a player who wins one**, since each of them would have to outlive the other. -/
theorem not_both_won (ha : a.Stands roster r.living) (hb : b.Stands roster r.living) (hne : a.side ≠ b.side)
    (h : ¬ (a.status = .won ∧ b.status = .won)) (gone : PlayerId) :
    ¬ (((r.without gone).resolve gone a).status = .won ∧ ((r.without gone).resolve gone b).status = .won) := by
  have hba : b.side = a.side.opposite := Side.eq_opposite_of_ne hne
  have hab : a.side = b.side.opposite := Side.eq_opposite_of_ne hne.symm
  rintro ⟨hwa, hwb⟩
  rcases of_status_resolve_eq_won hwa with hwa | ⟨hua, hna, -⟩ <;>
    rcases of_status_resolve_eq_won hwb with hwb | ⟨hub, hnb, hnone⟩
  · exact h ⟨hwa, hwb⟩
  · exact ha.won hwa b.player (hba ▸ (hb.undecided hub).1)
  · exact hb.won hwb a.player (hab ▸ (ha.undecided hua).1)
  · exact hnone a.player (hab ▸ get?_without.2 ⟨Ne.symm hna, (ha.undecided hua).1⟩)

end Leaving

/-! ## When a side is looked at -/

/-- **A clutch begins for the last player of a side**, against enough enemies but not too many, unless the player had
one. -/
theorem begin_cases (r : Replay) (side : Side) :
    (r.begin side = r ∧ ∀ player, r.livingOn side = [player] → 1 ≤ (r.livingOn side.opposite).length →
      (r.livingOn side.opposite).length ≤ teamSize → ∃ a ∈ r.attempts, a.player = player) ∨
    ∃ player, r.livingOn side = [player] ∧ 1 ≤ (r.livingOn side.opposite).length ∧
      (r.livingOn side.opposite).length ≤ teamSize ∧ (∀ a ∈ r.attempts, a.player ≠ player) ∧
      r.begin side = { r with
        attempts := r.attempts ++ [{ player, side, opponents := (r.livingOn side.opposite).length }] } := by
  unfold Replay.begin
  split
  · next player hl =>
    dsimp only
    split
    · next hnot =>
      simp only [Bool.or_eq_true, decide_eq_true_eq, List.any_eq_true] at hnot
      refine .inl ⟨rfl, fun player' hl' hpos hfew => ?_⟩
      cases hl.symm.trans hl'
      rcases hnot with (hzero | hmany) | ⟨a, ha, hplayer⟩
      · omega
      · omega
      · exact ⟨a, ha, hplayer⟩
    · next hnew =>
      simp only [Bool.or_eq_true, decide_eq_true_eq, not_or, Bool.not_eq_true, List.any_eq_false] at hnew
      obtain ⟨⟨hpos, hfew⟩, hother⟩ := hnew
      exact .inr ⟨player, hl, Nat.pos_of_ne_zero hpos, Nat.le_of_not_lt hfew, hother, rfl⟩
  · next hnone => exact .inl ⟨rfl, fun player hl => absurd hl (hnone player)⟩

/-! ## The whole replay -/

/-- Who is alive is on the roster, every clutch stands, there is one on each side, and one of them is won. -/
structure Contested (roster : Table PlayerId Side) (r : Replay) : Prop where
  living : ∀ {id : PlayerId} {side : Side}, r.living.get? id = some side → roster.get? id = some side
  stands : ∀ a ∈ r.attempts, a.Stands roster r.living
  sides : r.attempts.Pairwise (fun a b => a.side ≠ b.side)
  wins : r.attempts.Pairwise (fun a b => ¬ (a.status = .won ∧ b.status = .won))

namespace Contested

theorem start (roster : Table PlayerId Side) : Contested roster { living := roster } where
  living h := h
  stands _ h := by cases h
  sides := .nil
  wins := .nil

/-- **A clutch begins on a side that has had none**: whoever had one there would be the last player of the side. -/
theorem begin (h : Contested roster r) (side : Side) : Contested roster (r.begin side) := by
  rcases begin_cases r side with ⟨he, -⟩ | ⟨player, hl, hpos, hfew, hother, he⟩ <;> rw [he]
  · exact h
  · have hlives : r.living.get? player = some side := mem_livingOn.1 (hl ▸ List.mem_singleton_self _)
    have hfirst : ∀ a ∈ r.attempts, a.side ≠ side := fun a ha hside =>
      hother a ha ((h.stands a ha).alone player (hside ▸ hlives)).symm
    obtain ⟨enemy, henemy⟩ := List.length_pos_iff_exists_mem.1 hpos
    refine ⟨h.living, fun a ha => ?_, ?_, ?_⟩
    · rcases List.mem_append.1 ha with ha | ha
      · exact h.stands a ha
      · rw [List.mem_singleton.1 ha]
        refine ⟨h.living hlives, ⟨hpos, hfew⟩, fun id hid => ?_, fun _ => ?_, ?_⟩
        · exact List.mem_singleton.1 (hl ▸ mem_livingOn.2 hid)
        · exact ⟨hlives, enemy, mem_livingOn.1 henemy⟩
        · exact fun hw => by cases hw
    · refine List.pairwise_append.2 ⟨h.sides, List.pairwise_singleton _ _, fun a ha b hb => ?_⟩
      rw [List.mem_singleton.1 hb]
      exact hfirst a ha
    · refine List.pairwise_append.2 ⟨h.wins, List.pairwise_singleton _ _, fun a _ b hb => ?_⟩
      rw [List.mem_singleton.1 hb]
      exact fun hboth => by cases hboth.2

theorem leave (h : Contested roster r) (gone : PlayerId) :
    Contested roster { r.without gone with attempts := r.attempts.map ((r.without gone).resolve gone) } where
  living hid := h.living (get?_without.1 hid).2
  stands a ha := by
    obtain ⟨a₀, ha₀, rfl⟩ := List.mem_map.1 ha
    exact stands_resolve (h.stands a₀ ha₀) gone
  sides := by
    rw [List.pairwise_map]
    refine h.sides.imp (fun {a b} hne => ?_)
    rw [side_resolve, side_resolve]
    exact hne
  wins := by
    rw [List.pairwise_map]
    refine (h.sides.and h.wins).imp_of_mem (fun {a b} ha hb hab => ?_)
    exact not_both_won (h.stands a ha) (h.stands b hb) hab.1 hab.2 gone

theorem step (h : Contested roster r) (x : Exit) : Contested roster (r.step x) := by
  unfold Replay.step
  split
  · exact ((h.leave x.player).begin .ct).begin .t
  · exact h

theorem foldl (h : Contested roster r) (exits : List Exit) : Contested roster (exits.foldl Replay.step r) :=
  List.foldlRecOn exits _ h (fun _ hr x _ => hr.step x)

/-- **Nothing is left to decide when all have left**: a clutch that is undecided has enemies alive. -/
theorem settle_eq (h : Contested roster r) {a : Attempt} (ha : a ∈ r.attempts) : r.settle a = a := by
  unfold settle
  refine if_neg (fun hundecided => ?_)
  simp only [Bool.and_eq_true, decide_eq_true_eq] at hundecided
  obtain ⟨-, id, hid⟩ := (h.stands a ha).undecided hundecided.1.1
  exact isEmpty_livingOn.1 hundecided.2 id hid

end Contested

end Replay

/-! ## The clutches of a round -/

variable {exits : List Exit}

/-- **Nothing is left to decide after the last exit.** -/
theorem detect_eq (roster : Table PlayerId Side) (exits : List Exit) :
    detect roster exits = (exits.foldl Replay.step { living := roster }).attempts.map Attempt.outcome := by
  have h := (Replay.Contested.start roster).foldl exits
  rw [detect, List.map_congr_left (fun a ha => h.settle_eq ha), List.map_id']

theorem detect_contested (roster : Table PlayerId Side) (exits : List Exit) :
    ∃ r : Replay, r.Contested roster ∧ detect roster exits = r.attempts.map Attempt.outcome :=
  ⟨_, (Replay.Contested.start roster).foldl exits, detect_eq roster exits⟩

/-- **A clutch is against one to five enemies.** -/
theorem opponents_of_mem_detect {k : Clutch} (hk : k ∈ detect roster exits) :
    1 ≤ k.opponents ∧ k.opponents ≤ teamSize := by
  obtain ⟨r, hr, he⟩ := detect_contested roster exits
  rw [he] at hk
  obtain ⟨a, ha, rfl⟩ := List.mem_map.1 hk
  exact (hr.stands a ha).opponents

/-- **The clutches of a round are on different sides, and one of them is won at most.** -/
theorem pairwise_contested (roster : Table PlayerId Side) (exits : List Exit) :
    (detect roster exits).Pairwise (fun a b =>
      roster.get? a.player ≠ roster.get? b.player ∧ ¬ (a.won = true ∧ b.won = true)) := by
  obtain ⟨r, hr, he⟩ := detect_contested roster exits
  rw [he, List.pairwise_map]
  refine (hr.sides.and hr.wins).imp_of_mem (fun {a b} ha hb hab => ⟨?_, ?_⟩)
  · rw [Attempt.outcome, Attempt.outcome, (hr.stands a ha).member, (hr.stands b hb).member]
    exact fun heq => hab.1 (Option.some.inj heq)
  · simp only [Attempt.outcome, decide_eq_true_eq]
    exact hab.2

end Clutch

end Scorebook
