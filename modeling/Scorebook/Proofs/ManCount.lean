import Scorebook.Proofs.LastStanding
import Scorebook.Proofs.Living
/-!
# How many live on a side

A kill counts the players who live on either side by their flags, and clutches are found by replaying the exits of the
round over its roster.  In a live round in which nobody on the roster has been blurred both come to the players of the
side on the roster who have not left the round (`Round.remaining`).  When the round is closed the replay is over the
last roster, so that before the exit of a victim it has, beside the men that the gunfight counts, those who joined
after it.
-/
namespace Scorebook

/-- How many of a side are on the roster of a round and have not left it. -/
def Round.remaining (r : Round) (side : Side) : Nat :=
  r.roster.entries.countP (fun e => e.2 = side && !r.hasLeft e.1)

/-- How many of a side have joined a round by the time it has become `r'`. -/
def Round.joined (r r' : Round) (side : Side) : Nat :=
  r'.roster.entries.countP (fun e => e.2 = side && !r.hasLeft e.1 && !r.roster.contains e.1)

/-- A gunfight tells how many had not left a match in progress, on the side of either player whose side is known. -/
structure Gunfight.CountsMen (g : Gunfight) (s : MatchState) (killer victim : Actor) : Prop where
  killer : g.killerTeamAlive = (s.actorSide? killer).elim 0 s.round.remaining
  victim : g.victimTeamAlive = (s.actorSide? victim).elim 0 s.round.remaining

/-! ## The replay -/

namespace Clutch

/-- How many live on a side in the replay of a round that has come through some exits. -/
def manCount (roster : Table PlayerId Side) (exits : List Exit) (side : Side) : Nat :=
  ((exits.foldl Replay.step { living := roster }).livingOn side).length

theorem manCount_eq (roster : Table PlayerId Side) (exits : List Exit) (side : Side) :
    manCount roster exits side = roster.entries.countP (fun e => e.2 = side && !exits.any (·.player = e.1)) := by
  unfold manCount Replay.livingOn
  rw [List.length_map, ← List.countP_eq_length_filter, Replay.entries_living_foldl, List.countP_filter]

end Clutch

namespace MatchState

variable {s s' : MatchState}

/-- **The replay of a whole round counts who has not left it**, whatever the ticks of the exits are. -/
theorem manCount_sortedExits (s : MatchState) (side : Side) :
    Clutch.manCount s.round.roster s.sortedExits side = s.round.remaining side := by
  have hany (id : PlayerId) : s.sortedExits.any (·.player = id) = s.round.hasLeft id :=
    (List.mergeSort_perm s.round.exits _).any_eq
  rw [Clutch.manCount_eq]
  simp only [hany]
  rfl

theorem sortedExits_of_pairwise (h : s.round.exits.Pairwise (fun x y => x.tick ≤ y.tick)) :
    s.sortedExits = s.round.exits :=
  List.mergeSort_of_pairwise (h.imp (fun hxy => Std.isLE_compare.2 hxy))

/-! ## The flags -/

theorem aliveOn_eq (s : MatchState) (side : Side) : (s.aliveOn side).1 = s.round.roster.entries.countP (fun e =>
    s.side? e.1 = some side && (s.conditions.get? e.1).any (·.isAlive)) := by
  have hsome (e : PlayerId × Side) :
      (((s.conditions.get? e.1).filter (·.isAlive)).isSome && decide (s.side? e.1 = some side)) =
        (decide (s.side? e.1 = some side) && (s.conditions.get? e.1).any (·.isAlive)) := by
    rw [Bool.and_comm]
    cases s.conditions.get? e.1 with
    | none => rfl
    | some c => cases hc : c.isAlive <;> simp [Option.filter, hc]
  unfold aliveOn livingOn Table.keys
  rw [List.filter_filterMap, List.length_filterMap_eq_countP, List.countP_filter, List.countP_map]
  exact List.countP_congr (fun e _ => by rw [Function.comp_apply, hsome])

theorem Told.of_roster {id : PlayerId} {side : Side} (hr : Registered s) (h : Told s id)
    (hg : s.round.roster.get? id = some side) :
    s.side? id = some side ∧ (s.conditions.get? id).any (·.isAlive) = !s.round.hasLeft id := by
  obtain ⟨c, hc⟩ := Table.contains_iff.1 (hr.present (hr.known hg))
  refine ⟨h.side side hg, ?_⟩
  have hlife := h.life
  rw [LifeTold, hc] at hlife
  rw [hc]
  exact hlife

/-- **The flags count who has not left the round**, if everybody on the roster is told of in both accounts. -/
theorem aliveOn_eq_remaining (hr : Registered s) (h : ∀ id, s.round.roster.contains id = true → Told s id)
    (side : Side) : (s.aliveOn side).1 = s.round.remaining side := by
  rw [aliveOn_eq]
  refine List.countP_congr (fun e he => ?_)
  have hg : s.round.roster.get? e.1 = some e.2 := Table.mem_entries_iff.1 he
  obtain ⟨hside, hlife⟩ := (h e.1 (Table.contains_iff.2 ⟨_, hg⟩)).of_roster hr hg
  simp only [hside, hlife, Option.some.injEq]

end MatchState

namespace Round.GoesOn

variable {r r' : Round}

/-- **The replay over a roster that has grown counts those who joined as well.** -/
theorem manCount (h : GoesOn r r') (side : Side) :
    Clutch.manCount r'.roster r.exits side = r.remaining side + r.joined r' side := by
  have hstood : r'.roster.filter (fun id _ => r.roster.contains id) = r.roster := by
    refine Table.ext_get? (fun id => Option.ext (fun side => ?_))
    rw [← Table.mem_entries_iff, ← Table.mem_entries_iff]
    refine List.mem_filter.trans ⟨fun ⟨hmem, hin⟩ => ?_, fun hmem => ?_⟩
    · obtain ⟨old, hold⟩ := Table.contains_iff.1 hin
      have hnew := h.roster id old hold
      rw [Table.mem_entries_iff.1 hmem] at hnew
      rw [Option.some.inj hnew]
      exact Table.mem_entries_iff.2 hold
    · have hold := Table.mem_entries_iff.1 hmem
      exact ⟨Table.mem_entries_iff.2 (h.roster id side hold), Table.contains_iff.2 ⟨side, hold⟩⟩
  have hentries : r'.roster.entries.filter (fun e => r.roster.contains e.1) = r.roster.entries :=
    congrArg Table.entries hstood
  rw [Clutch.manCount_eq, List.countP_eq_countP_filter_add _ _ (fun e => r.roster.contains e.1), hentries,
    List.countP_filter]
  rfl

end Round.GoesOn

namespace MatchState

variable {s s' : MatchState}

/-- **A kill enters a gunfight with the men that lived before it, and the exit of its victim.** -/
theorem recordKill_counts {n : KillNotice} {killer victim : Actor} {weapon : Weapon} (ho : s.round.isOpen = true)
    (hk : n.killer = some killer) (hv : n.victim = some victim) (hw : n.weapon = some weapon)
    (hne : killer.id ≠ victim.id) (c : Config) (tick : Tick) : ∃ (g : Gunfight) (x : Exit),
      (s.recordKill c n tick).state.gunfights = s.gunfights ++ [g] ∧
      g.killerTeamAlive = (s.aliveOnSide? (s.actorSide? killer)).1 ∧
      g.victimTeamAlive = (s.aliveOnSide? (s.actorSide? victim)).1 ∧
      (s.recordKill c n tick).state.round.exits = s.round.exits ++ [x] ∧ x.player = victim.id ∧ x.tick = tick := by
  have hexits : ((s.recordDeath victim (.killed killer.id) tick).observe killer).round.exits = s.round.exits ++ _ :=
    (observe_exits _ _).trans (congrArg (· ++ _) (observe_exits s victim))
  have hfights : ((s.recordDeath victim (.killed killer.id) tick).observe killer).gunfights = s.gunfights :=
    (observe_gunfights _ _).trans (observe_gunfights s victim)
  have hkill : (s.recordKill c n tick).state = ((s.recordDeath victim (.killed killer.id) tick).observe
      killer).enterGunfight s c n killer victim weapon tick := by
    unfold recordKill
    simp only [ho, hk, hv, hw, if_neg hne]
    rfl
  have hfight : Standing victim.id _ _ := standing_enterGunfight
    ((s.recordDeath victim (.killed killer.id) tick).observe killer) s c n killer victim weapon tick
  rw [hkill, hfight.exits, hexits]
  rcases enterGunfight_cases ((s.recordDeath victim (.killed killer.id) tick).observe killer) s c n killer victim weapon
    tick with ⟨-, h⟩ | ⟨-, s', flashAssister, ⟨_, _, _, _, rfl, -⟩, h⟩ <;> rw [h]
  · exact ⟨_, _, congrArg (· ++ _) hfights, rfl, rfl, rfl, rfl, rfl⟩
  · exact ⟨_, _, congrArg (· ++ _) hfights, rfl, rfl, rfl, rfl, rfl⟩

end MatchState

namespace Processor

open MatchState

variable {header : Header} {config : Config} {p q : Processor} {before later events : List TimedEvent}

/-- Nobody on the roster of the round has been blurred in it. -/
def NoneBlurred (p : Processor) (events : List TimedEvent) : Prop :=
  ∀ id, (p.after events).state.round.roster.contains id = true → ¬ p.HasBlurred events id

namespace Fresh

/-- **In a live round in which nobody has been blurred, the flags count who has not left.** -/
theorem aliveOn_eq (h : Fresh header config p) (hl : (p.after events).state.round.phase = .live)
    (hb : p.NoneBlurred events) (side : Side) :
    ((p.after events).state.aliveOn side).1 = (p.after events).state.round.remaining side :=
  aliveOn_eq_remaining (h.registered events) (fun id hin => h.told events hl id (hb id hin)) side

/-- **A kill enters a gunfight with the men that have not left the round, and the exit of its victim.** -/
theorem kill_counted (h : Fresh header config p) (hl : (p.after before).state.round.phase = .live) {tick : Tick}
    {n : KillNotice} {killer victim : Actor} {weapon : Weapon} (hk : n.killer = some killer)
    (hv : n.victim = some victim) (hw : n.weapon = some weapon) (hne : killer.id ≠ victim.id) :
    ∃ (g : Gunfight) (x : Exit),
      (p.after (before ++ [⟨tick, .kill n⟩])).state.gunfights = (p.after before).state.gunfights ++ [g] ∧
      (p.after (before ++ [⟨tick, .kill n⟩])).state.round.exits = (p.after before).state.round.exits ++ [x] ∧
      (p.NoneBlurred before → g.CountsMen (p.after before).state killer victim) ∧
      x.player = victim.id ∧ x.tick = tick := by
  have ho : (p.after before).state.round.isOpen = true := by
    rw [Round.isOpen, hl]
    rfl
  obtain ⟨g, x, hg, hkiller, hvictim, hx, hplayer, htick⟩ :=
    recordKill_counts (s := (p.after before).state.advance tick) ho hk hv hw hne config tick
  have hnext := h.after_concat_state before ⟨tick, .kill n⟩
  refine ⟨g, x, (congrArg MatchState.gunfights hnext).trans hg, (congrArg (·.round.exits) hnext).trans hx,
    fun hb => ?_, hplayer, htick⟩
  have hcount (side : Option Side) : ((p.after before).state.aliveOnSide? side).1 =
      side.elim 0 (p.after before).state.round.remaining := by
    cases side with
    | none => rfl
    | some side => exact h.aliveOn_eq hl hb side
  exact ⟨hkiller.trans (hcount _), hvictim.trans (hcount _)⟩

/-- Closing a match leaves the round, and who is told of in it, as they are. -/
theorem of_reaches (h : Fresh header config p) (hq : Reaches p events q) :
    q.state.round = (p.after events).state.round ∧ q.state.Registered ∧
      (q.state.round.phase = .live → ∀ id, ¬ p.HasBlurred events id → q.state.Told id) := by
  refine h.holds_of_reaches (P := fun s => s.round = (p.after events).state.round ∧ s.Registered ∧
    (s.round.phase = .live → ∀ id, ¬ p.HasBlurred events id → s.Told id)) (fun s hs => ?_)
    ⟨rfl, h.registered events, h.told events⟩ hq
  obtain ⟨hround, hr, htold⟩ := hs
  have hclosed : (closeState s config).round = s.round := by
    obtain ⟨_, hc⟩ := closeState_eq s config
    obtain ⟨_, _, _, _, hstate, -⟩ := settled_eq s config
    rw [hc, hstate]
  exact ⟨hclosed.trans hround, hr.closeState config, fun hl id hb =>
    (htold (hclosed ▸ hl) id hb).frame (standing_closeState s config)⟩

end Fresh

/-- **How many live on a side.**  In every state of a match, in progress or closed, whose round is live: a player on the
roster who has not been blurred is on the side of the roster, and alive unless the player has left the round; if nobody
on the roster has been blurred, flags and exits both count the players of a side who have not left; and a kill in the
round was entered with these counts if nobody had been blurred until then.  The replay of the round as it stands, with
its exits in order of time, has before the exit of the victim the same men and those who have joined since.  Whoever has
been on the roster with a team since the round started has not been blurred. -/
theorem man_counts_agree (h : Fresh header config p) (hq : Reaches p events q) (hl : q.state.round.phase = .live) :
    (∀ id side, q.state.round.roster.get? id = some side → ¬ p.HasBlurred events id →
      q.state.side? id = some side ∧ (q.state.conditions.get? id).any (·.isAlive) = !q.state.round.hasLeft id) ∧
    (p.NoneBlurred events → ∀ side, (q.state.aliveOn side).1 = q.state.round.remaining side ∧
      Clutch.manCount q.state.round.roster q.state.sortedExits side = q.state.round.remaining side) ∧
    (∀ before tick n killer victim weapon later, events = before ++ ⟨tick, .kill n⟩ :: later →
      (∀ e ∈ later, e.event.continues = true) → n.killer = some killer → n.victim = some victim →
      n.weapon = some weapon → killer.id ≠ victim.id →
      (∃ g, (p.after (before ++ [⟨tick, .kill n⟩])).state.gunfights = (p.after before).state.gunfights ++ [g] ∧
        (p.NoneBlurred before → g.CountsMen (p.after before).state killer victim)) ∧
      (q.state.round.exits.Pairwise (fun x y => x.tick ≤ y.tick) → ∃ earlier x rest,
        q.state.sortedExits = earlier ++ x :: rest ∧ x.player = victim.id ∧ x.tick = tick ∧
        ∀ side, Clutch.manCount q.state.round.roster earlier side =
          (p.after before).state.round.remaining side + (p.after before).state.round.joined q.state.round side)) ∧
    ∀ before tick later, events = before ++ [⟨tick, .roundStart⟩] ++ later →
      (∀ e ∈ later, e.event.continues = true) → ∀ id,
      (p.after (before ++ [⟨tick, .roundStart⟩])).state.round.roster.contains id = true →
      ((p.after (before ++ [⟨tick, .roundStart⟩])).state.team? id).isSome = true → ¬ p.HasBlurred events id := by
  obtain ⟨hround, hr, htold⟩ := h.of_reaches hq
  refine ⟨fun id side hg hb => (htold hl id hb).of_roster hr hg, fun hb side => ⟨?_, manCount_sortedExits q.state side⟩,
    fun before tick n killer victim weapon later hevents hlater hk hv hw hne => ?_,
    fun before tick later hevents hlater id hin hteam => ?_⟩
  · exact aliveOn_eq_remaining hr (fun id hin => htold hl id (hb id (hround ▸ hin))) side
  · subst hevents
    have hc : ∀ e ∈ (⟨tick, .kill n⟩ : TimedEvent) :: later, e.event.continues = true :=
      List.forall_mem_cons.2 ⟨rfl, hlater⟩
    have hon := h.goesOn before hc
    obtain ⟨g, x, hg, hx, hcounts, hplayer, htick⟩ := h.kill_counted (hon.live (hround ▸ hl)) hk hv hw hne
    refine ⟨⟨g, hg, hcounts⟩, fun hsorted => ?_⟩
    -- the exits of the round begin with those before the kill and that of its victim
    have happend : before ++ ⟨tick, .kill n⟩ :: later = (before ++ [⟨tick, .kill n⟩]) ++ later := by simp
    obtain ⟨rest, hrest⟩ := (h.goesOn (before ++ [⟨tick, .kill n⟩]) hlater).exits
    rw [hx, List.append_assoc, ← happend, ← hround] at hrest
    refine ⟨(p.after before).state.round.exits, x, rest, ?_, hplayer, htick, fun side => ?_⟩
    · rw [sortedExits_of_pairwise hsorted, ← hrest]
      rfl
    · rw [hround]
      exact hon.manCount side
  · obtain ⟨side, hg⟩ := Table.contains_iff.1 hin
    obtain ⟨team, ht⟩ := Option.isSome_iff_exists.1 hteam
    rw [hevents]
    exact h.not_hasBlurred_since_start before tick hlater hg ht

/-- Player 1 has killed player 2 and kills player 3, and then player 4 comes: the second gunfight has one man on either
side, and the replay has players 1 and 4 before the second death. -/
theorem man_counts_agree_before_latecomer :
    ∃ (p q : Processor) (joining : List TimedEvent) (first second : KillNotice) (late : Actor),
      p = { config := {}, state := MatchState.new { mapName := "de_dust2" } {} } ∧
      joining =
        [⟨0, .playerConnect { id := 1, allegiance := .counterTerrorist, isAlive := true }⟩,
         ⟨0, .playerConnect { id := 2, allegiance := .terrorist, isAlive := true }⟩,
         ⟨0, .playerConnect { id := 3, allegiance := .terrorist, isAlive := true }⟩] ∧
      first = { killer := some { id := 1, allegiance := .counterTerrorist, isAlive := true }
                victim := some { id := 2, allegiance := .terrorist }, weapon := some .glock } ∧
      second = { killer := some { id := 1, allegiance := .counterTerrorist, isAlive := true }
                 victim := some { id := 3, allegiance := .terrorist }, weapon := some .glock } ∧
      late = { id := 4, allegiance := .counterTerrorist, isAlive := true } ∧
      q = p.after (joining ++ [⟨1, .roundStart⟩] ++ [⟨100, .kill first⟩] ++
        ⟨200, .kill second⟩ :: [⟨250, .playerConnect late⟩]) ∧
      q.state.round.phase = .live ∧
      p.NoneBlurred (joining ++ [⟨1, .roundStart⟩] ++ [⟨100, .kill first⟩]) ∧
      (∃ g, (p.after (joining ++ [⟨1, .roundStart⟩] ++ [⟨100, .kill first⟩] ++
          [⟨200, .kill second⟩])).state.gunfights =
            (p.after (joining ++ [⟨1, .roundStart⟩] ++ [⟨100, .kill first⟩])).state.gunfights ++ [g] ∧
          (g.killerTeamAlive, g.victimTeamAlive) = (1, 1)) ∧
      ∃ earlier x rest, q.state.sortedExits = earlier ++ x :: rest ∧ (x.player, x.tick) = (3, 200) ∧
        (Clutch.manCount q.state.round.roster earlier .ct, Clutch.manCount q.state.round.roster earlier .t) =
          (2, 1) := by
  have h : Fresh { mapName := "de_dust2" } {} _ := .default rfl
  refine ⟨_, _, _, _, _, _, rfl, rfl, rfl, rfl, rfl, rfl, ?_⟩
  refine have hl := ?_; have hb := ?_; ⟨hl, hb, ?_⟩
  · decide +kernel
  · intro id hin
    -- everybody on the roster was there when the round started, and has a team
    have hkey := Table.contains_iff_mem_keys.1 hin
    refine h.not_hasBlurred_since_start _ 1 (by simp [Event.continues]) (Option.some_get ?_).symm
      (Option.some_get ?_).symm
    · clear hin
      revert id
      decide +kernel
    · clear hin
      revert id
      decide +kernel
  · obtain ⟨⟨g, hg, hcounts⟩, hreplay⟩ := (man_counts_agree h .running hl).2.2.1 _ 200 _ _ _ _ _ rfl
      (by simp [Event.continues]) rfl rfl rfl (by decide)
    obtain ⟨earlier, x, rest, hexits, hplayer, htick, hcount⟩ := hreplay (by decide +kernel)
    refine ⟨⟨g, hg, Prod.ext ((hcounts hb).killer.trans ?_) ((hcounts hb).victim.trans ?_)⟩, earlier, x, rest, hexits,
      Prod.ext hplayer htick, Prod.ext ((hcount .ct).trans ?_) ((hcount .t).trans ?_)⟩
    · decide +kernel
    · decide +kernel
    · decide +kernel
    · decide +kernel

end Processor

end Scorebook
