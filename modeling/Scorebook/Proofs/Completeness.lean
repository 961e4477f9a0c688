import Mathlib.Data.Nat.Find
import Scorebook.Proofs.Counting
import Scorebook.Proofs.Course
import Scorebook.Proofs.Registry
/-!
# Everybody has a record of every round

Records are entered when a round closes, one for every registered player, and a round closes once: when the next one
starts, or when the match ends.  Nobody is ever struck from the registry, so a player who has a record of a round has
one of every later round too, up to the last that is closed (`Rolled`).
-/
namespace Scorebook

/-- Records stand by round, and those of one round by player. -/
def PlayerRound.precedes (x y : PlayerRound) : Prop := x.round < y.round ∨ x.round = y.round ∧ x.player < y.player

/-- **The records of rounds and of the match are complete, and there are no others.** -/
structure Report.Complete (r : Report) : Prop where
  ordered : r.playerRounds.Pairwise PlayerRound.precedes
  range : ∀ x ∈ r.playerRounds, 1 ≤ x.round ∧ x.round ≤ r.summary.roundsPlayed
  registered : ∀ x ∈ r.playerRounds, ∃ q ∈ r.players, q.player = x.player
  /-- The rounds of which a player has a record are those from some round `k` on. -/
  onward : ∀ q ∈ r.players, ∃ k, 1 ≤ k ∧ k ≤ max 1 r.summary.roundsPlayed ∧
    ∀ n, (∃ x ∈ r.playerRounds, x.player = q.player ∧ x.round = n) ↔ k ≤ n ∧ n ≤ r.summary.roundsPlayed
  matchRecords : r.playerMatches.map (·.player) = r.players.map (·.player)
  players : (r.players.map (·.player)).Pairwise (· < ·)

namespace MatchState

variable {s s' : MatchState} {closed : Nat}

/-! ## The registry in its order -/

theorem pairwise_id_players (h : Registered s) : s.players.values.Pairwise (fun p q => p.id < q.id) := by
  rw [Table.values, List.pairwise_map]
  refine s.players.sorted.imp_of_mem (fun {a b} ha hb hab => ?_)
  have hpa : a.2.id = a.1 := h.own (Table.mem_entries_iff.1 ha)
  have hpb : b.2.id = b.1 := h.own (Table.mem_entries_iff.1 hb)
  have hlt : a.1 < b.1 := Nat.compare_eq_lt.1 hab
  rw [hpa, hpb]
  exact hlt

theorem exists_id_players (h : Registered s) {id : PlayerId} :
    (∃ p ∈ s.players.values, p.id = id) ↔ s.players.contains id = true := by
  rw [Table.contains_iff]
  constructor
  · rintro ⟨p, hp, rfl⟩
    obtain ⟨k, hk⟩ := Table.mem_values_iff.1 hp
    have hid : p.id = k := h.own hk
    exact ⟨p, hid ▸ hk⟩
  · rintro ⟨p, hp⟩
    exact ⟨p, Table.mem_values_iff.2 ⟨id, hp⟩, h.own hp⟩

/-! ## What leaves the roll alone -/

/-- What neither enters a record nor starts a round, and keeps everybody in the registry with the team, if any. -/
structure KeepsRoll (s s' : MatchState) : Prop where
  records : s'.playerRounds = s.playerRounds
  number : s'.round.number = s.round.number
  players : ∀ id, s.players.contains id = true → s'.players.contains id = true
  teams : ∀ id, s.players.contains id = true → s'.team? id = s.team? id

namespace KeepsRoll

theorem of_eq (hr : s'.playerRounds = s.playerRounds) (hn : s'.round.number = s.round.number)
    (hp : ∀ id, s'.players.contains id = s.players.contains id) (ht : s'.teams.labels = s.teams.labels) :
    KeepsRoll s s' where
  records := hr
  number := hn
  players id hi := (hp id).trans hi
  teams id _ := by rw [team?, team?, Teams.label?, Teams.label?, ht]

theorem trans {s'' : MatchState} (h : KeepsRoll s s') (h' : KeepsRoll s' s'') : KeepsRoll s s'' where
  records := h'.records.trans h.records
  number := h'.number.trans h.number
  players id hi := h'.players id (h.players id hi)
  teams id hi := (h'.teams id (h.players id hi)).trans (h.teams id hi)

theorem aside (h : Aside s s') : KeepsRoll s s' := by
  obtain ⟨_, _, _, _, _, rfl⟩ := h
  exact .of_eq rfl rfl (fun _ => rfl) rfl

theorem observe (h : Registered s) (a : Actor) : KeepsRoll s (s.observe a) where
  records := observe_playerRounds s a
  number := observe_number s a
  players id hi := by
    cases hs : a.allegiance.side? with
    | none =>
      rw [observe_spectator s hs]
      exact hi
    | some side => exact (contains_players_observe hs id).2 (.inr hi)
  teams id hi := h.team?_observe hi a

theorem observeOptional (h : Registered s) (a : Option Actor) : KeepsRoll s (s.observeOptional a) := by
  cases a with
  | none => exact .of_eq rfl rfl (fun _ => rfl) rfl
  | some a => exact .observe h a

theorem recordExit (s : MatchState) (id : PlayerId) (cause : ExitCause) (tick : Tick) :
    KeepsRoll s (s.recordExit id cause tick) :=
  .of_eq rfl rfl (fun _ => Table.contains_modify _ _ _ _) rfl

theorem enterGunfight (s before : MatchState) (c : Config) (n : KillNotice) (killer victim : Actor) (weapon : Weapon)
    (tick : Tick) : KeepsRoll s (s.enterGunfight before c n killer victim weapon tick) := by
  rcases enterGunfight_cases s before c n killer victim weapon tick with ⟨-, hg⟩ | ⟨-, s', flashAssister, hw, hg⟩ <;>
    rw [hg]
  · exact .of_eq rfl rfl (fun _ => rfl) rfl
  · exact (KeepsRoll.aside hw.aside).trans (.of_eq rfl rfl (fun _ => Table.contains_modify _ _ _ _) rfl)

end KeepsRoll

/-- **Every answer of a match starts it over, starts a round, or leaves the roll alone.** -/
theorem Answer.keepsRoll {c : Config} {tick : Tick} {e : Event} {step : Step MatchState} (h : Registered s)
    (ha : Answer c s tick e step) :
    step.state = s.restart ∨ step.state = (s.settled c).opened tick ∨ KeepsRoll s step.state := by
  have quiet {t : MatchState} (hk : KeepsRoll s t) : t = s.restart ∨ t = (s.settled c).opened tick ∨ KeepsRoll s t :=
    .inr (.inr hk)
  have died (a : Actor) (cause : ExitCause) : KeepsRoll s (s.recordDeath a cause tick) :=
    (KeepsRoll.observe h a).trans (.recordExit _ _ _ _)
  cases ha with
  | passed | idle => exact quiet (.of_eq rfl rfl (fun _ => rfl) rfl)
  | restarted => exact .inl rfl
  | begun => exact .inr (.inl (startRound_state s c tick))
  | thawed hl =>
    unfold recordFreezeEnd
    rw [if_pos hl]
    exact quiet (.of_eq rfl rfl (fun _ => rfl) rfl)
  | @decided n =>
    rw [decideRound_eq]
    exact quiet (.of_eq rfl rfl (fun _ => rfl) (scored_keeps s n).1)
  | died => exact quiet (died _ _)
  | weaponless => exact quiet (died _ _)
  | @killed n killer victim weapon =>
    have hd : Registered (s.recordDeath victim (.killed killer.id) tick) := (h.observe victim).recordExit _ _ tick
    exact quiet (((died victim (.killed killer.id)).trans (.observe hd killer)).trans (.enterGunfight _ _ _ _ _ _ _ _))
  | hit =>
    exact quiet (((KeepsRoll.observe h _).trans (.observeOptional (h.observe _) _)).trans
      (.aside (aside_enterDamage _ _ _ _ _ _)))
  | @fired n shooter weapon =>
    have hf := aside_fire s shooter weapon tick
    exact quiet ((KeepsRoll.aside hf).trans (.observe (h.aside hf) shooter))
  | thrown => exact quiet (.aside (aside_bindThrow s _ _ _ _))
  | unseen => exact quiet (.aside (aside_noteThrower s _ tick))
  | detonated => exact quiet (.aside (aside_recordGrenade s _ _ tick))
  | flashMoved => exact quiet (.aside (flashWork_moveFlash s _ _ _).aside)
  | flashUnseen =>
    exact quiet (.aside ((aside_noteThrower s _ tick).trans (flashWork_startFlash _ _ _ _ _ _).aside))
  | flashStarted =>
    exact quiet (.aside ((aside_recordGrenade s _ _ tick).trans (flashWork_startFlash _ _ _ _ _ _).aside))
  | @blinded n player =>
    have hb : KeepsRoll s (s.noteBlinded player.id) := .of_eq rfl rfl (fun _ => rfl) rfl
    exact quiet (hb.trans (.aside (flashWork_placeBlinding _ _ _ _ _ _).aside))
  | bombed =>
    exact quiet ((KeepsRoll.observeOptional h _).trans (.of_eq rfl rfl (fun _ => rfl) rfl))
  | shown => exact quiet (.observe h _)
  | @left a =>
    have hl : KeepsRoll s (s.setConnected a.id false) :=
      .of_eq rfl rfl (fun _ => Table.contains_modify _ _ _ _) rfl
    exact quiet (hl.trans (.recordExit _ _ _ _))
  | gone => exact quiet (.of_eq rfl rfl (fun _ => Table.contains_modify _ _ _ _) rfl)

/-! ## The records of one round -/

/-- One record of the round in progress for every registered player. -/
def OneEach (s : MatchState) (records : List PlayerRound) : Prop :=
  records.map (fun x => (x.round, x.player)) = s.players.values.map (fun p => (s.round.number, p.id))

namespace OneEach

variable {records : List PlayerRound}

theorem of_mem (h : s.OneEach records) (hr : Registered s) {x : PlayerRound} (hx : x ∈ records) :
    x.round = s.round.number ∧ s.players.contains x.player = true := by
  have hm := List.mem_map_of_mem (f := fun x : PlayerRound => (x.round, x.player)) hx
  rw [h] at hm
  obtain ⟨p, hp, hpx⟩ := List.mem_map.1 hm
  obtain ⟨hround, hid⟩ := Prod.mk.inj hpx
  exact ⟨hround.symm, (exists_id_players hr).1 ⟨p, hp, hid⟩⟩

theorem exists_mem (h : s.OneEach records) (hr : Registered s) {id : PlayerId} (hid : s.players.contains id = true) :
    ∃ x ∈ records, x.player = id ∧ x.round = s.round.number := by
  obtain ⟨p, hp, rfl⟩ := (exists_id_players hr).2 hid
  have hm := List.mem_map_of_mem (f := fun p : Player => (s.round.number, p.id)) hp
  rw [← h] at hm
  obtain ⟨x, hx, hxp⟩ := List.mem_map.1 hm
  obtain ⟨hround, hplayer⟩ := Prod.mk.inj hxp
  exact ⟨x, hx, hplayer, hround⟩

theorem pairwise (h : s.OneEach records) (hr : Registered s) : records.Pairwise PlayerRound.precedes := by
  have hp : (records.map (fun x => (x.round, x.player))).Pairwise (fun a b => a.1 = b.1 ∧ a.2 < b.2) := by
    rw [h, List.pairwise_map]
    exact (pairwise_id_players hr).imp (fun hlt => ⟨rfl, hlt⟩)
  rw [List.pairwise_map] at hp
  exact hp.imp .inr

end OneEach

/-! ## The roll -/

/-- The records are of the rounds up to `closed`, in their order, and whoever has one of a round has one of every later
round. -/
structure Rolled (s : MatchState) (closed : Nat) : Prop where
  ordered : s.playerRounds.Pairwise PlayerRound.precedes
  range : ∀ x ∈ s.playerRounds, 1 ≤ x.round ∧ x.round ≤ closed
  known : ∀ x ∈ s.playerRounds, s.players.contains x.player = true
  onward : ∀ x ∈ s.playerRounds, ∀ n, x.round ≤ n → n ≤ closed → ∃ y ∈ s.playerRounds, y.player = x.player ∧ y.round = n

namespace Rolled

theorem of_nil (h : s.playerRounds = []) : Rolled s closed := by
  constructor
  · rw [h]
    exact List.Pairwise.nil
  all_goals
    intro x hx
    rw [h] at hx
    cases hx

theorem keep (h : Rolled s closed) (hk : KeepsRoll s s') : Rolled s' closed where
  ordered := hk.records ▸ h.ordered
  range x hx := h.range x (hk.records ▸ hx)
  known x hx := hk.players _ (h.known x (hk.records ▸ hx))
  onward x hx n hle hn := by
    rw [hk.records] at hx ⊢
    exact h.onward x hx n hle hn

/-- **Closing a round enters one record of it for every registered player**, after all records so far. -/
theorem close (h : Rolled s (s.round.number - 1)) (hr : Registered s) (hn : 1 ≤ s.round.number)
    {t : MatchState} {records : List PlayerRound} (hnew : s.OneEach records)
    (he : t.playerRounds = s.playerRounds ++ records) (hplayers : t.players = s.players) :
    Rolled t s.round.number ∧
      ∀ id, t.players.contains id = true → ∃ x ∈ t.playerRounds, x.player = id ∧ x.round = s.round.number := by
  have hall : ∀ id, s.players.contains id = true → ∃ x ∈ t.playerRounds, x.player = id ∧ x.round = s.round.number := by
    intro id hid
    obtain ⟨x, hx, hxid⟩ := hnew.exists_mem hr hid
    exact ⟨x, he ▸ List.mem_append_right _ hx, hxid⟩
  have hsplit : ∀ x ∈ t.playerRounds,
      x ∈ s.playerRounds ∨ x.round = s.round.number ∧ s.players.contains x.player = true := by
    intro x hx
    rw [he] at hx
    exact (List.mem_append.1 hx).imp_right (hnew.of_mem hr)
  have hknown : ∀ x ∈ t.playerRounds, s.players.contains x.player = true :=
    fun x hx => (hsplit x hx).elim (h.known x) And.right
  refine ⟨⟨?_, fun x hx => ?_, ?_, fun x hx n hle hlen => ?_⟩, fun id hid => hall id (hplayers ▸ hid)⟩
  · rw [he, List.pairwise_append]
    refine ⟨h.ordered, hnew.pairwise hr, fun x hx y hy => ?_⟩
    have hx' := (h.range x hx).2
    have hy' := (hnew.of_mem hr hy).1
    left
    omega
  · rcases hsplit x hx with hx | ⟨hx, -⟩
    · have := h.range x hx
      omega
    · omega
  · rw [hplayers]
    exact hknown
  · -- the last round is new to everybody, and whoever has a record of an earlier one is registered
    by_cases hlast : n = s.round.number
    · rw [hlast]
      exact hall x.player (hknown x hx)
    · rcases hsplit x hx with hx | ⟨hx, -⟩
      · obtain ⟨y, hy, hyn⟩ := h.onward x hx n hle (by omega)
        exact ⟨y, he ▸ List.mem_append_left _ hy, hyn⟩
      · omega

/-- An open round has no records yet. -/
theorem isUnsettled (h : Rolled s (s.round.number - 1)) (hs : s.course.Sound) (ho : s.round.isOpen = true) :
    s.isUnsettled = true := by
  have hnumber : 1 ≤ s.round.number := hs.opened (phase_of_isOpen s ho)
  have hnone : s.playerRounds.any (·.round = s.round.number) = false := by
    refine List.any_eq_false.2 (fun x hx he => ?_)
    have := (h.range x hx).2
    simp only [decide_eq_true_eq] at he
    omega
  have hne : s.round.number ≠ 0 := Nat.ne_of_gt hnumber
  simp [MatchState.isUnsettled, hne, hnone]

/-- Closing an open round enters its records. -/
theorem settled_of_open (h : Rolled s (s.round.number - 1)) (hs : s.course.Sound) (ho : s.round.isOpen = true)
    (c : Config) :
    ∃ gunfights damages grenades, s.settled c =
      { s with
        gunfights, damages, grenades
        playerRounds :=
          s.playerRounds ++ ({ s with gunfights, damages, grenades } : MatchState).roundRecords c } := by
  obtain ⟨gunfights, damages, grenades, hsettle, -⟩ := settleRecords_eq s c s.round.number
  refine ⟨gunfights, damages, grenades, ?_⟩
  rw [MatchState.settled, if_pos ho, closeRound_eq, if_pos (h.isUnsettled hs ho), hsettle]

/-- **When what is in progress is closed, everybody has a record of the last round.** -/
theorem settled (h : Rolled s (s.round.number - 1)) (hr : Registered s) (hs : s.course.Sound) (c : Config) :
    Rolled (s.settled c) s.round.number ∧ (1 ≤ s.round.number → ∀ id, (s.settled c).players.contains id = true →
      ∃ x ∈ (s.settled c).playerRounds, x.player = id ∧ x.round = s.round.number) := by
  cases ho : s.round.isOpen with
  | false =>
    have hnumber := number_of_isOpen_eq_false s hs ho
    rw [MatchState.settled, ho, if_neg (by simp)]
    refine ⟨?_, fun hpos => ?_⟩
    · rw [hnumber] at h ⊢
      exact h
    · omega
  | true =>
    obtain ⟨gunfights, damages, grenades, hsettle⟩ := h.settled_of_open hs ho c
    rw [hsettle]
    have hnew : s.OneEach (({ s with gunfights, damages, grenades } : MatchState).roundRecords c) := by
      rw [OneEach, roundRecords, List.map_map]
      rfl
    obtain ⟨hclosed, hall⟩ := h.close hr (hs.opened (phase_of_isOpen s ho)) hnew
      (t := { s with
        gunfights, damages, grenades
        playerRounds :=
          s.playerRounds ++ ({ s with gunfights, damages, grenades } : MatchState).roundRecords c })
      rfl rfl
    exact ⟨hclosed, fun _ => hall⟩

theorem opened (h : Rolled s s.round.number) (tick : Tick) :
    Rolled (s.opened tick) ((s.opened tick).round.number - 1) :=
  ⟨h.ordered, h.range, h.known, h.onward⟩

/-- **The rounds of a player are those from the first one with a record on.** -/
theorem exists_first (h : Rolled s s.round.number) {id : PlayerId}
    (hlast : 1 ≤ s.round.number → ∃ x ∈ s.playerRounds, x.player = id ∧ x.round = s.round.number) :
    ∃ k, 1 ≤ k ∧ k ≤ max 1 s.round.number ∧
      ∀ n, (∃ x ∈ s.playerRounds, x.player = id ∧ x.round = n) ↔ k ≤ n ∧ n ≤ s.round.number := by
  classical
  by_cases hpos : 1 ≤ s.round.number
  · have hex : ∃ n, ∃ x ∈ s.playerRounds, x.player = id ∧ x.round = n := ⟨_, hlast hpos⟩
    obtain ⟨first, hfirst, hmin⟩ : ∃ k, (∃ x ∈ s.playerRounds, x.player = id ∧ x.round = k) ∧
        ∀ n, (∃ x ∈ s.playerRounds, x.player = id ∧ x.round = n) → k ≤ n :=
      ⟨Nat.find hex, Nat.find_spec hex, fun n hn => Nat.find_min' hex hn⟩
    obtain ⟨x, hx, hxid, hxr⟩ := hfirst
    have hrange := h.range x hx
    refine ⟨first, by omega, by omega, fun n => ⟨?_, ?_⟩⟩
    · rintro ⟨y, hy, hyid, hyr⟩
      have hle := hmin n ⟨y, hy, hyid, hyr⟩
      have := (h.range y hy).2
      omega
    · rintro ⟨hle, hn⟩
      obtain ⟨y, hy, hyid, hyr⟩ := h.onward x hx n (by omega) hn
      exact ⟨y, hy, hyid.trans hxid, hyr⟩
  · refine ⟨1, Nat.le_refl _, by omega, fun n => ⟨?_, fun hn => ?_⟩⟩
    · rintro ⟨y, hy, -, -⟩
      have := h.range y hy
      omega
    · omega

end Rolled

/-- A match with its registry and its course in order, and records of all rounds before the one in progress. -/
structure OnRoll (s : MatchState) : Prop where
  registered : Registered s
  sound : s.course.Sound
  rolled : Rolled s (s.round.number - 1)

namespace OnRoll

theorem new (header : Header) (c : Config) : OnRoll (MatchState.new header c) where
  registered := .new header c
  sound := .empty
  rolled := .of_nil rfl

/-- **Every answer of a match keeps the roll.** -/
theorem kept (c : Config) : Kept c OnRoll where
  clock s tick h :=
    have hk : KeepsRoll s { s with currentTick := tick } := .of_eq rfl rfl (fun _ => rfl) rfl
    ⟨(Registered.kept c).clock s tick h.registered, h.sound, h.rolled.keep hk⟩
  sights s sightings h :=
    have hk : KeepsRoll s { s with sightings } := .of_eq rfl rfl (fun _ => rfl) rfl
    ⟨(Registered.kept c).sights s sightings h.registered, h.sound, h.rolled.keep hk⟩
  answer {s tick e step} ha h := by
    refine ⟨h.registered.answer ha, (kept_of_course c .empty (fun hs hk => hk.step hs)).answer ha h.sound, ?_⟩
    rcases ha.keepsRoll h.registered with he | he | hk
    · rw [he]
      unfold restart
      split
      · exact h.rolled
      · exact .of_nil rfl
    · have hsettled := (h.rolled.settled h.registered h.sound c).1
      rw [← number_settled s c] at hsettled
      rw [he]
      exact hsettled.opened tick
    · rw [hk.number]
      exact h.rolled.keep hk

end OnRoll

/-! ## The report -/

theorem map_player_ofState (s : MatchState) :
    (Report.ofState s).players.map (·.player) = s.players.values.map (·.id) := by
  rw [Report.ofState, List.map_map]
  rfl

/-- **A match with all its records has a complete report**, once its records of the match are entered. -/
theorem Rolled.complete (h : Rolled s s.round.number) (hr : Registered s)
    (hlast : 1 ≤ s.round.number → ∀ id, s.players.contains id = true →
      ∃ x ∈ s.playerRounds, x.player = id ∧ x.round = s.round.number)
    {playerMatches : List PlayerMatch} (hm : playerMatches.map (·.player) = s.players.values.map (·.id)) :
    (Report.ofState { s with playerMatches, finalized := true }).Complete := by
  have hids : (Report.ofState { s with playerMatches, finalized := true }).players.map (·.player) =
      s.players.values.map (·.id) := map_player_ofState _
  have hmem (id : PlayerId) :
      (∃ q ∈ (Report.ofState { s with playerMatches, finalized := true }).players, q.player = id) ↔
        s.players.contains id = true := by
    rw [← exists_id_players hr, ← List.mem_map, ← List.mem_map, hids]
  constructor
  · exact h.ordered
  · exact h.range
  · intro x hx
    rw [hmem]
    exact h.known x hx
  · intro q hq
    have hknown := (hmem q.player).1 ⟨q, hq, rfl⟩
    exact h.exists_first (fun hpos => hlast hpos q.player hknown)
  · rw [hids]
    exact hm
  · rw [hids, List.pairwise_map]
    exact pairwise_id_players hr

theorem OnRoll.complete (h : OnRoll s) (c : Config) : (Report.ofState (Processor.closeState s c)).Complete := by
  obtain ⟨hrolled, hlast⟩ := h.rolled.settled h.registered h.sound c
  rw [← number_settled s c] at hrolled hlast
  rw [closeState_settled]
  exact hrolled.complete (h.registered.settled c) hlast (map_player_closeMatch _)

end MatchState

namespace Processor

variable {header : Header} {config : Config} {p : Processor}

theorem Fresh.onRoll (h : Fresh header config p) (events : List TimedEvent) : (p.after events).state.OnRoll :=
  h.keeps_after (MatchState.OnRoll.kept config) (.new header config) events

/-- **Everybody has a record of every round.**  Whatever the stream, its report has the records of rounds in their
order, one for each player and each round from some round on to the last, and one record of the match for each
player. -/
theorem records_complete (h : Fresh header config p) (events : List TimedEvent) :
    ∃ r, (p.run events).result = .ok r ∧ r.Complete :=
  ⟨_, (h.run_ok events).1, (h.keeps_after (MatchState.OnRoll.kept config) (.new header config) events).complete config⟩

/-- A player who comes in the second round, which never ends, beside one who is there from the first. -/
theorem records_complete_with_latecomer :
    ∃ r, (({ config := {}, state := MatchState.new { mapName := "de_dust2" } {} } : Processor).run
        [⟨0, .playerConnect { id := 7, allegiance := .terrorist }⟩, ⟨1, .roundStart⟩,
         ⟨64, .roundEnd { winner := some .t, reason := .terroristsWin }⟩, ⟨70, .roundStart⟩,
         ⟨80, .playerConnect { id := 3, allegiance := .counterTerrorist }⟩]).result = .ok r ∧
      r.Complete ∧ r.playerRounds.map (fun x => (x.round, x.player)) = [(1, 7), (2, 3), (2, 7)] := by
  have h : Fresh { mapName := "de_dust2" } {} _ := .default rfl
  obtain ⟨r, hr, hc⟩ := records_complete h
    [⟨0, .playerConnect { id := 7, allegiance := .terrorist }⟩, ⟨1, .roundStart⟩,
     ⟨64, .roundEnd { winner := some .t, reason := .terroristsWin }⟩, ⟨70, .roundStart⟩,
     ⟨80, .playerConnect { id := 3, allegiance := .counterTerrorist }⟩]
  refine ⟨r, hr, hc, ?_⟩
  rw [(h.run_ok _).1] at hr
  cases hr
  decide +kernel

end Processor

end Scorebook
