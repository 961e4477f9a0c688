import Mathlib.Data.List.Perm.Subperm
import Scorebook.Proofs.Introductions
import Scorebook.Proofs.Ongoing
/-!
# A label is for the whole match

Whoever is registered gets a label with it, as long as there are labels left.  So the labels are as many as the players,
up to ten (`Enrolled`), and to the end of the match everybody keeps the label, or goes without one (`KeepsMembers`):
neither a swap of sides nor a new start nor a change of teams touches it.
-/
namespace Scorebook

namespace MatchState

variable {s s' s'' : MatchState}

/-! ## Players and labels -/

/-- Whose condition is known and who has a label is a player, and of the players ten have one, or all. -/
structure Enrolled (s : MatchState) : Prop where
  conditions : ∀ {id : PlayerId}, s.conditions.contains id = true → s.players.contains id = true
  labels : ∀ {id : PlayerId}, s.teams.labels.contains id = true → s.players.contains id = true
  count : s.teams.labels.size = min (2 * teamSize) s.players.size

/-- Whoever is a player stays one, with the same label or without one. -/
structure KeepsMembers (s s' : MatchState) : Prop where
  players : ∀ {id : PlayerId}, s.players.contains id = true → s'.players.contains id = true
  team : ∀ {id : PlayerId}, s.players.contains id = true → s'.team? id = s.team? id

namespace KeepsMembers

theorem refl (s : MatchState) : KeepsMembers s s := ⟨id, fun _ => rfl⟩

theorem trans (h : KeepsMembers s s') (h' : KeepsMembers s' s'') : KeepsMembers s s'' :=
  ⟨fun hk => h'.players (h.players hk), fun hk => (h'.team (h.players hk)).trans (h.team hk)⟩

end KeepsMembers

theorem KeepsRegistry.keepsMembers (h : KeepsRegistry s s') : KeepsMembers s s' where
  players hk := (Table.contains_eq_of_keys h.players _).trans hk
  team _ := by rw [team?, team?, Teams.label?, Teams.label?, h.labels]

namespace Enrolled

theorem new (header : Header) (c : Config) : Enrolled (MatchState.new header c) where
  conditions h := by cases h
  labels h := by cases h
  count := rfl

theorem keep (h : Enrolled s) (hk : KeepsRegistry s s') : Enrolled s' where
  conditions hid := by
    rw [Table.contains_eq_of_keys hk.conditions] at hid
    rw [Table.contains_eq_of_keys hk.players]
    exact h.conditions hid
  labels hid := by
    rw [hk.labels] at hid
    rw [Table.contains_eq_of_keys hk.players]
    exact h.labels hid
  count := by
    rw [hk.labels, h.count, Table.size_eq_length_keys, Table.size_eq_length_keys, hk.players]

/-- **A player without a label came when there were none left**: while there are, the labels are as many as the
players. -/
theorem isFull_of_unlabelled (h : Enrolled s) {id : PlayerId} (hk : s.players.contains id = true)
    (hn : s.team? id = none) : s.teams.isFull = true := by
  by_contra hfull
  have hcount := h.count
  have hsame : List.Perm s.teams.labels.keys s.players.keys := by
    have hsub : s.teams.labels.keys ⊆ s.players.keys := fun id hid =>
      Table.contains_iff_mem_keys.1 (h.labels (Table.contains_iff_mem_keys.2 hid))
    refine (List.subperm_of_subset s.teams.labels.keys_nodup hsub).perm_of_length_le ?_
    rw [← Table.size_eq_length_keys, ← Table.size_eq_length_keys]
    rw [Teams.isFull, decide_eq_true_eq] at hfull
    omega
  have hlabelled : s.teams.labels.contains id = true :=
    Table.contains_iff_mem_keys.2 (hsame.mem_iff.2 (Table.contains_iff_mem_keys.1 hk))
  rw [Table.contains, show s.teams.labels.get? id = none from hn] at hlabelled
  cases hlabelled

/-- **A newcomer is registered and labelled, as long as there are labels left.** -/
theorem observe (h : Enrolled s) (a : Actor) : Enrolled (s.observe a) := by
  cases hs : a.allegiance.side? with
  | none =>
    rw [observe_spectator s hs]
    exact h.keep ⟨rfl, Table.keys_modify _ _ _, rfl⟩
  | some side =>
    have hplayers : (s.observe a).players = s.players.update a.id (Player.seen a) := by rw [observe_player s hs]
    refine ⟨fun {id} hid => ?_, fun {id} hid => ?_, ?_⟩
    · rw [contains_conditions_observe hs] at hid
      rw [contains_players_observe hs]
      exact hid.imp_right h.conditions
    · rw [contains_players_observe hs]
      rw [teams_observe hs] at hid
      rcases s.teams.assign_cases a.id side with ⟨-, ht⟩ | ⟨-, -, ht⟩ <;> rw [ht] at hid
      · exact .inr (h.labels hid)
      · rw [Table.contains_insert, Bool.or_eq_true, decide_eq_true_eq] at hid
        exact hid.imp_right h.labels
    · have hcount := h.count
      rw [teams_observe hs, hplayers, Table.update, Table.size_insert]
      rcases s.teams.assign_cases a.id side with ⟨hfull, ht⟩ | ⟨hn, hfree, ht⟩ <;> rw [ht]
      · split
        · exact hcount
        · next hnew =>
          -- a newcomer has no label, and gets none if there are none left
          have hn : s.teams.label? a.id = none := by
            cases hl : s.teams.label? a.id with
            | none => rfl
            | some team => exact absurd (h.labels (Table.contains_iff.2 ⟨team, hl⟩)) hnew
          have hfull := hfull hn
          rw [Teams.isFull, decide_eq_true_eq] at hfull
          omega
      · have hnew : s.players.contains a.id = false := by
          cases hk : s.players.contains a.id with
          | false => rfl
          | true => exact absurd (h.isFull_of_unlabelled hk hn) (by simp [hfree])
        have hnone : s.teams.labels.contains a.id = false := by
          rw [Table.contains, show s.teams.labels.get? a.id = none from hn]
          rfl
        rw [Teams.isFull, decide_eq_false_iff_not] at hfree
        rw [Table.size_insert, hnone, hnew]
        simp only [Bool.false_eq_true, if_false]
        omega

/-- **Introducing players takes nobody off the registry and changes no label.** -/
theorem introduction (h : Enrolled s) {actors : List Actor} (hi : Introduction actors s s') :
    Enrolled s' ∧ KeepsMembers s s' := by
  refine hi.keeps (P := fun t => Enrolled t ∧ KeepsMembers s t) (fun hk ht => ?_) (fun {t} a _ ht => ?_) ⟨h, .refl s⟩
  · exact ⟨ht.1.keep hk, ht.2.trans hk.keepsMembers⟩
  · refine ⟨ht.1.observe a, ht.2.trans ⟨fun hid => ?_, fun hid => ?_⟩⟩
    · cases hs : a.allegiance.side? with
      | none =>
        rw [observe_spectator t hs]
        exact hid
      | some side => exact (contains_players_observe hs _).2 (.inr hid)
    · exact team?_observe_of_full (ht.1.isFull_of_unlabelled hid) a

end Enrolled

end MatchState

/-! ## Whole matches -/

namespace Processor

open MatchState

variable {header : Header} {config : Config} {p q q' : Processor}

namespace Fresh

theorem enrolled (h : Fresh header config p) (hq : Follows p q) : q.state.Enrolled ∧ q.state.Registered := by
  obtain ⟨events, hr⟩ := h.reaches_of_follows hq
  refine h.holds_of_reaches (P := fun s => s.Enrolled ∧ s.Registered) (fun s hs => ?_) ⟨?_, h.registered events⟩ hr
  · exact ⟨hs.1.keep (.closeState s config), hs.2.closeState config⟩
  · exact h.traces (P := fun _ s => s.Enrolled) (.new header config)
      (fun events e hs => (hs.introduction (introduction_next config _ e)).1) events

theorem keepsMembers_event (h : Fresh header config p) (hq : Follows p q) (e : TimedEvent) :
    KeepsMembers q.state (q.processEvent e).processor.state := by
  cases hf : q.state.finalized with
  | true =>
    rw [processEvent_finalized hf]
    exact .refl _
  | false =>
    obtain ⟨events, rfl⟩ := h.running_of_follows hq hf
    rw [← after_concat, h.after_concat_state]
    exact ((h.enrolled hq).1.introduction (introduction_next config _ e)).2

theorem keepsMembers_finalize (h : Fresh header config p) (hq : Follows p q) :
    KeepsMembers q.state q.finalize.processor.state := by
  cases hf : q.state.finalized with
  | true =>
    rw [finalize_finalized hf]
    exact .refl _
  | false =>
    obtain ⟨events, rfl⟩ := h.running_of_follows hq hf
    rw [h.finalize_state]
    exact (KeepsRegistry.closeState _ config).keepsMembers

/-- **A player stays a player, and keeps the label or goes without one.** -/
theorem keepsMembers (h : Fresh header config p) (hq : Follows p q) (hq' : Follows q q') :
    KeepsMembers q.state q'.state := by
  induction hq' with
  | refl => exact .refl _
  | event e hr ih => exact ih.trans (h.keepsMembers_event (hq.trans hr) e)
  | finalize hr ih => exact ih.trans (h.keepsMembers_finalize (hq.trans hr))

/-- **Who is on the roster with a team stays there with that team until the next round starts.** -/
theorem staysMember (h : Fresh header config p) (before : List TimedEvent) {later : List TimedEvent}
    (hc : ∀ e ∈ later, e.event.continues = true) {id : PlayerId} {side : Side} {team : Team}
    (hg : (p.after before).state.round.roster.get? id = some side)
    (ht : (p.after before).state.team? id = some team) :
    (p.after (before ++ later)).state.round.roster.get? id = some side ∧
      (p.after (before ++ later)).state.team? id = some team := by
  have hkept := h.keepsMembers (follows_after p before) (follows_after (p.after before) later)
  rw [← after_append] at hkept
  exact ⟨(h.goesOn before hc).roster id side hg, (hkept.team ((h.registered before).known hg)).trans ht⟩

end Fresh

/-- **The registry only grows, and labels are frozen.**  In every state of a match, in progress or closed: the players
and those whose condition is known are the same; everybody with a label and everybody on the roster is a player; and
ten players have a label, or all if they are fewer.  Whatever comes after, a player stays a player with the same label,
and one who has no label never gets one. -/
theorem labels_frozen (h : Fresh header config p) (hq : Follows p q) :
    q.state.conditions.keys = q.state.players.keys ∧
      (∀ id ∈ q.state.teams.labels.keys, id ∈ q.state.players.keys) ∧
      (∀ id ∈ q.state.round.roster.keys, id ∈ q.state.players.keys) ∧
      q.state.teams.labels.size = min 10 q.state.players.size ∧
      ∀ q', Follows q q' → ∀ id ∈ q.state.players.keys,
        id ∈ q'.state.players.keys ∧ q'.state.team? id = q.state.team? id := by
  obtain ⟨he, hr⟩ := h.enrolled hq
  simp only [← Table.contains_iff_mem_keys]
  refine ⟨Table.keys_eq_of_contains (fun id => ?_), fun id => he.labels, fun id hid => ?_, he.count,
    fun q' hq' id hid => ?_⟩
  · exact Bool.eq_iff_iff.2 ⟨he.conditions, hr.present⟩
  · obtain ⟨side, hg⟩ := Table.contains_iff.1 hid
    exact hr.known hg
  · have hkept := h.keepsMembers hq hq'
    exact ⟨hkept.players hid, hkept.team hid⟩

/-- Of eleven players who connect the last gets no label.  After a round, a new start, a change of teams and the end of
the match that player still has none, and the first still has label A. -/
theorem labels_frozen_for_eleventh :
    ∃ p q q' : Processor,
      p = { config := {}, state := MatchState.new { mapName := "de_dust2" } {} } ∧
      q = p.after ((List.range 11).map (fun i =>
        ⟨0, .playerConnect { id := i + 1, allegiance := .counterTerrorist }⟩)) ∧
      q' = (q.after
        [⟨1, .roundStart⟩, ⟨2, .matchStart⟩,
         ⟨3, .playerTeamChange { player := some { id := 11 }, newTeam := .terrorist
                                 oldTeam := .counterTerrorist }⟩]).finalize.processor ∧
      q.state.players.size = 11 ∧ q.state.teams.labels.size = min 10 11 ∧
      q'.state.team? 11 = none ∧ q'.state.team? 1 = some .a := by
  have h : Fresh { mapName := "de_dust2" } {} _ := .default rfl
  refine ⟨_, _, _, rfl, rfl, rfl, by decide +kernel, ?_, ?_, ?_⟩
  · exact (labels_frozen h (follows_after _ _)).2.2.2.1.trans (by decide +kernel)
  · refine ((labels_frozen h (follows_after _ _)).2.2.2.2 _ (follows_after _ _).finalize 11 ?_).2.trans ?_ <;>
      decide +kernel
  · refine ((labels_frozen h (follows_after _ _)).2.2.2.2 _ (follows_after _ _).finalize 1 ?_).2.trans ?_ <;>
      decide +kernel

end Processor

end Scorebook
