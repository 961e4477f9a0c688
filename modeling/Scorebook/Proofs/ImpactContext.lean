import Scorebook.Proofs.Clutches
import Scorebook.Proofs.FightLog
/-!
# The context of a kill

A gunfight holds twice how many lived on either side, as counts and as a text, and its context is chosen by the text;
and whether the killer won a clutch is asked of the clutches, where the records of the round tell it too.  When a match
is closed every gunfight has the context that its counts and the records call for.
-/
namespace Scorebook

/-! ## The text of the counts -/

namespace Text

theorem isBlank_of_isDigit {c : Char} (h : c.isDigit = true) : isBlank c = false := by
  refine Bool.eq_false_iff.2 (fun hblank => ?_)
  have hsign := isAlphanum_of_isBlank hblank
  simp [Char.isAlphanum, h] at hsign

theorem trimLeft_of_digits {cs : List Char} (h : ∀ c ∈ cs, c.isDigit = true) : trimLeft cs = cs := by
  cases cs with
  | nil => rfl
  | cons c rest =>
    have hblank := isBlank_of_isDigit (h c List.mem_cons_self)
    exact List.dropWhile_cons_of_neg (by simp [hblank])

theorem trim_of_digits {cs : List Char} (h : ∀ c ∈ cs, c.isDigit = true) : trim cs = cs := by
  have hreverse : ∀ c ∈ cs.reverse, c.isDigit = true := fun c hc => h c (List.mem_reverse.1 hc)
  rw [trim, trimLeft_of_digits h, trimLeft_of_digits hreverse, List.reverse_reverse]

theorem natural?_of_digits {bits : Nat} {cs : List Char} (hne : cs ≠ []) (h : ∀ c ∈ cs, c.isDigit = true)
    (hlt : Nat.ofDigitChars 10 cs 0 < Nat.pow 2 bits) : natural? bits cs = some (Nat.ofDigitChars 10 cs 0) := by
  have hplus : ∀ rest, cs ≠ '+' :: rest := by
    rintro rest rfl
    have := h '+' List.mem_cons_self
    revert this
    decide
  have hall : cs.all Char.isDigit = true := List.all_eq_true.2 h
  unfold natural?
  split
  · next rest => exact absurd rfl (hplus rest)
  · simp only [hall, List.isEmpty_eq_false_iff.2 hne]
    exact if_pos hlt

theorem isDigit_of_mem_digits (n : Nat) : ∀ c ∈ Nat.toDigits 10 n, c.isDigit = true :=
  fun _ hc => Nat.isDigit_of_mem_toDigits (by decide) (by decide) hc

/-- **A number is read back from its digits.** -/
theorem natural?_toDigits {bits n : Nat} (h : n < Nat.pow 2 bits) : natural? bits (Nat.toDigits 10 n) = some n := by
  have hvalue : Nat.ofDigitChars 10 (Nat.toDigits 10 n) 0 = n := Nat.ofDigitChars_ten_toDigits
  rw [natural?_of_digits Nat.toDigits_ne_nil (isDigit_of_mem_digits n) (hvalue.symm ▸ h), hvalue]

theorem splitAt?_append {c : Char} {left : List Char} (h : c ∉ left) (right : List Char) :
    splitAt? c (left ++ c :: right) = some (left, right) := by
  have hpass : ∀ x ∈ left, (x != c) = true := by
    intro x hx
    simp only [bne_iff_ne, ne_eq]
    rintro rfl
    exact h hx
  unfold splitAt?
  rw [List.dropWhile_append_of_pos hpass, List.takeWhile_append_of_pos hpass]
  simp

end Text

namespace Impact

theorem toList_scenarioText (a b : Nat) :
    (scenarioText a b).toList = Nat.toDigits 10 a ++ 'v' :: Nat.toDigits 10 b := by
  have hv : (toString "v").toList = ['v'] := by decide
  simp [scenarioText, Nat.toList_repr, hv]

/-- **The counts are read back from their text.** -/
theorem parseScenario?_scenarioText {a b : Nat} (ha : a < Nat.pow 2 32) (hb : b < Nat.pow 2 32) :
    parseScenario? (scenarioText a b) = some (a, b) := by
  have hsplit : 'v' ∉ Nat.toDigits 10 a := by
    intro hv
    have := Text.isDigit_of_mem_digits a 'v' hv
    revert this
    decide
  unfold parseScenario?
  rw [toList_scenarioText, Text.splitAt?_append hsplit]
  simp [Text.trim_of_digits (Text.isDigit_of_mem_digits a), Text.trim_of_digits (Text.isDigit_of_mem_digits b),
    Text.natural?_toDigits ha, Text.natural?_toDigits hb]

end Impact

namespace Gunfight

/-! ## What a gunfight should be -/

/-- By the records of the round the killer won a clutch in it. -/
def KillerWonClutch (g : Gunfight) (records : List PlayerRound) : Prop :=
  ∃ x ∈ records, x.round = g.round ∧ x.player = g.killer.id ∧ x.clutchWon = true

instance (g : Gunfight) (records : List PlayerRound) : Decidable (g.KillerWonClutch records) :=
  inferInstanceAs (Decidable (∃ x ∈ records, _))

/-- The context that the counts of a gunfight and the records of its round call for. -/
def contextByCounts (g : Gunfight) (records : List PlayerRound) : ImpactContext :=
  if g.isFirstKill then .firstKill
  else if g.killerTeamAlive = 1 ∧ g.KillerWonClutch records then .wonClutch
  else if g.killerTeamAlive = 1 ∨ g.victimTeamAlive = 1 then .failedClutch
  else .standard

/-- The context that is chosen by the text of the counts, and by the records. -/
def contextByText (g : Gunfight) (records : List PlayerRound) : ImpactContext :=
  Impact.context g.isFirstKill g.scenario (g.KillerWonClutch records)

/-- A gunfight has its counts in its text, and once its round is closed its context goes by the text.  A team kill has
the context that it was entered with. -/
structure Weighed (g : Gunfight) (records : List PlayerRound) (closed : Nat) : Prop where
  scenario : g.scenario = Impact.scenarioText g.killerTeamAlive g.victimTeamAlive
  teamKill : g.isTeamKill = true → g.impactContext = .standard
  kill : g.isTeamKill = false → g.round ≤ closed → g.impactContext = g.contextByText records

variable {g : Gunfight} {records later : List PlayerRound} {closed : Nat}

/-- Records of other rounds do not tell of a gunfight. -/
theorem killerWonClutch_append (h : ∀ x ∈ later, x.round ≠ g.round) :
    g.KillerWonClutch (records ++ later) ↔ g.KillerWonClutch records := by
  constructor
  · rintro ⟨x, hx, hround, hwon⟩
    rcases List.mem_append.1 hx with hx | hx
    · exact ⟨x, hx, hround, hwon⟩
    · exact absurd hround (h x hx)
  · rintro ⟨x, hx, hwon⟩
    exact ⟨x, List.mem_append_left _ hx, hwon⟩

/-- **The text decides as the counts do**, if it reads back as them. -/
theorem contextByText_eq (h : Impact.parseScenario? g.scenario = some (g.killerTeamAlive, g.victimTeamAlive)) :
    g.contextByText records = g.contextByCounts records := by
  simp [contextByText, contextByCounts, Impact.context, h]

end Gunfight

namespace MatchState

variable {s : MatchState}

/-! ## Weighing the gunfights of a round -/

theorem weighed_fought (s before : MatchState) (c : Config) (n : KillNotice) (killer victim : Actor) (weapon : Weapon)
    (tick : Tick) (records : List PlayerRound) {closed : Nat} (hc : closed < s.round.number) :
    (s.fought before c n killer victim weapon tick).Weighed records closed where
  scenario := rfl
  teamKill _ := rfl
  kill _ hr := by
    have hr : s.round.number ≤ closed := hr
    omega

theorem impactContext_apply (clutches : List Clutch) (c : ImpactConfig) (g : Gunfight) :
    (Impact.apply clutches c g).impactContext =
      if g.isTeamKill then .standard
      else Impact.context g.isFirstKill g.scenario (clutches.any (fun k => k.player = g.killer.id && k.won)) := by
  unfold Impact.apply
  split <;> rfl

/-- When its round closes a gunfight gets a context by the clutches. -/
theorem impactContext_settledGunfight (c : Config) {g : Gunfight} (hr : g.round = s.round.number) :
    (s.settledGunfight c g).impactContext =
      if g.isTeamKill then .standard
      else Impact.context g.isFirstKill g.scenario (s.clutches.any (fun k => k.player = g.killer.id && k.won)) := by
  unfold settledGunfight
  rw [if_pos hr, impactContext_apply]
  by_cases ht : g.isTeamKill = true
  · simp [ht]
  · simp [ht, withAssister]

/-- **A gunfight of the round is weighed when the round closes**, and the others stay as they are. -/
theorem weighed_settledGunfight (c : Config) {g : Gunfight} {later : List PlayerRound}
    (h : g.Weighed s.playerRounds (s.round.number - 1)) (hnone : ∀ x ∈ s.playerRounds, x.round < s.round.number)
    (hlater : ∀ x ∈ later, x.round = s.round.number)
    (hwon : (∃ x ∈ later, x.player = g.killer.id ∧ x.clutchWon = true) ↔
      s.clutches.any (fun k => k.player = g.killer.id && k.won) = true) :
    (s.settledGunfight c g).Weighed (s.playerRounds ++ later) s.round.number := by
  by_cases hr : g.round = s.round.number
  · have hrecords : decide (g.KillerWonClutch (s.playerRounds ++ later)) =
        s.clutches.any (fun k => k.player = g.killer.id && k.won) := by
      rw [Bool.eq_iff_iff, ← hwon, decide_eq_true_eq]
      constructor
      · rintro ⟨x, hx, hround, htold⟩
        rcases List.mem_append.1 hx with hx | hx
        · have := hnone x hx
          omega
        · exact ⟨x, hx, htold⟩
      · rintro ⟨x, hx, htold⟩
        exact ⟨x, List.mem_append_right _ hx, (hlater x hx).trans hr.symm, htold⟩
    -- what the text and the records call for is not touched
    have hsame := asFought_settledGunfight s c g
    have hteam : (s.settledGunfight c g).isTeamKill = g.isTeamKill := (congrArg Gunfight.isTeamKill hsame :)
    have hcontext : (s.settledGunfight c g).contextByText (s.playerRounds ++ later) =
        g.contextByText (s.playerRounds ++ later) :=
      (congrArg (fun g => g.contextByText (s.playerRounds ++ later)) hsame :)
    constructor
    · show (s.settledGunfight c g).asFought.scenario = Impact.scenarioText
        (s.settledGunfight c g).asFought.killerTeamAlive (s.settledGunfight c g).asFought.victimTeamAlive
      rw [hsame]
      exact h.scenario
    · intro ht
      rw [hteam] at ht
      simp [impactContext_settledGunfight c hr, ht]
    · intro ht _
      rw [hteam] at ht
      rw [hcontext, impactContext_settledGunfight c hr, ht, Gunfight.contextByText, hrecords]
      rfl
  · unfold settledGunfight
    rw [if_neg hr]
    refine ⟨h.scenario, h.teamKill, ?_⟩
    intro ht hle
    have hrecords : g.KillerWonClutch (s.playerRounds ++ later) ↔ g.KillerWonClutch s.playerRounds :=
      g.killerWonClutch_append (fun x hx he => hr (he ▸ hlater x hx))
    rw [h.kill ht (by omega)]
    simp only [Gunfight.contextByText, hrecords]

/-- The gunfights of a match are weighed up to the rounds that are closed. -/
def AllWeighed (s : MatchState) (closed : Nat) : Prop := ∀ g ∈ s.gunfights, g.Weighed s.playerRounds closed

/-- **Closing what is in progress weighs its gunfights by the records that are entered.** -/
theorem AllWeighed.settled (h : AllWeighed s (s.round.number - 1)) (hs : OnRoll s) (c : Config) :
    AllWeighed (s.settled c) s.round.number := by
  cases ho : s.round.isOpen with
  | false =>
    have hnumber := number_of_isOpen_eq_false s hs.sound ho
    rw [MatchState.settled, ho, if_neg (by simp), hnumber]
    rwa [hnumber] at h
  | true =>
    have hgunfights : (s.settled c).gunfights = s.gunfights.map (s.settledGunfight c) := by
      rw [MatchState.settled, if_pos ho, closeRound_eq, if_pos (hs.rolled.isUnsettled hs.sound ho)]
      exact gunfights_settleRecords s c
    have hnumber : 1 ≤ s.round.number := hs.sound.opened (phase_of_isOpen s ho)
    obtain ⟨gunfights, damages, grenades, hsettle⟩ := hs.rolled.settled_of_open hs.sound ho c
    rw [hsettle] at hgunfights ⊢
    have hgunfights : gunfights = s.gunfights.map (s.settledGunfight c) := hgunfights
    intro g hg
    rw [hgunfights] at hg
    obtain ⟨g₀, hg₀, rfl⟩ := List.mem_map.1 hg
    have hr : Registered { s with gunfights, damages, grenades } :=
      hs.registered.frame (fun _ => rfl) (fun _ => rfl) rfl rfl rfl
    refine weighed_settledGunfight c (h g₀ hg₀) (fun x hx => ?_) (fun x hx => ?_) (exists_clutchWon hr c g₀.killer.id)
    · have := (hs.rolled.range x hx).2
      omega
    · obtain ⟨p, -, rfl⟩ := List.mem_map.1 hx
      rfl

theorem AllWeighed.lull {s' : MatchState} (h : AllWeighed s (s.round.number - 1)) (hl : Lull s s') :
    AllWeighed s' (s'.round.number - 1) := by
  unfold AllWeighed
  rw [hl.gunfights, hl.playerRounds, hl.number]
  exact h

/-- **Whatever happens, the gunfights of closed rounds are weighed.** -/
theorem AllWeighed.combat {s' : MatchState} {c : Config} {tick : Tick} {e : Event}
    (h : AllWeighed s (s.round.number - 1)) (hs : OnRoll s) (hc : Combat c s tick e s') :
    AllWeighed s' (s'.round.number - 1) := by
  cases hc with
  | spared hl => exact h.lull hl
  | restarted =>
    unfold restart
    split
    · exact h
    · intro g hg
      cases hg
  | begun =>
    have hsettled := h.settled hs c
    rw [← number_settled s c] at hsettled
    exact hsettled
  | hit _ hl => exact (h.lull hl :)
  | @fought n killer victim weapon t ho _ hl =>
    have hnumber : 1 ≤ t.round.number := hl.number ▸ hs.sound.opened (phase_of_isOpen s ho)
    obtain ⟨_, _, _, _, _, heq⟩ := enterGunfight_eq t s c n killer victim weapon tick
    rw [heq]
    intro g hg
    rcases List.mem_append.1 hg with hg | hg
    · exact h.lull hl g hg
    · rw [List.mem_singleton.1 hg]
      exact weighed_fought _ _ _ _ _ _ _ _ _ (by show t.round.number - 1 < t.round.number; omega)

end MatchState

namespace Processor

open MatchState

variable {header : Header} {config : Config} {p : Processor}

theorem Fresh.allWeighed (h : Fresh header config p) (events : List TimedEvent) :
    AllWeighed (p.after events).state ((p.after events).state.round.number - 1) := by
  refine h.traces_combat (P := fun s => AllWeighed s (s.round.number - 1)) ?_ (fun hl hs => hs.lull hl) ?_ events
  · intro g hg
    cases hg
  · intro events e s' hc hs
    exact hs.combat ((OnRoll.kept config).clock _ _ (h.onRoll events)) hc

/-- **The context of every kill is the one that its counts and the records of its round call for.**  The counts are
numbers of 32 bits.  The report of any stream has in each gunfight that is no team kill a text that reads back as its
counts, and as its context the first kill of the round if it is that; else a clutch won if the killer was the last of a
side and by the records won a clutch in that round; else a clutch failed if either was the last of a side; and nothing
special otherwise.  A team kill is nothing special. -/
theorem impact_contexts (h : Fresh header config p) (events : List TimedEvent) :
    ∃ r, (p.run events).result = .ok r ∧ ∀ g ∈ r.gunfights,
      (g.isTeamKill = true → g.impactContext = .standard) ∧
      (g.isTeamKill = false → g.killerTeamAlive < Nat.pow 2 32 → g.victimTeamAlive < Nat.pow 2 32 →
        Impact.parseScenario? g.scenario = some (g.killerTeamAlive, g.victimTeamAlive) ∧
          g.impactContext = g.contextByCounts r.playerRounds) := by
  refine ⟨_, (h.run_ok events).1, ?_⟩
  have hall := (h.allWeighed events).settled (h.onRoll events) config
  have hrange := ((h.fightLog (follows_after p events)).settled config).range
  rw [closeState_settled]
  intro g hg
  have hw := hall g hg
  refine ⟨hw.teamKill, ?_⟩
  intro ht hk hv
  have hparse : Impact.parseScenario? g.scenario = some (g.killerTeamAlive, g.victimTeamAlive) := by
    rw [hw.scenario]
    exact Impact.parseScenario?_scenarioText hk hv
  refine ⟨hparse, ?_⟩
  rw [hw.kill ht (number_settled _ config ▸ hrange g hg), Gunfight.contextByText_eq hparse]
  rfl

/-- Player 1 kills players 2 and 3, while player 4 lives: the second of them is the last of a side. -/
theorem impact_contexts_of_last_victim :
    ∃ (r : Report) (g : Gunfight),
      (({ config := {}, state := MatchState.new { mapName := "de_dust2" } {} } : Processor).run
        [⟨0, .playerConnect { id := 1, allegiance := .counterTerrorist, isAlive := true }⟩,
         ⟨0, .playerConnect { id := 2, allegiance := .terrorist, isAlive := true }⟩,
         ⟨0, .playerConnect { id := 3, allegiance := .terrorist, isAlive := true }⟩,
         ⟨0, .playerConnect { id := 4, allegiance := .counterTerrorist, isAlive := true }⟩, ⟨1, .roundStart⟩,
         ⟨90, .kill { killer := some { id := 1, allegiance := .counterTerrorist, isAlive := true }
                      victim := some { id := 2, allegiance := .terrorist }, weapon := some .glock }⟩,
         ⟨99, .kill { killer := some { id := 1, allegiance := .counterTerrorist, isAlive := true }
                      victim := some { id := 3, allegiance := .terrorist }, weapon := some .glock }⟩]).result = .ok r ∧
      r.gunfights[1]? = some g ∧ Impact.parseScenario? g.scenario = some (g.killerTeamAlive, g.victimTeamAlive) ∧
      g.impactContext = g.contextByCounts r.playerRounds ∧ g.contextByCounts r.playerRounds = .failedClutch := by
  have h : Fresh { mapName := "de_dust2" } {} _ := .default rfl
  obtain ⟨r, hr, hall⟩ := impact_contexts h
    [⟨0, .playerConnect { id := 1, allegiance := .counterTerrorist, isAlive := true }⟩,
     ⟨0, .playerConnect { id := 2, allegiance := .terrorist, isAlive := true }⟩,
     ⟨0, .playerConnect { id := 3, allegiance := .terrorist, isAlive := true }⟩,
     ⟨0, .playerConnect { id := 4, allegiance := .counterTerrorist, isAlive := true }⟩, ⟨1, .roundStart⟩,
     ⟨90, .kill { killer := some { id := 1, allegiance := .counterTerrorist, isAlive := true }
                  victim := some { id := 2, allegiance := .terrorist }, weapon := some .glock }⟩,
     ⟨99, .kill { killer := some { id := 1, allegiance := .counterTerrorist, isAlive := true }
                  victim := some { id := 3, allegiance := .terrorist }, weapon := some .glock }⟩]
  have hr' := hr
  rw [(h.run_ok _).1] at hr'
  cases hr'
  refine ⟨_, _, hr, List.getElem?_eq_getElem ?_, ?_⟩
  · decide +kernel
  · refine have hk := (hall _ (List.getElem_mem _)).2 ?_ ?_ ?_; ⟨hk.1, hk.2, ?_⟩
    · decide +kernel
    · decide +kernel
    · decide +kernel
    · decide +kernel

end Processor

end Scorebook
