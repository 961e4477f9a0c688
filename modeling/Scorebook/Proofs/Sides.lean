import Scorebook.Proofs.Course
import Scorebook.Proofs.Registry
/-!
# Everybody plays on the side of the team

A record that names a player's team and the side that the player was on is a seat.  Seats are taken at different
times and from different tables, but each is taken in the round in progress, with team and side as they stand
(`Answer.seats`); and the sides of a round never change.  So all seats of a round agree with its marks
(`Report.SidesAgree`).
-/
namespace Scorebook

def Team.sideWith (a : Side) : Team → Side
  | .a => a
  | .b => a.opposite

theorem Teams.sideOf_eq (t : Teams) (team : Team) : t.sideOf team = team.sideWith t.sideOfA := by
  cases team <;> rfl

/-- What a record says of a player's team and side in a round. -/
structure Seat where
  round : Nat
  team : Option Team
  side : Option Side

/-- A seat has the side of its team, if it has both, while team A plays side `a`. -/
def Seat.Fits (x : Seat) (a : Side) : Prop := ∀ team ∈ x.team, ∀ side ∈ x.side, side = team.sideWith a

/-! ## The seats of records -/

def Gunfight.seats (g : Gunfight) : List Seat :=
  [⟨g.round, g.killer.team, g.killer.side⟩, ⟨g.round, g.victim.team, g.victim.side⟩]

def Damage.seats (d : Damage) : List Seat :=
  [⟨d.round, d.attackerTeam, d.attackerSide⟩, ⟨d.round, d.victimTeam, d.victimSide⟩]

def Throw.seat (t : Throw) : Seat := ⟨t.round, t.throwerTeam, t.throwerSide⟩

def Grenade.seat (g : Grenade) : Seat := ⟨g.round, g.throwerTeam, g.throwerSide⟩

def PlayerRound.seat (r : PlayerRound) : Seat := ⟨r.round, r.team, r.side⟩

def Report.seats (r : Report) : List Seat :=
  r.gunfights.flatMap (·.seats) ++ r.damages.flatMap (·.seats) ++ r.grenades.map (·.seat) ++
    r.playerRounds.map (·.seat)

/-- **One assignment of sides in every round.**  The marks of a round agree on the side of team A, every seat of the
round is on the side of its team, and the winner of the round is the team on the winning side. -/
structure Report.SidesAgree (r : Report) : Prop where
  marks : ∀ m ∈ r.marks, ∀ m' ∈ r.marks, m.round = m'.round → m.teamASide = m'.teamASide
  seats : ∀ x ∈ r.seats, ∀ m ∈ r.marks, m.round = x.round → x.Fits m.teamASide
  /-- No seat is left without a mark to agree with. -/
  started : ∀ x ∈ r.seats, ∃ m ∈ r.marks, m.kind = .start ∧ m.round = x.round
  winner : ∀ m ∈ r.marks, m.kind = .finish → ∀ side ∈ m.winnerSide,
    ∃ team, m.winnerTeam = some team ∧ (team = .a ↔ side = m.teamASide)

namespace Course

variable {k k' : Course}

/-! ## The marks of a round -/

/-- The marks of a round agree on its sides, those of the round in progress with the sides of the moment. -/
structure Steady (k : Course) : Prop extends Sound k where
  now : ∀ m ∈ k.marks, m.round = k.number → m.teamASide = k.sideOfA
  same : ∀ m ∈ k.marks, ∀ m' ∈ k.marks, m.round = m'.round → m.teamASide = m'.teamASide
  winner : ∀ m ∈ k.marks, m.kind = .finish → ∀ side ∈ m.winnerSide,
    ∃ team, m.winnerTeam = some team ∧ (team = .a ↔ side = m.teamASide)

theorem Steady.empty : Steady {} where
  toSound := .empty
  now m hm := by cases hm
  same m hm := by cases hm
  winner m hm := by cases hm

theorem onSide_eq_a (k : Course) (side : Side) : k.onSide side = .a ↔ side = k.sideOfA := by
  unfold onSide
  split
  · next h => simp [h]
  · next h => simp [Ne.symm h]

def TellsWinner (m : RoundMark) : Prop :=
  m.kind = .finish → ∀ side ∈ m.winnerSide, ∃ team, m.winnerTeam = some team ∧ (team = .a ↔ side = m.teamASide)

theorem Steady.addMark (h : Steady k) {q : Course} {m : RoundMark} (hmarks : q.marks = k.marks)
    (hq : (q.addMark m).Sound) (hnow : ∀ m ∈ k.marks, m.round = q.number → m.teamASide = q.sideOfA)
    (hr : m.round = q.number) (ha : m.teamASide = q.sideOfA) (hw : TellsWinner m) : Steady (q.addMark m) := by
  refine { hq with now := ?_, same := ?_, winner := ?_ }
  all_goals
    rw [Course.addMark, hmarks]
    intro m' hm'
  · intro hr'
    rcases List.mem_append.1 hm' with h' | h'
    · exact hnow m' h' hr'
    · rw [List.mem_singleton.1 h']
      exact ha
  · intro m'' hm'' he
    rcases List.mem_append.1 hm' with h' | h' <;> rcases List.mem_append.1 hm'' with h'' | h''
    · exact h.same m' h' m'' h'' he
    · rw [List.mem_singleton.1 h''] at he ⊢
      rw [ha, hnow m' h' (he.trans hr)]
    · rw [List.mem_singleton.1 h'] at he ⊢
      rw [ha, hnow m'' h'' (he.symm.trans hr)]
    · rw [List.mem_singleton.1 h', List.mem_singleton.1 h'']
  · intro hk
    rcases List.mem_append.1 hm' with h' | h'
    · exact h.winner m' h' hk
    · rw [List.mem_singleton.1 h'] at hk ⊢
      exact hw hk

theorem Steady.step (h : Steady k) (hs : k.Step k') : Steady k' := by
  have hsound := h.toSound.step hs
  cases hs with
  | stay => exact h
  | @start m hm =>
    refine h.addMark (q := k.begun) rfl hsound (fun m' hm' hr => ?_) hm.round hm.teamASide (fun hk => ?_)
    · have := (h.range m' hm').2
      have hr : m'.round = k.number + 1 := hr
      omega
    · rw [hm.kind] at hk
      cases hk
  | @finish m hl hm hw =>
    refine h.addMark (q := k.decided m.winnerSide) rfl hsound h.now hm.round hm.teamASide (fun _ side hsd => ?_)
    have ha : m.teamASide = k.sideOfA := hm.teamASide
    refine ⟨k.onSide side, ?_, ?_⟩
    · rw [hw, hsd]
      rfl
    · rw [ha, onSide_eq_a]
  | @note m kind ho hm hs hf =>
    refine h.addMark rfl hsound h.now hm.round hm.teamASide (fun hk => ?_)
    exact absurd (hm.kind.symm.trans hk) hf

def Seats (k : Course) (x : Seat) : Prop :=
  k.phase ≠ .notStarted ∧ x.round = k.number ∧ x.Fits k.sideOfA

/-- Seats that are in the rounds of a match and agree with all its marks. -/
structure Fits (k : Course) (seats : List Seat) : Prop where
  range : ∀ x ∈ seats, 1 ≤ x.round ∧ x.round ≤ k.number
  fits : ∀ x ∈ seats, ∀ m ∈ k.marks, m.round = x.round → x.Fits m.teamASide

/-- **Whatever a match does next, seats taken so far agree with its marks**: a new mark either belongs to the round
in progress, whose sides it tells, or to a round in which nobody has a seat. -/
theorem Fits.step {seats seats' : List Seat} (h : Fits k seats) (hk : Steady k) (hs : k.Step k')
    (hseats : ∀ x ∈ seats', x ∈ seats ∨ k.Seats x) : Fits k' seats' := by
  have hold : Fits k seats' := by
    constructor
    · intro x hx
      rcases hseats x hx with h' | ⟨ho, hr, -⟩
      · exact h.range x h'
      · rw [hr]
        exact ⟨hk.opened ho, Nat.le_refl _⟩
    · intro x hx m hm hr
      rcases hseats x hx with h' | ⟨-, hr', hf⟩
      · exact h.fits x h' m hm hr
      · rw [hk.now m hm (hr.trans hr')]
        exact hf
  have hnow : ∀ x ∈ seats', x.round = k.number → x.Fits k.sideOfA := by
    intro x hx hr
    have hx1 := (hold.range x hx).1
    rw [hr] at hx1
    obtain ⟨m, hm, -, hmr⟩ := hk.started k.number hx1 (Nat.le_refl _)
    rw [← hk.now m hm hmr]
    exact hold.fits x hx m hm (hmr.trans hr.symm)
  have hadd {q : Course} {m : RoundMark} (hmarks : q.marks = k.marks) (hle : k.number ≤ q.number)
      (hm : ∀ x ∈ seats', m.round = x.round → x.Fits m.teamASide) : Fits (q.addMark m) seats' := by
    refine ⟨fun x hx => ⟨(hold.range x hx).1, Nat.le_trans (hold.range x hx).2 hle⟩, fun x hx m' hm' => ?_⟩
    rw [addMark, hmarks] at hm'
    rcases List.mem_append.1 hm' with h' | h'
    · exact hold.fits x hx m' h'
    · rw [List.mem_singleton.1 h']
      exact hm x hx
  cases hs with
  | stay => exact hold
  | @start m hm =>
    refine hadd (q := k.begun) rfl (Nat.le_succ _) (fun x hx hr => ?_)
    have hm' : m.round = k.number + 1 := hm.round
    have := (hold.range x hx).2
    omega
  | @finish m hl hm hw =>
    refine hadd (q := k.decided m.winnerSide) rfl (Nat.le_refl _) (fun x hx hr => ?_)
    rw [hm.teamASide]
    exact hnow x hx (hr.symm.trans hm.round)
  | note ho hm hs hf =>
    refine hadd rfl (Nat.le_refl _) (fun x hx hr => ?_)
    rw [hm.teamASide]
    exact hnow x hx (hr.symm.trans hm.round)

end Course

namespace MatchState

/-- The seats of a match: those of its records, and those of the throws of which nothing is recorded yet. -/
def seats (s : MatchState) : List Seat :=
  (Report.ofState s).seats ++ s.tables.pendingThrows.values.map (·.seat) ++ s.tables.throws.values.map (·.seat)

variable {s s' : MatchState}

inductive HasSeat (s : MatchState) : Seat → Prop where
  | fought {g : Gunfight} {x : Seat} (hg : g ∈ s.gunfights) (hx : x ∈ g.seats) : HasSeat s x
  | hurt {d : Damage} {x : Seat} (hd : d ∈ s.damages) (hx : x ∈ d.seats) : HasSeat s x
  | detonated {g : Grenade} (hg : g ∈ s.grenades) : HasSeat s g.seat
  | played {r : PlayerRound} (hr : r ∈ s.playerRounds) : HasSeat s r.seat
  | fired {k : PlayerId × GrenadeKind} {t : Throw} (ht : s.tables.pendingThrows.get? k = some t) : HasSeat s t.seat
  | flying {entity : EntityId} {t : Throw} (ht : s.tables.throws.get? entity = some t) : HasSeat s t.seat

theorem mem_seats {x : Seat} : x ∈ s.seats ↔ s.HasSeat x := by
  simp only [seats, Report.seats, Report.ofState, List.mem_append, List.mem_flatMap, List.mem_map,
    Table.mem_values_iff]
  constructor
  · rintro (((((⟨g, hg, hx⟩ | ⟨d, hd, hx⟩) | ⟨g, hg, rfl⟩) | ⟨r, hr, rfl⟩) | ⟨t, ⟨k, ht⟩, rfl⟩) | ⟨t, ⟨k, ht⟩, rfl⟩)
    · exact .fought hg hx
    · exact .hurt hd hx
    · exact .detonated hg
    · exact .played hr
    · exact .fired ht
    · exact .flying ht
  · rintro (⟨hg, hx⟩ | ⟨hd, hx⟩ | hg | hr | ht | ht)
    · exact .inl (.inl (.inl (.inl (.inl ⟨_, hg, hx⟩))))
    · exact .inl (.inl (.inl (.inl (.inr ⟨_, hd, hx⟩))))
    · exact .inl (.inl (.inl (.inr ⟨_, hg, rfl⟩)))
    · exact .inl (.inl (.inr ⟨_, hr, rfl⟩))
    · exact .inl (.inr ⟨_, ⟨_, ht⟩, rfl⟩)
    · exact .inr ⟨_, ⟨_, ht⟩, rfl⟩

/-- What happens to a match takes no seats but in the round in progress. -/
def SeatsFrom (s s' : MatchState) : Prop := ∀ x, s'.HasSeat x → s.HasSeat x ∨ s.course.Seats x

theorem SeatsFrom.of_eq (h : s'.seats = s.seats) : SeatsFrom s s' := by
  intro x hx
  rw [← mem_seats, h, mem_seats] at hx
  exact .inl hx

theorem SeatsFrom.trans {s'' : MatchState} (h : SeatsFrom s s') (hc : s'.course = s.course)
    (h' : SeatsFrom s' s'') : SeatsFrom s s'' := by
  intro x hx
  rcases h' x hx with hx' | hx'
  · exact h x hx'
  · exact .inr (hc ▸ hx')

/-! ## Seats that are taken -/

theorem fits_side (s : MatchState) (round : Nat) (id : PlayerId) :
    Seat.Fits ⟨round, s.team? id, s.side? id⟩ s.course.sideOfA := by
  intro team ht side hs
  have ht : s.team? id = some team := ht
  have hs : s.side? id = some side := hs
  rw [side?_of_team ht, Teams.sideOf_eq] at hs
  exact (Option.some.inj hs).symm

theorem fits_actorSide (s : MatchState) (round : Nat) (a : Actor) :
    Seat.Fits ⟨round, s.team? a.id, s.actorSide? a⟩ s.course.sideOfA := by
  intro team ht side hs
  have ht : s.team? a.id = some team := ht
  have hs : s.actorSide? a = some side := hs
  rw [actorSide?, side?_of_team ht, Teams.sideOf_eq] at hs
  exact (Option.some.inj hs).symm

theorem seats_captureThrow (ho : s.round.isOpen = true) (a : Actor) (kind : GrenadeKind) (tick : Tick) :
    s.course.Seats (s.captureThrow a kind tick).seat :=
  ⟨phase_of_isOpen s ho, rfl, fits_actorSide s _ a⟩

/-! ## Operations that take no seat -/

theorem seats_observe (a : Actor) : (s.observe a).seats = s.seats := by
  rw [observe_eq]
  rfl

theorem seats_observeOptional (a : Option Actor) : (s.observeOptional a).seats = s.seats := by
  cases a with
  | none => rfl
  | some a => exact seats_observe a

theorem map_seat_of_origin {l l' : List Grenade} (h : l'.map Grenade.origin = l.map Grenade.origin) :
    l'.map Grenade.seat = l.map Grenade.seat := by
  have hf (l : List Grenade) : l.map Grenade.seat = (l.map Grenade.origin).map (fun o => o.2.seat) := by
    rw [List.map_map]
    rfl
  rw [hf, hf, h]

theorem FlashWork.seats_eq (h : FlashWork s s') : s'.seats = s.seats := by
  obtain ⟨flashes, pending, grenades, strayed, rfl, hg⟩ := h
  have := map_seat_of_origin hg
  simp only [seats, Report.seats, Report.ofState, this]

theorem seats_noteThrower (n : ProjectileNotice) (tick : Tick) : (s.noteThrower n tick).seats = s.seats := by
  rw [noteThrower_eq]
  rfl

/-! ## Operations that take seats -/

theorem seatsFrom_addGunfight {g : Gunfight} (hg : ∀ x ∈ g.seats, s.course.Seats x) :
    SeatsFrom s (s.addGunfight g) := by
  intro x hx
  cases hx with
  | fought hm hx =>
    rcases List.mem_append.1 hm with h' | h'
    · exact .inl (.fought h' hx)
    · rw [List.mem_singleton.1 h'] at hx
      exact .inr (hg x hx)
  | hurt hd hx => exact .inl (.hurt hd hx)
  | detonated hg => exact .inl (.detonated hg)
  | played hr => exact .inl (.played hr)
  | fired ht => exact .inl (.fired ht)
  | flying ht => exact .inl (.flying ht)

theorem seats_gunfightOf (ho : s.round.isOpen = true) (before : MatchState) (c : Config) (n : KillNotice)
    (killer victim : Actor) (weapon : Weapon) (tick : Tick) (flashAssister : Option PlayerId) :
    ∀ x ∈ (s.gunfightOf before c n killer victim weapon tick flashAssister).seats, s.course.Seats x := by
  intro x hx
  simp only [Gunfight.seats, List.mem_cons, List.not_mem_nil, or_false] at hx
  rcases hx with rfl | rfl
  · exact ⟨phase_of_isOpen s ho, rfl, fits_actorSide s _ killer⟩
  · exact ⟨phase_of_isOpen s ho, rfl, fits_actorSide s _ victim⟩

theorem seatsFrom_enterGunfight (ho : s.round.isOpen = true) (before : MatchState) (c : Config) (n : KillNotice)
    (killer victim : Actor) (weapon : Weapon) (tick : Tick) :
    SeatsFrom s (s.enterGunfight before c n killer victim weapon tick) := by
  rcases enterGunfight_cases s before c n killer victim weapon tick with ⟨-, hg⟩ | ⟨-, s', flashAssister, hw, hg⟩ <;>
    rw [hg]
  · exact seatsFrom_addGunfight (seats_gunfightOf ho _ _ _ _ _ _ _ _)
  · have ho' : s'.round.isOpen = true := by
      obtain ⟨_, _, _, _, rfl, -⟩ := hw
      exact ho
    refine (SeatsFrom.of_eq hw.seats_eq).trans hw.aside.course_eq ?_
    exact (seatsFrom_addGunfight (seats_gunfightOf ho' _ _ _ _ _ _ _ _)).trans rfl (.of_eq rfl)

theorem seatsFrom_enterDamage (ho : s.round.isOpen = true) (n : HurtNotice) (victim : Actor) (weapon : Weapon)
    (taken : Int) (tick : Tick) : SeatsFrom s (s.enterDamage n victim weapon taken tick) := by
  intro x hx
  cases hx with
  | hurt hd hx =>
    rcases List.mem_append.1 hd with h' | h'
    · exact .inl (.hurt h' hx)
    · rw [List.mem_singleton.1 h'] at hx
      simp only [Damage.seats, List.mem_cons, List.not_mem_nil, or_false] at hx
      refine .inr ⟨phase_of_isOpen s ho, ?_⟩
      rcases hx with rfl | rfl
      · refine ⟨rfl, ?_⟩
        cases n.attacker with
        | none => exact fun team ht => (by cases ht)
        | some a => exact fits_side s _ a.id
      · exact ⟨rfl, fits_side s _ victim.id⟩
  | fought hg hx => exact .inl (.fought hg hx)
  | detonated hg => exact .inl (.detonated hg)
  | played hr => exact .inl (.played hr)
  | fired ht => exact .inl (.fired ht)
  | flying ht => exact .inl (.flying ht)

theorem seatsFrom_fire (ho : s.round.isOpen = true) (a : Actor) (w : Weapon) (tick : Tick) :
    SeatsFrom s (s.fire a w tick) := by
  unfold fire
  split
  · next kind hk =>
    intro x hx
    cases hx with
    | @fired k t ht =>
      have ht : (s.tables.pendingThrows.insert (a.id, kind) (s.captureThrow a kind tick)).get? k = some t := ht
      rw [Table.get?_insert] at ht
      split at ht
      · cases ht
        exact .inr (seats_captureThrow ho a kind tick)
      · exact .inl (.fired ht)
    | fought hg hx => exact .inl (.fought hg hx)
    | hurt hd hx => exact .inl (.hurt hd hx)
    | detonated hg => exact .inl (.detonated hg)
    | played hr => exact .inl (.played hr)
    | flying ht => exact .inl (.flying ht)
  · split
    · exact .of_eq rfl
    · exact .of_eq rfl

theorem seatsFrom_bindThrow (ho : s.round.isOpen = true) (entity : EntityId) (a : Actor) (kind : GrenadeKind)
    (tick : Tick) : SeatsFrom s (s.bindThrow entity a kind tick) := by
  intro x hx
  cases hx with
  | @fired k t ht =>
    have ht : (s.tables.pendingThrows.erase (a.id, kind)).get? k = some t := ht
    rw [Table.get?_erase] at ht
    split at ht
    · cases ht
    · exact .inl (.fired ht)
  | @flying e t ht =>
    have ht : (s.tables.throws.insert entity ((s.tables.pendingThrows.get? (a.id, kind)).getD
      (s.captureThrow a kind tick))).get? e = some t := ht
    rw [Table.get?_insert] at ht
    split at ht
    · injection ht with ht
      cases hp : s.tables.pendingThrows.get? (a.id, kind) with
      | none =>
        rw [hp] at ht
        subst ht
        exact .inr (seats_captureThrow ho a kind tick)
      | some waiting =>
        rw [hp] at ht
        subst ht
        exact .inl (.fired hp)
    · exact .inl (.flying ht)
  | fought hg hx => exact .inl (.fought hg hx)
  | hurt hd hx => exact .inl (.hurt hd hx)
  | detonated hg => exact .inl (.detonated hg)
  | played hr => exact .inl (.played hr)

theorem seatsFrom_recordGrenade {n : ProjectileNotice} {thrown : Throw}
    (ht : s.tables.throws.get? n.entity = some thrown) (tick : Tick) :
    SeatsFrom s (s.recordGrenade n thrown tick) := by
  have hn := noteThrower_eq s n tick
  unfold recordGrenade
  rw [hn]
  intro x hx
  cases hx with
  | detonated hg =>
    rcases List.mem_append.1 hg with h' | h'
    · exact .inl (.detonated h')
    · rw [List.mem_singleton.1 h']
      exact .inl (.flying ht)
  | @flying e t h =>
    have h : (s.tables.throws.erase n.entity).get? e = some t := h
    rw [Table.get?_erase] at h
    split at h
    · cases h
    · exact .inl (.flying h)
  | fought hg hx => exact .inl (.fought hg hx)
  | hurt hd hx => exact .inl (.hurt hd hx)
  | played hr => exact .inl (.played hr)
  | fired ht => exact .inl (.fired ht)

/-- **The records of a round seat everybody on the roster's side**, which is that of the team. -/
theorem seats_roundRecords (hr : Registered s) (ho : s.round.isOpen = true) {c : Config} {r : PlayerRound}
    (hm : r ∈ s.roundRecords c) : s.course.Seats r.seat := by
  obtain ⟨p, -, rfl⟩ := List.mem_map.1 hm
  refine ⟨phase_of_isOpen s ho, rfl, fun team ht side hs => ?_⟩
  rw [hr.side hs ht, Teams.sideOf_eq]
  rfl

theorem seatsFrom_settled (hr : Registered s) (c : Config) : SeatsFrom s (s.settled c) := by
  unfold settled
  split
  · next ho =>
    rw [closeRound_eq]
    split
    · obtain ⟨gunfights, damages, grenades, hs, hg, hd, ht⟩ := settleRecords_eq s c s.round.number
      have hr' : Registered { s with gunfights, damages, grenades } :=
        hr.frame (fun _ => rfl) (fun _ => rfl) rfl rfl rfl
      rw [hs]
      intro x hx
      cases hx with
      | fought hm hx =>
        obtain ⟨g, hgm, hge⟩ := mem_of_map_eq hg hm
        have he := congrArg Gunfight.seats hge
        exact .inl (.fought hgm (he ▸ hx))
      | hurt hm hx =>
        obtain ⟨d, hdm, hde⟩ := mem_of_map_eq hd hm
        have he := congrArg Damage.seats hde
        exact .inl (.hurt hdm (he ▸ hx))
      | @detonated g' hm =>
        obtain ⟨g, hgm, hge⟩ := mem_of_map_eq ht hm
        have he : g.seat = g'.seat := congrArg (fun o : EntityId × Throw => o.2.seat) hge
        exact .inl (he ▸ .detonated hgm)
      | played hm =>
        rcases List.mem_append.1 hm with h' | h'
        · exact .inl (.played h')
        · exact .inr (seats_roundRecords hr' ho h')
      | fired ht => exact .inl (.fired ht)
      | flying ht => exact .inl (.flying ht)
    · exact .of_eq rfl
  · exact .of_eq rfl

theorem seatsFrom_opened (tick : Tick) : SeatsFrom s (s.opened tick) := by
  intro x hx
  cases hx with
  | fought hg hx => exact .inl (.fought hg hx)
  | hurt hd hx => exact .inl (.hurt hd hx)
  | detonated hg => exact .inl (.detonated hg)
  | played hr => exact .inl (.played hr)
  | fired ht => cases ht
  | flying ht => cases ht

/-- **Every answer of a match takes seats in the round in progress only.** -/
theorem Answer.seats {c : Config} {tick : Tick} {e : Event} {step : Step MatchState} (hr : Registered s)
    (h : Answer c s tick e step) : step.state = s.restart ∨ SeatsFrom s step.state := by
  have hopen {t : MatchState} (hc : t.course = s.course) (ho : s.round.isOpen = true) : t.round.isOpen = true := by
    have hp : t.round.phase = s.round.phase := congrArg Course.phase hc
    rw [Round.isOpen, hp]
    exact ho
  cases h with
  | restarted => exact .inl rfl
  | passed | idle | gone | left => exact .inr (.of_eq rfl)
  | begun =>
    exact .inr ((seatsFrom_settled hr c).trans (course_settled s c) (seatsFrom_opened tick))
  | thawed hl =>
    unfold recordFreezeEnd
    rw [if_pos hl]
    exact .inr (.of_eq rfl)
  | decided =>
    rw [decideRound_eq]
    exact .inr (.of_eq rfl)
  | died | weaponless | shown => exact .inr (.of_eq (seats_observe _))
  | @killed n killer victim weapon ho =>
    have hs : (((s.recordDeath victim (.killed killer.id) tick).observe killer)).seats = s.seats :=
      (seats_observe _).trans (seats_observe (s := s) victim)
    have hc : (((s.recordDeath victim (.killed killer.id) tick).observe killer)).course = s.course :=
      (course_observe _ _).trans (course_observe s victim)
    exact .inr ((SeatsFrom.of_eq hs).trans hc (seatsFrom_enterGunfight (hopen hc ho) _ _ _ _ _ _ _))
  | @hit n victim weapon ho =>
    have hs := (seats_observeOptional (s := s.observe victim) n.attacker).trans (seats_observe victim)
    have hc := (course_observeOptional (s.observe victim) n.attacker).trans (course_observe s victim)
    exact .inr ((SeatsFrom.of_eq hs).trans hc (seatsFrom_enterDamage (hopen hc ho) _ _ _ _ _))
  | fired ho =>
    exact .inr ((seatsFrom_fire ho _ _ tick).trans (aside_fire s _ _ _).course_eq (.of_eq (seats_observe _)))
  | thrown ho => exact .inr (seatsFrom_bindThrow ho _ _ _ tick)
  | unseen => exact .inr (.of_eq (seats_noteThrower _ _))
  | detonated ho he ht => exact .inr (seatsFrom_recordGrenade ht tick)
  | flashMoved => exact .inr (.of_eq (flashWork_moveFlash s _ _ _).seats_eq)
  | flashUnseen =>
    exact .inr (.of_eq ((flashWork_startFlash _ _ _ _ _ _).seats_eq.trans (seats_noteThrower _ _)))
  | flashStarted ho hn he ht =>
    exact .inr ((seatsFrom_recordGrenade ht tick).trans (aside_recordGrenade s _ _ _).course_eq
      (.of_eq (flashWork_startFlash _ _ _ _ _ _).seats_eq))
  | blinded => exact .inr (.of_eq (flashWork_placeBlinding _ _ _ _ _ _).seats_eq)
  | bombed => exact .inr (.of_eq (seats_observeOptional _))

structure Coherent (s : MatchState) : Prop where
  steady : s.course.Steady
  seated : s.course.Fits s.seats
  registered : s.Registered

theorem Coherent.new (header : Header) (c : Config) : Coherent (MatchState.new header c) where
  steady := .empty
  seated := ⟨fun x hx => (by cases hx), fun x hx => (by cases hx)⟩
  registered := .new header c

theorem Coherent.restart (h : Coherent s) : Coherent s.restart := by
  refine ⟨?_, ?_, h.registered.restart⟩
  all_goals
    unfold MatchState.restart
    split
  · exact h.steady
  · exact .empty
  · exact h.seated
  · exact ⟨fun x hx => (by cases hx), fun x hx => (by cases hx)⟩

theorem Coherent.kept (c : Config) : Kept c Coherent where
  clock _ _ h := ⟨h.steady, h.seated, h.registered.frame (fun _ => rfl) (fun _ => rfl) rfl rfl rfl⟩
  sights _ _ h := ⟨h.steady, h.seated, h.registered.frame (fun _ => rfl) (fun _ => rfl) rfl rfl rfl⟩
  answer {s _ _ step} ha h := by
    rcases ha.course with hr | hstep
    · rw [hr]
      exact h.restart
    · rcases ha.seats h.registered with hr | hseats
      · rw [hr]
        exact h.restart
      · refine ⟨h.steady.step hstep, h.seated.step h.steady hstep (fun x hx => ?_), h.registered.answer ha⟩
        rw [mem_seats] at hx ⊢
        exact hseats x hx

theorem sidesAgree_ofState (hm : s.course.Steady) (hs : s.course.Fits s.seats) :
    (Report.ofState s).SidesAgree := by
  have hmem {x : Seat} (hx : x ∈ (Report.ofState s).seats) : x ∈ s.seats :=
    List.mem_append_left _ (List.mem_append_left _ hx)
  refine ⟨hm.same, fun x hx => hs.fits x (hmem hx), fun x hx => ?_, hm.winner⟩
  obtain ⟨h1, hle⟩ := hs.range x (hmem hx)
  exact hm.started x.round h1 hle

theorem Coherent.settled (h : Coherent s) (c : Config) : Coherent (s.settled c) where
  steady := (course_settled s c).symm ▸ h.steady
  seated := by
    rw [course_settled]
    refine h.seated.step h.steady .stay (fun x hx => ?_)
    rw [mem_seats] at hx ⊢
    exact seatsFrom_settled h.registered c x hx
  registered := h.registered.settled c

theorem Coherent.closeState (h : Coherent s) (c : Config) :
    (Report.ofState (Processor.closeState s c)).SidesAgree := by
  have hs := h.settled c
  obtain ⟨_, hc⟩ := closeState_eq s c
  rw [hc]
  exact sidesAgree_ofState hs.steady hs.seated

end MatchState

namespace Processor

variable {header : Header} {config : Config} {p : Processor}

/-- **Everybody plays on the side of the team.**  In every state of a match and in its final report, the marks of a
round agree on the sides of the teams, and so does every record of the round. -/
theorem sides_agree (h : Fresh header config p) (events : List TimedEvent) :
    (Report.ofState (p.after events).state).SidesAgree ∧
      ∃ r, (p.run events).result = .ok r ∧ r.SidesAgree := by
  have hc := h.keeps_after (MatchState.Coherent.kept config) (.new header config) events
  exact ⟨MatchState.sidesAgree_ofState hc.steady hc.seated, _, (h.run_ok events).1, hc.closeState config⟩

/-- A kill after the end of a round, closed when the next round has started, is on the sides of its round. -/
theorem sides_agree_after_exit_frag :
    Fresh { mapName := "de_dust2" } {} { config := {}, state := MatchState.new { mapName := "de_dust2" } {} } ∧
      ∃ r, (({ config := {}, state := MatchState.new { mapName := "de_dust2" } {} } : Processor).run
        [⟨0, .roundStart⟩, ⟨64, .roundEnd { winner := some .ct, reason := .ctWin }⟩,
         ⟨70, .kill { killer := some { id := 1, allegiance := .counterTerrorist }
                      victim := some { id := 2, allegiance := .terrorist }, weapon := some .awp }⟩,
         ⟨128, .roundStart⟩]).result = .ok r ∧ r.SidesAgree :=
  ⟨.default rfl, (sides_agree (.default rfl) _).2⟩

end Processor

end Scorebook
