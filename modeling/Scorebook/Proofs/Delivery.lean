import Mathlib.Data.List.Forall2
import Mathlib.Data.List.Nodup
import Scorebook.Delivery.Sending
import Scorebook.Proofs.Batching
/-!
# What a receiver gets

Whatever a receiver answers, the batches of a report reach it in order, each sent again only after a refusal, and
the first one that is refused as often as it may be sent is the last one it sees (`Goes`).  What it has accepted at
any moment is the beginning of the batches, and no batch is among them twice.
-/
namespace Scorebook

/-! ## The batches of a report -/

namespace Batch

/-- **The batches of a report are those of its eight collections, in order.** -/
theorem ofReport_eq (r : Report) (size : Nat) :
    ofReport r size =
      build .matches [r.summary.toJson] size ++ build .players (r.players.map PlayerEntry.toJson) size ++
        build .rounds (r.marks.map RoundMark.toJson) size ++ build .gunfights (r.gunfights.map Gunfight.toJson) size ++
        build .damages (r.damages.map Damage.toJson) size ++ build .grenades (r.grenades.map Grenade.toJson) size ++
        build .playerRounds (r.playerRounds.map PlayerRound.toJson) size ++
        build .playerMatches (r.playerMatches.map PlayerMatch.toJson) size := by
  simp only [ofReport, Collection.all, Report.records, List.flatMap_cons, List.flatMap_nil, List.append_nil,
    List.append_assoc]

theorem collection_of_mem_build {c : Collection} {records : List Json} {size : Nat} {b : Batch}
    (h : b ∈ build c records size) : b.collection = c := by
  obtain ⟨before, last, hbuild, hpartition⟩ := exists_partition_build c records size
  exact hpartition.collection b (hbuild ▸ h)

theorem map_index_build (c : Collection) (records : List Json) (size : Nat) :
    ∃ n, (build c records size).map (·.index) = List.range n := by
  obtain ⟨before, last, hbuild, hpartition⟩ := exists_partition_build c records size
  exact ⟨_, hbuild ▸ hpartition.index⟩

/-- **No two batches of a report have the same collection and the same index.** -/
theorem nodup_keys_ofReport (r : Report) (size : Nat) :
    ((ofReport r size).map (fun b => (b.collection, b.index))).Nodup := by
  have hall : Collection.all.Nodup := by decide
  rw [ofReport, List.map_flatMap, List.nodup_flatMap]
  refine ⟨fun c _ => ?_, hall.imp (fun {c c'} hne => ?_)⟩
  · obtain ⟨n, hn⟩ := map_index_build c (r.records c) size
    have hnodup : ((build c (r.records c) size).map (·.index)).Nodup := hn ▸ List.nodup_range
    rw [List.Nodup, List.pairwise_map] at hnodup ⊢
    exact hnodup.imp (fun hne heq => hne (congrArg Prod.snd heq))
  · intro key hkey hkey'
    obtain ⟨b, hb, rfl⟩ := List.mem_map.1 hkey
    obtain ⟨b', hb', heq⟩ := List.mem_map.1 hkey'
    have hc : b'.collection = b.collection := congrArg Prod.fst heq
    exact hne (collection_of_mem_build hb ▸ collection_of_mem_build hb' ▸ hc.symm)

end Batch

namespace Delivery

/-! ## One batch -/

/-- Every sending got the answer that the receiver gives after the sendings before it. -/
def Answered (receiver : Receiver) (sent : List Sending) : Prop :=
  ∀ before x, before ++ [x] <+: sent → x.refusal = receiver before x.batch

/-- The sendings of a batch that is refused for each of the reasons in turn. -/
def refusals (b : Batch) (reasons : List String) : List Sending := reasons.map (fun reason => ⟨b, some reason⟩)

/-- A batch is sent at most `limit` times, and every sending but the last one is refused. -/
def Served (limit : Nat) (b : Batch) (sendings : List Sending) : Prop :=
  ∃ reasons, reasons.length < limit ∧ sendings = refusals b reasons ++ [⟨b, none⟩]

/-- A batch is sent `limit` times and refused each time, the last time for `reason`. -/
def GivenUp (limit : Nat) (b : Batch) (reason : String) (sendings : List Sending) : Prop :=
  ∃ reasons, reasons.length + 1 = limit ∧ sendings = refusals b (reasons ++ [reason])

variable {receiver : Receiver} {sent : List Sending}

theorem Answered.nil : Answered receiver [] := by
  intro before x h
  simp at h

theorem Answered.concat (h : Answered receiver sent) (b : Batch) :
    Answered receiver (sent ++ [⟨b, receiver sent b⟩]) := by
  intro before x hx
  rcases List.prefix_concat_iff.1 hx with heq | hx
  · obtain ⟨rfl, heq⟩ := List.append_inj' heq rfl
    cases heq
    rfl
  · exact h before x hx

theorem Answered.send {b : Batch} :
    ∀ (again : Nat) {sent : List Sending}, Answered receiver sent → Answered receiver (send receiver b again sent).1
  | 0, _, h => h.concat b
  | again + 1, sent, h => by
    have hnext := h.concat b
    unfold Delivery.send
    split
    · next hanswer => exact hanswer ▸ hnext
    · next hanswer => exact Answered.send again (hanswer ▸ hnext)

/-- **A batch is sent until it is accepted, or until it has been refused once more than it is sent again.** -/
theorem send_cases (receiver : Receiver) (b : Batch) :
    ∀ (again : Nat) (sent : List Sending),
      (∃ sendings, Served (again + 1) b sendings ∧ send receiver b again sent = (sent ++ sendings, none)) ∨
        ∃ sendings reason, GivenUp (again + 1) b reason sendings ∧
          send receiver b again sent = (sent ++ sendings, some reason)
  | 0, sent => by
    unfold send
    cases receiver sent b with
    | none => exact .inl ⟨_, ⟨[], Nat.one_pos, rfl⟩, rfl⟩
    | some reason => exact .inr ⟨_, reason, ⟨[], rfl, rfl⟩, rfl⟩
  | again + 1, sent => by
    unfold send
    cases receiver sent b with
    | none => exact .inl ⟨_, ⟨[], Nat.succ_pos _, rfl⟩, rfl⟩
    | some first =>
      dsimp only
      rcases send_cases receiver b again (sent ++ [⟨b, some first⟩]) with
        ⟨_, ⟨reasons, hlen, rfl⟩, h⟩ | ⟨_, reason, ⟨reasons, hlen, rfl⟩, h⟩
      · refine .inl ⟨_, ⟨first :: reasons, Nat.succ_lt_succ hlen, rfl⟩, ?_⟩
        rw [h, List.append_assoc]
        rfl
      · refine .inr ⟨_, reason, ⟨first :: reasons, congrArg Nat.succ hlen, rfl⟩, ?_⟩
        rw [h, List.append_assoc]
        rfl

/-! ## What has been accepted -/

/-- The batches that the receiver has accepted, in the order in which it did. -/
def accepted (sent : List Sending) : List Batch :=
  sent.filterMap (fun x => if x.refusal.isNone then some x.batch else none)

@[simp] theorem accepted_append (xs ys : List Sending) : accepted (xs ++ ys) = accepted xs ++ accepted ys :=
  List.filterMap_append

@[simp] theorem accepted_refusals (b : Batch) (reasons : List String) : accepted (refusals b reasons) = [] := by
  rw [accepted, refusals, List.filterMap_map, List.filterMap_eq_nil_iff]
  intro reason _
  rfl

variable {limit : Nat} {b : Batch} {sendings : List Sending} {reason : String}

theorem Served.accepted_eq (h : Served limit b sendings) : accepted sendings = [b] := by
  obtain ⟨reasons, -, rfl⟩ := h
  rw [accepted_append, accepted_refusals]
  rfl

theorem GivenUp.accepted_eq (h : GivenUp limit b reason sendings) : accepted sendings = [] := by
  obtain ⟨reasons, -, rfl⟩ := h
  exact accepted_refusals b _

theorem accepted_flatten : ∀ {bs : List Batch} {parts : List (List Sending)},
    List.Forall₂ (Served limit) bs parts → accepted parts.flatten = bs
  | [], [], .nil => rfl
  | b :: bs, part :: parts, .cons h hs => by
    rw [List.flatten_cons, accepted_append, h.accepted_eq, accepted_flatten hs]
    rfl

/-! ## All batches -/

/-- **How a delivery of batches goes**: every batch is served in order, or the first one that is given up ends it. -/
inductive Goes (limit : Nat) (bs : List Batch) : List Sending → Except Fault Nat → Prop
  | served {parts : List (List Sending)} (h : List.Forall₂ (Served limit) bs parts) :
      Goes limit bs parts.flatten (.ok bs.length)
  | failed {before after : List Batch} {b : Batch} {parts : List (List Sending)} {last : List Sending} {reason : String}
      (split : bs = before ++ b :: after) (h : List.Forall₂ (Served limit) before parts)
      (refused : GivenUp limit b reason last) :
      Goes limit bs (parts.flatten ++ last) (.error (.deliveryFailed b.collection.name b.index limit reason))

namespace Goes

variable {bs : List Batch} {result : Except Fault Nat}

theorem cons (hserved : Served limit b sent) (h : Goes limit bs sendings result) :
    Goes limit (b :: bs) (sent ++ sendings) (result.map (1 + ·)) := by
  cases h with
  | @served parts hparts =>
    have hall : List.Forall₂ (Served limit) (b :: bs) (sent :: parts) := .cons hserved hparts
    rw [Except.map, Nat.add_comm, ← List.length_cons (a := b), ← List.flatten_cons]
    exact .served hall
  | @failed before after b' parts last reason split hparts hlast =>
    have hall : List.Forall₂ (Served limit) (b :: before) (sent :: parts) := .cons hserved hparts
    rw [← List.append_assoc, ← List.flatten_cons]
    exact .failed (congrArg (b :: ·) split) hall hlast

theorem accepted_prefix (h : Goes limit bs sendings result) : accepted sendings <+: bs := by
  cases h with
  | served hparts => exact accepted_flatten hparts ▸ List.prefix_rfl
  | failed split hparts hlast =>
    rw [accepted_append, accepted_flatten hparts, hlast.accepted_eq, List.append_nil, split]
    exact List.prefix_append _ _

/-- A delivery of different batches succeeds if and only if every one of them is accepted. -/
theorem ok_iff (h : Goes limit bs sendings result) (hnodup : bs.Nodup) :
    result = .ok bs.length ↔ ∀ b ∈ bs, b ∈ accepted sendings := by
  cases h with
  | served hparts => simp [accepted_flatten hparts]
  | @failed before after b parts last reason split hparts hlast =>
    have hnot : b ∉ accepted (parts.flatten ++ last) := by
      rw [accepted_append, accepted_flatten hparts, hlast.accepted_eq, List.append_nil]
      rw [split, List.nodup_append] at hnodup
      exact fun hmem => hnodup.2.2 b hmem b List.mem_cons_self rfl
    have hmem : b ∈ bs := split ▸ List.mem_append_right _ List.mem_cons_self
    exact ⟨fun heq => absurd heq (by simp), fun hall => absurd (hall b hmem) hnot⟩

end Goes

variable {p : RetryPolicy}

theorem Answered.sendAll : ∀ (bs : List Batch) {sent : List Sending} (n : Nat), Answered receiver sent →
    Answered receiver (sendAll receiver p bs sent n).sendings
  | [], _, _, h => h
  | b :: bs, sent, n, h => by
    have hsent : Answered receiver (Delivery.send receiver b (Delivery.limit p - 1) sent).1 := h.send _
    unfold Delivery.sendAll
    split
    · next heq =>
      rw [heq] at hsent
      exact Answered.sendAll bs (n + 1) hsent
    · next heq =>
      rw [heq] at hsent
      exact hsent

theorem limit_pos (p : RetryPolicy) : 0 < Delivery.limit p := Nat.lt_of_lt_of_le Nat.one_pos (Nat.le_max_right ..)

/-- **The batches still to send go their way after those already sent.** -/
theorem sendAll_goes (receiver : Receiver) (p : RetryPolicy) :
    ∀ (bs : List Batch) (sent : List Sending) (n : Nat), ∃ sendings result,
      Goes (Delivery.limit p) bs sendings result ∧
        sendAll receiver p bs sent n = ⟨sent ++ sendings, result.map (n + ·)⟩
  | [], sent, n => ⟨[], .ok 0, .served .nil, by rw [List.append_nil]; rfl⟩
  | b :: bs, sent, n => by
    have hlimit : Delivery.limit p - 1 + 1 = Delivery.limit p := Nat.sub_add_cancel (limit_pos p)
    unfold sendAll
    rcases send_cases receiver b (Delivery.limit p - 1) sent with ⟨first, hfirst, h⟩ | ⟨first, reason, hfirst, h⟩
    · rw [hlimit] at hfirst
      obtain ⟨sendings, result, hgoes, heq⟩ := sendAll_goes receiver p bs (sent ++ first) (n + 1)
      refine ⟨_, _, hgoes.cons hfirst, ?_⟩
      rw [h]
      dsimp only
      rw [heq, List.append_assoc]
      cases result <;> simp [Except.map, Nat.add_assoc]
    · rw [hlimit] at hfirst
      rw [h]
      have hnone : List.Forall₂ (Served (Delivery.limit p)) [] [] := .nil
      exact ⟨first, _, .failed rfl hnone hfirst, rfl⟩

/-- **A report is delivered in order and exactly once.**  Whatever the receiver answers: the batches of the match, the
players, the rounds, the gunfights, the damages, the grenades, the player rounds and the player matches are served in
this order up to the first one that is given up, which ends the delivery and is named by the fault; the delivery succeeds
if and only if all of them are accepted; and what is accepted at any moment is the beginning of the batches, without
repetition. -/
theorem ofReport_goes (r : Report) (receiver : Receiver) (size : Nat) (p : RetryPolicy) :
    let bs :=
      Batch.build .matches [r.summary.toJson] size ++ Batch.build .players (r.players.map PlayerEntry.toJson) size ++
        Batch.build .rounds (r.marks.map RoundMark.toJson) size ++
        Batch.build .gunfights (r.gunfights.map Gunfight.toJson) size ++
        Batch.build .damages (r.damages.map Damage.toJson) size ++
        Batch.build .grenades (r.grenades.map Grenade.toJson) size ++
        Batch.build .playerRounds (r.playerRounds.map PlayerRound.toJson) size ++
        Batch.build .playerMatches (r.playerMatches.map PlayerMatch.toJson) size
    let d := ofReport r receiver size p
    Answered receiver d.sendings ∧ Goes (max p.attempts 1) bs d.sendings d.result ∧
      (d.result = .ok bs.length ↔ ∀ b ∈ bs, b ∈ accepted d.sendings) ∧
      bs.Nodup ∧ ∀ sent, sent <+: d.sendings → accepted sent <+: bs ∧ (accepted sent).Nodup := by
  intro bs d
  have hbs : Batch.ofReport r size = bs := Batch.ofReport_eq r size
  have hnodup : bs.Nodup := hbs ▸ (Batch.nodup_keys_ofReport r size).of_map _
  obtain ⟨sendings, result, hgoes, heq⟩ := sendAll_goes receiver p bs [] 0
  have hresult : result.map (0 + ·) = result := by cases result <;> simp [Except.map]
  have hd : d = ⟨sendings, result⟩ := by
    show sendAll receiver p (Batch.ofReport r size) [] 0 = _
    rw [hbs, heq, hresult]
    rfl
  rw [hd]
  refine ⟨?_, hgoes, hgoes.ok_iff hnodup, hnodup, fun sent hsent => ?_⟩
  · have h : Answered receiver (sendAll receiver p bs [] 0).sendings := .sendAll bs 0 .nil
    rw [heq] at h
    exact h
  · have hbeginning : accepted sent <+: bs := (hsent.filterMap _).trans hgoes.accepted_prefix
    exact ⟨hbeginning, hnodup.sublist hbeginning.sublist⟩

/-- Three players are sent in batches of two, and nothing else is recorded of the match.  A receiver that refuses the
second sending gets the batch that it refused again, and accepts nine batches; one that refuses the third as well is sent
nothing more. -/
theorem ofReport_goes_past_refusal :
    let fox : PlayerEntry := { player := 1, name := "fox", team := some .a, connected := true }
    let hare : PlayerEntry := { player := 2, name := "hare", team := some .b, connected := true }
    let owl : PlayerEntry := { player := 3, name := "owl", team := none, connected := false }
    let r : Report :=
      { summary := { mapName := "de_dust2", serverName := "", gameMode := .other, mapType := .defusal, tickRate := 64
                     roundsPlayed := 0, teamAScore := 0, teamBScore := 0, winner := none }
        players := [fox, hare, owl], marks := [], gunfights := [], damages := [], grenades := [], playerRounds := []
        playerMatches := [] }
    let refusing (last : Nat) : Receiver :=
      fun sent _ => if 1 ≤ sent.length && sent.length ≤ last then some "busy" else none
    let summary : Batch := ⟨.matches, 0, true, [.ofJson r.summary.toJson]⟩
    let first : Batch := ⟨.players, 0, false, [.ofJson fox.toJson, .ofJson hare.toJson]⟩
    let second : Batch := ⟨.players, 1, true, [.ofJson owl.toJson]⟩
    let rest : List Batch :=
      [second, ⟨.rounds, 0, true, []⟩, ⟨.gunfights, 0, true, []⟩, ⟨.damages, 0, true, []⟩, ⟨.grenades, 0, true, []⟩,
       ⟨.playerRounds, 0, true, []⟩, ⟨.playerMatches, 0, true, []⟩]
    let sendings : List Sending :=
      ⟨summary, none⟩ :: ⟨first, some "busy"⟩ :: ⟨first, none⟩ :: rest.map (⟨·, none⟩)
    ofReport r (refusing 1) 2 { attempts := 2 } = ⟨sendings, .ok 9⟩ ∧
      ofReport r (refusing 2) 2 { attempts := 2 } =
        ⟨[⟨summary, none⟩, ⟨first, some "busy"⟩, ⟨first, some "busy"⟩],
         .error (.deliveryFailed "players" 0 2 "busy")⟩ ∧
      Answered (refusing 1) sendings ∧ Goes 2 (summary :: first :: rest) sendings (.ok 9) := by
  intro fox hare owl r refusing summary first second rest sendings
  have hbs : Batch.ofReport r 2 = summary :: first :: rest := by
    simp [Batch.ofReport_eq, Batch.build, Batch.chunks, Batch.pieces, r, summary, first, second, rest]
  have hsent : ofReport r (refusing 1) 2 { attempts := 2 } = ⟨sendings, .ok 9⟩ := by
    rw [ofReport, hbs]
    rfl
  have hgiven : ofReport r (refusing 2) 2 { attempts := 2 } =
      ⟨[⟨summary, none⟩, ⟨first, some "busy"⟩, ⟨first, some "busy"⟩], .error (.deliveryFailed "players" 0 2 "busy")⟩ := by
    rw [ofReport, hbs]
    rfl
  obtain ⟨hanswered, hgoes, -⟩ := ofReport_goes r (refusing 1) 2 { attempts := 2 }
  rw [← Batch.ofReport_eq, hbs, hsent] at hgoes
  rw [hsent] at hanswered
  exact ⟨hsent, hgiven, hanswered, hgoes⟩

end Delivery

end Scorebook
