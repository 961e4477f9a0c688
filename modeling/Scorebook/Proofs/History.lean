import Mathlib.Data.List.Induction
import Scorebook.Proofs.Stream
/-!
# What a match remembers of its stream

Some things that hold of a match are about the events behind it: which throw a record goes back to, whether a flash
has detonated twice.  `Since` says that such a thing happened and that nothing has undone it, `Fresh.traces` is the
induction on a stream that relates its events to the state they lead to, and `Reaches` gives every state of a match
the events that led to it.
-/
namespace Scorebook

namespace Event

/-- Whether the round in progress goes on after the event.  A new round does not continue it, and a match that starts
over does not either. -/
def continues : Event → Bool
  | .matchStart | .roundStart => false
  | _ => true

end Event

/-! ## What has happened, and has not been undone -/

/-- Something happened at an event of a stream, and every event since leaves it as it is. -/
def Since (kept : Event → Prop) (happens : List TimedEvent → TimedEvent → Prop) (events : List TimedEvent) : Prop :=
  ∃ before e later, events = before ++ e :: later ∧ happens before e ∧ ∀ x ∈ later, kept x.event

section Since

variable {kept : Event → Prop} {happens : List TimedEvent → TimedEvent → Prop} {events : List TimedEvent}

theorem not_since_nil : ¬ Since kept happens [] := by
  rintro ⟨before, e, later, he, -⟩
  cases before <;> cases he

/-- **After one more event, it has happened just now, or it had happened and the event keeps it.** -/
theorem since_concat {e : TimedEvent} :
    Since kept happens (events ++ [e]) ↔ happens events e ∨ Since kept happens events ∧ kept e.event := by
  constructor
  · rintro ⟨before, x, later, he, hx, hlater⟩
    rcases List.eq_nil_or_concat later with rfl | ⟨later, y, rfl⟩
    · obtain ⟨rfl, hlast⟩ := List.append_inj' he rfl
      cases hlast
      exact .inl hx
    · rw [List.concat_eq_append, ← List.cons_append, ← List.append_assoc] at he
      obtain ⟨rfl, hlast⟩ := List.append_inj' he rfl
      cases hlast
      rw [List.concat_eq_append] at hlater
      refine .inr ⟨⟨before, x, later, rfl, hx, fun z hz => hlater z (List.mem_append_left _ hz)⟩, ?_⟩
      exact hlater e (List.mem_append_right _ List.mem_cons_self)
  · rintro (hx | ⟨⟨before, x, later, rfl, hx, hlater⟩, he⟩)
    · exact ⟨events, e, [], rfl, hx, fun x hx => by cases hx⟩
    · refine ⟨before, x, later ++ [e], by simp, hx, fun y hy => ?_⟩
      rcases List.mem_append.1 hy with hy | hy
      · exact hlater y hy
      · rw [List.mem_singleton.1 hy]
        exact he

theorem Since.concat (h : Since kept happens events) {e : TimedEvent} (he : kept e.event) :
    Since kept happens (events ++ [e]) :=
  since_concat.2 (.inr ⟨h, he⟩)

end Since

namespace Processor

/-- The states in which a stream can leave a match: in progress after its last event, or closed. -/
inductive Reaches (p : Processor) (events : List TimedEvent) : Processor → Prop where
  | running : Reaches p events (p.after events)
  | closed : Reaches p events (p.after events).finalize.processor

theorem after_append (p : Processor) (before later : List TimedEvent) :
    p.after (before ++ later) = (p.after before).after later :=
  List.foldl_append

theorem after_concat (p : Processor) (events : List TimedEvent) (e : TimedEvent) :
    p.after (events ++ [e]) = ((p.after events).processEvent e).processor :=
  p.after_append events [e]

theorem follows_after (p : Processor) (events : List TimedEvent) : Follows p (p.after events) := by
  induction events using List.reverseRecOn with
  | nil => exact .refl
  | append_singleton events e ih =>
    rw [after_concat]
    exact ih.event e

theorem Follows.trans {p q r : Processor} (h : Follows p q) (h' : Follows q r) : Follows p r := by
  induction h' with
  | refl => exact h
  | event e _ ih => exact ih.event e
  | finalize _ ih => exact ih.finalize

namespace Fresh

variable {header : Header} {config : Config} {p q : Processor}

theorem after_concat_state (h : Fresh header config p) (events : List TimedEvent) (e : TimedEvent) :
    (p.after (events ++ [e])).state = (p.after events).state.next config e := by
  rw [h.after_state, h.after_state, List.foldl_append]
  rfl

/-- **Induction on a stream.**  What relates no events to the first state, and stays when one more event is processed,
relates every stream to the state that it leads to. -/
theorem traces (h : Fresh header config p) {P : List TimedEvent → MatchState → Prop}
    (hnew : P [] (MatchState.new header config))
    (hnext : ∀ events e, P events (p.after events).state → P (events ++ [e]) ((p.after events).state.next config e))
    (events : List TimedEvent) : P events (p.after events).state := by
  induction events using List.reverseRecOn with
  | nil =>
    rw [h.after_state]
    exact hnew
  | append_singleton events e ih =>
    rw [h.after_concat_state]
    exact hnext events e ih

theorem finalize_state (h : Fresh header config p) (events : List TimedEvent) :
    (p.after events).finalize.processor.state = closeState (p.after events).state config := by
  obtain ⟨_, hf, -⟩ := finalize_ok (h.after_reports events) (h.after_finalized events)
  rw [hf, h.after_config]

/-- **Every state of a match has a stream behind it.** -/
theorem reaches_of_follows (h : Fresh header config p) (hq : Follows p q) : ∃ events, Reaches p events q := by
  -- nothing is processed after the end, so that the events of a closed match are those before its end
  have hclosed (events : List TimedEvent) : (p.after events).finalize.processor.state.finalized = true := by
    rw [h.finalize_state]
    rfl
  induction hq with
  | refl => exact ⟨[], .running⟩
  | event e _ ih =>
    obtain ⟨events, hr⟩ := ih
    cases hr with
    | running =>
      rw [← after_concat]
      exact ⟨events ++ [e], .running⟩
    | closed =>
      rw [processEvent_finalized (hclosed events)]
      exact ⟨events, .closed⟩
  | finalize _ ih =>
    obtain ⟨events, hr⟩ := ih
    cases hr with
    | running => exact ⟨events, .closed⟩
    | closed =>
      rw [finalize_finalized (hclosed events)]
      exact ⟨events, .closed⟩

/-- A match that is not closed is in progress. -/
theorem running_of_follows (h : Fresh header config p) (hq : Follows p q) (hf : q.state.finalized = false) :
    ∃ events, q = p.after events := by
  obtain ⟨events, hr⟩ := h.reaches_of_follows hq
  cases hr with
  | running => exact ⟨events, rfl⟩
  | closed =>
    rw [h.finalize_state] at hf
    cases hf

/-- What a stream leads to, and closing a match keeps, holds of every state that the stream reaches. -/
theorem holds_of_reaches (h : Fresh header config p) {P : MatchState → Prop}
    (hclose : ∀ s, P s → P (closeState s config)) {events : List TimedEvent} (hp : P (p.after events).state)
    (hq : Reaches p events q) : P q.state := by
  cases hq with
  | running => exact hp
  | closed =>
    rw [h.finalize_state]
    exact hclose _ hp

end Fresh

end Processor

end Scorebook
