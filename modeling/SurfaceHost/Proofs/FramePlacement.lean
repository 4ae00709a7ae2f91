import SurfaceHost.Proofs.View.Run

/-!
# The placement of frames

Frames can be placed anywhere between the events of a run: once everything is drawn, the
engine has received the same input calls.  What an event leads to waits in order behind
what was there before, and only a turn that draws calls the engine: it makes the waiting
calls after the set-up of the surface and before the frame.
-/

namespace SurfaceHost

namespace InputSide

/-- Input calls are only ever added. -/
theorem exists_added_touch (s : InputSide) (e : Motion) :
  ∃ added, (s.touch e).calls = s.calls ++ added
  := by
  obtain hcancel | ⟨hcounts, hp⟩ | ⟨hcounts, hp⟩ | ⟨hcancel, hcounts⟩ := s.touch_cases e
  · rw [touch_of_cancel hcancel]
    exact ⟨_, rfl⟩
  · exact ⟨_, calls_of_primary hcounts hp⟩
  · exact ⟨_, calls_of_secondary hcounts hp⟩
  · rw [touch_of_not_counts hcancel hcounts]
    exact ⟨[], by simp⟩

theorem exists_added_act (s : InputSide) (a : View.Act) :
  ∃ added, (s.act a).calls = s.calls ++ added
  := by
  cases a with
  | alarm generation => exact ⟨_, rfl⟩
  | step st =>
    cases st with
    | start | frame | stop => exact ⟨[], by simp [InputSide.act]⟩
    | host st =>
      cases st with
      | touch => apply exists_added_touch
      | send e =>
        cases e with
        | touch => apply exists_added_touch
        | lifecycle | size | paint | other => exact ⟨[], by simp [InputSide.act, perform]⟩
      | advance ns =>
        simp only [InputSide.act, perform, advance]
        split
        · exact ⟨_, rfl⟩
        · exact ⟨[], by simp⟩
      | post | postNone | fail | look => exact ⟨[], by simp [InputSide.act, perform]⟩

end InputSide

namespace View

variable {v : View} {s : InputSide}

/-- The input calls that the engine has received when none are waiting. -/
theorem Shows.received_of_queued_eq_nil {bodies : List (List HostStep)} (h : v.Shows s bodies)
    (hqueued : v.queued = []) :
  v.received.filter Call.isInput = s.calls
  := by
  rw [h.calls_eq, calls, hqueued, List.append_nil]

/-- Whatever is not a turn that draws leaves the engine alone, and adds input calls only
behind those that wait. -/
theorem Shows.act_of_not_drawn (h : v.Shows s []) {a : Act} (ha : a.isPlain = true)
    (hdrawn : ¬ (a = .step .frame ∧ v.turn.2 = .drawn)) :
  (v.act a).received = v.received ∧ ∃ added, (v.act a).queued = v.queued ++ added
  := by
  have hreceived : (v.act a).received = v.received := by
    cases a with
    | alarm generation => apply (Elementary.fire generation).received_eq
    | step st =>
      cases st with
      | host st => apply (v.reaches_perform st).received_eq
      | start =>
        obtain ⟨surface, heq⟩ := v.step_loop_eq (.inl rfl)
        rw [View.act, heq]
        rfl
      | stop =>
        obtain ⟨surface, heq⟩ := v.step_loop_eq (.inr rfl)
        rw [View.act, heq]
        rfl
      | frame =>
        have hne : v.turn.2 ≠ .drawn := fun hturn => hdrawn ⟨rfl, hturn⟩
        rw [View.act, step_frame, (h.turn_of_not_drawn hne).1]
  use hreceived
  obtain ⟨added, hadded⟩ := s.exists_added_act a
  exact ⟨added, h.queued_append (h.act ha) hreceived hadded⟩

/-- The same events lead to the same input calls, wherever frames are placed between them,
once a turn has drawn.  A turn that draws makes the calls of a frame and leaves none
waiting; nothing else calls the engine, and input calls wait in the order in which they
came about. -/
theorem received_of_same_events (settings : Settings) (capabilities : Capabilities)
    (surface : Surface) (clockRate : Int) (acts others : List Act)
    (hplain : ∀ a ∈ acts, a.isPlain = true)
    (hevents : others.filter Act.isEvent = acts.filter Act.isEvent) :
  let v := (new settings capabilities surface clockRate).after acts
  let w := (new settings capabilities surface clockRate).after others
  (v.turn.2 = .drawn → w.turn.2 = .drawn →
      w.turn.1.received.filter Call.isInput = v.turn.1.received.filter Call.isInput)
    ∧ (v.turn.2 = .drawn →
        v.turn.1.queued = [] ∧ ∃ made, v.FrameCalls made ∧ v.turn.1.received = v.received ++ made)
    ∧ (∀ c ∈ v.queued, c.isInput = true)
    ∧ ∀ a : Act, a.isPlain = true → ¬ (a = .step .frame ∧ v.turn.2 = .drawn) →
        (v.act a).received = v.received ∧ ∃ added, (v.act a).queued = v.queued ++ added
  := by
  intro v w
  have hnew := shows_new settings capabilities surface clockRate
  have hv := hnew.after hplain
  have hw := hnew.after (Act.isPlain_of_filter_eq hplain hevents)
  rw [← InputSide.after_filter_isEvent, hevents, InputSide.after_filter_isEvent] at hw
  refine ⟨?_, hv.turn_of_drawn, hv.queued_isInput, ?_⟩
  · intro hvdrawn hwdrawn
    -- Both views show the same input side, and neither has calls waiting after the turn.
    rw [hv.turn.1.received_of_queued_eq_nil (hv.turn_of_drawn hvdrawn).1,
      hw.turn.1.received_of_queued_eq_nil (hw.turn_of_drawn hwdrawn).1]
  · intro a ha hdrawn
    apply hv.act_of_not_drawn ha hdrawn

/-- A scroll is drawn in one go, or with a turn before the window is shown and with a frame
after its down. -/
theorem received_of_same_events_scroll :
  let acts : List Act :=
    [.step .start, .step (.host (.send .paint)), .step (.host (.send (.lifecycle 0 3))),
      .step (.host (.touch .down 10 20 7 none)), .step (.host (.touch .move 90 40 7 none))]
  let others : List Act :=
    [.step .start, .step (.host (.send .paint)), .step .frame,
      .step (.host (.send (.lifecycle 0 3))), .step (.host (.touch .down 10 20 7 none)), .step .frame,
      .step (.host (.touch .move 90 40 7 none))]
  let v := (new Settings.default Capabilities.all {} 1).after acts
  let w := (new Settings.default Capabilities.all {} 1).after others
  (∀ a ∈ acts, a.isPlain = true)
    ∧ others.filter Act.isEvent = acts.filter Act.isEvent
    ∧ v.turn.2 = .drawn ∧ w.turn.2 = .drawn
    ∧ w.turn.1.received.filter Call.isInput = v.turn.1.received.filter Call.isInput
  := by
  intro acts others v w
  have hplain : ∀ a ∈ acts, a.isPlain = true := by simp [acts, Act.isPlain]
  have hevents : others.filter Act.isEvent = acts.filter Act.isEvent := rfl
  have hv : v.turn.2 = .drawn := by decide +kernel
  have hw : w.turn.2 = .drawn := by decide +kernel
  have h := received_of_same_events Settings.default Capabilities.all {} 1 acts others hplain hevents
  exact ⟨hplain, hevents, hv, hw, h.1 hv hw⟩

end View

end SurfaceHost
