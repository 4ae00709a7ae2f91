import Mathlib.Data.List.Forall2
import SurfaceHost.Proofs.Script.Plays

/-!
# Replays

However the turns of the loop fall, playing a script comes to the same input calls as touching
the view directly, once for each touch in the script.  If the window is shown at the end, the
loop gets through everything that waits; if it is never shown, the engine is not called.
The play of a script as it is run, with its own turns, is one of those plays
(`exists_plays_play`).
-/

namespace SurfaceHost

/-- The phase that a written event names. -/
def Event.phase (e : Event) : Phase :=
  ([.down, .move, .up, .cancel].find? fun p => p.name == e.action).getD .unknown

/-- What an event of a script comes to without a window system: a view is touched at the
present time, or time passes. -/
def View.direct (v : View) (e : Event) : View :=
  if e.kind = "touch" then
    v.touch { phase := e.phase, x := e.x, y := e.y, pointer := e.pointer, time := v.eventTime }
  else if e.kind = "wait" then v.advance (Duration.ofMilliseconds e.ms).toInt
  else v

/-! ### Events and cues -/

theorem Event.phase_of_named? {e : Event} {phase : Phase} (h : Phase.named? e.action = some phase) :
  e.phase = phase ∧ phase ≠ .unknown
  := by
  unfold Phase.named? at h
  rw [Event.phase]
  split at h
  case h_5 => cases h
  all_goals
    rename_i haction
    obtain rfl := Option.some.inj h
    rw [haction]
    decide

/-- What the cue of an event is, by the kind of the event. -/
theorem Event.cue_cases {e : Event} {c : Cue} (h : e.cue = .ok c) :
  (e.kind = "touch" ∧ c = .touch e.phase e.x e.y e.pointer ∧ e.phase ≠ .unknown)
    ∨ (e.kind = "wait" ∧ c = .wait (Duration.ofMilliseconds e.ms))
    ∨ (e.kind = "visible" ∧ c = .visible)
    ∨ (e.kind = "hidden" ∧ c = .hidden)
    ∨ (e.kind = "size" ∧ c = .size e.width e.height)
    ∨ (e.kind = "paint" ∧ c = .paint)
  := by
  rw [Event.cue] at h
  split at h
  · rename_i hkind
    exact .inr (.inr (.inr (.inr (.inl ⟨hkind, (Except.ok.inj h).symm⟩))))
  · rename_i hkind
    exact .inr (.inr (.inl ⟨hkind, (Except.ok.inj h).symm⟩))
  · rename_i hkind
    exact .inr (.inr (.inr (.inl ⟨hkind, (Except.ok.inj h).symm⟩)))
  · rename_i hkind
    exact .inr (.inr (.inr (.inr (.inr ⟨hkind, (Except.ok.inj h).symm⟩))))
  · rename_i hkind
    exact .inr (.inl ⟨hkind, (Except.ok.inj h).symm⟩)
  · rename_i hkind
    split at h
    · rename_i phase hphase
      obtain ⟨rfl, hknown⟩ := Event.phase_of_named? hphase
      exact .inl ⟨hkind, (Except.ok.inj h).symm, hknown⟩
    · cases h
  · cases h

theorem Event.isKnown_of_cue {e : Event} {c : Cue} (h : e.cue = .ok c) :
  c.IsKnown
  := by
  obtain ⟨-, rfl, hknown⟩ | ⟨-, rfl⟩ | ⟨-, rfl⟩ | ⟨-, rfl⟩ | ⟨-, rfl⟩ | ⟨-, rfl⟩ :=
    Event.cue_cases h
  · apply hknown
  all_goals trivial

theorem Event.shown_of_cue {e : Event} {c : Cue} (h : e.cue = .ok c) (before : Bool) :
  c.shown before =
    if e.kind = "visible" then true else if e.kind = "hidden" then false else before
  := by
  obtain ⟨hkind, rfl, -⟩ | ⟨hkind, rfl⟩ | ⟨hkind, rfl⟩ | ⟨hkind, rfl⟩ | ⟨hkind, rfl⟩ | ⟨hkind, rfl⟩ :=
    Event.cue_cases h
  all_goals simp [hkind, Cue.shown]

/-- A script that is accepted has one cue for each event. -/
theorem Script.forall₂_of_cuesFrom {n : Nat} {events : List Event} {cues : List Cue}
    (h : cuesFrom n events = .ok cues) :
  List.Forall₂ (fun e c => e.cue = .ok c) events cues
  := by
  induction events generalizing n cues with
  | nil =>
    obtain rfl := Except.ok.inj h
    exact .nil
  | cons e rest ih =>
    rw [cuesFrom] at h
    split at h
    · cases h
    · rename_i c hc
      cases hrest : cuesFrom (n + 1) rest with
      | error cause =>
        rw [hrest] at h
        cases h
      | ok more =>
        rw [hrest] at h
        obtain rfl := Except.ok.inj h
        exact .cons hc (ih hrest)

section Forall₂

variable {events : List Event} {cues : List Cue}

theorem isKnown_of_forall₂ (h : List.Forall₂ (fun e c => Event.cue e = .ok c) events cues) :
  ∀ c ∈ cues, c.IsKnown
  := by
  induction h with
  | nil => simp
  | cons he h ih => exact List.forall_mem_cons.mpr ⟨Event.isKnown_of_cue he, ih⟩

theorem not_mem_visible_of_forall₂ (h : List.Forall₂ (fun e c => Event.cue e = .ok c) events cues)
    (hhidden : ∀ e ∈ events, e.kind ≠ "visible") :
  Cue.visible ∉ cues
  := by
  induction h with
  | nil => simp
  | @cons e c events cues he h ih =>
    obtain ⟨hne, hrest⟩ := List.forall_mem_cons.mp hhidden
    intro hmem
    rcases List.mem_cons.mp hmem with rfl | hmem
    · obtain ⟨-, hc, -⟩ | ⟨-, hc⟩ | ⟨hkind, -⟩ | ⟨-, hc⟩ | ⟨-, hc⟩ | ⟨-, hc⟩ :=
        Event.cue_cases he
      case inr.inr.inl => exact hne hkind
      all_goals cases hc
    · apply ih hrest hmem

end Forall₂

namespace View

variable {v w : View} {s : InputSide} {events : List Event} {cues : List Cue}

theorem received_direct (v : View) (e : Event) :
  (v.direct e).received = v.received
  := by
  rw [direct]
  split
  · apply (v.reaches_touch _).received_eq
  · split
    · apply (v.reaches_advance _).received_eq
    · rfl

/-- Touching a view directly shows what the cue of the event makes of its input side. -/
theorem Shows.direct (h : v.Shows s []) {e : Event} {c : Cue} (he : e.cue = .ok c) :
  (v.direct e).Shows (s.cue c) []
  := by
  rw [View.direct]
  obtain ⟨hkind, rfl, -⟩ | ⟨hkind, rfl⟩ | ⟨hkind, rfl⟩ | ⟨hkind, rfl⟩ | ⟨hkind, rfl⟩ | ⟨hkind, rfl⟩ :=
    Event.cue_cases he
  · rw [if_pos hkind]
    obtain rfl := h.input_eq
    apply h.touch
  · rw [if_neg (by simp [hkind]), if_pos hkind]
    apply h.advance
  all_goals
    rw [if_neg (by simp [hkind]), if_neg (by simp [hkind])]
    apply h

theorem Shows.foldl_direct (h : v.Shows s [])
    (hcues : List.Forall₂ (fun e c => Event.cue e = .ok c) events cues) :
  (events.foldl View.direct v).Shows (cues.foldl InputSide.cue s) []
    ∧ (events.foldl View.direct v).received = v.received
  := by
  induction hcues generalizing v s with
  | nil => exact ⟨h, rfl⟩
  | @cons e c events cues he hcues ih =>
    obtain ⟨hshows, hreceived⟩ := ih (h.direct he)
    exact ⟨hshows, hreceived.trans (v.received_direct e)⟩

theorem Shows.foldl_advance (h : v.Shows s []) (pauses : List Duration) :
  (pauses.foldl (fun v d => v.advance d.toInt) v).Shows
      ((pauses.map Cue.wait).foldl InputSide.cue s) []
    ∧ (pauses.foldl (fun v d => v.advance d.toInt) v).received = v.received
  := by
  induction pauses generalizing v s with
  | nil => exact ⟨h, rfl⟩
  | cons d rest ih =>
    obtain ⟨hshows, hreceived⟩ := ih (h.advance d.toInt)
    exact ⟨hshows, hreceived.trans (v.reaches_advance d.toInt).received_eq⟩

end View

theorem foldl_shown_wait (pauses : List Duration) (before : Bool) :
  (pauses.map Cue.wait).foldl Cue.shown before = before
  := by
  induction pauses with
  | nil => rfl
  | cons d rest ih => apply ih

/-- A window that no event hides stays shown. -/
theorem foldl_shown_of_not_hidden {events : List Event} {cues : List Cue}
    (hcues : List.Forall₂ (fun e c => Event.cue e = .ok c) events cues)
    (hhidden : ∀ e ∈ events, ¬ e.kind = "hidden") :
  cues.foldl Cue.shown true = true
  := by
  induction hcues with
  | nil => rfl
  | @cons e c events cues he hcues ih =>
    obtain ⟨hne, hrest⟩ := List.forall_mem_cons.mp hhidden
    rw [List.foldl_cons, Event.shown_of_cue he, if_neg hne, ite_self]
    apply ih hrest

/-- If the last event that shows or hides the window shows it, it is shown. -/
theorem foldl_shown_of_since {events : List Event} {cues : List Cue}
    (hcues : List.Forall₂ (fun e c => Event.cue e = .ok c) events cues)
    (h : Since (fun e : Event => e.kind = "visible") (fun e => e.kind = "hidden") events)
    (before : Bool) :
  cues.foldl Cue.shown before = true
  := by
  obtain ⟨front, e, back, rfl, hvisible, hhidden⟩ := h
  induction front generalizing cues before with
  | nil =>
    rw [List.nil_append] at hcues
    cases hcues with
    | cons he hrest =>
      rw [List.foldl_cons, Event.shown_of_cue he, if_pos hvisible]
      apply foldl_shown_of_not_hidden hrest hhidden
  | cons f front ih =>
    rw [List.cons_append] at hcues
    cases hcues with
    | cons he hrest => apply ih _ hrest

/-! ### The play of a script as it is run -/

namespace Script

open View

variable {s : InputSide} {p : Progress} {w : View} {cues : List Cue}

theorem Progress.plays_catchUp (h : Plays p.catchUp cues w) :
  Plays p.view cues w
  := by
  rw [catchUp] at h
  apply Plays.turn
  split at h
  · apply Plays.request
    apply Plays.turn h
  · apply h

/-- Turns let no time pass, unless there are tasks. -/
theorem now_turn {v : View} (h : v.Shows s []) :
  v.turn.1.now = v.now
  := (congrArg InputSide.now h.turn.1.input_eq).trans (congrArg InputSide.now h.input_eq).symm

theorem Progress.shows_catchUp (h : p.view.Shows s []) :
  p.catchUp.Shows s []
  := by
  rw [catchUp]
  split
  · exact (h.turn.1.setSurface _).turn.1
  · apply h.turn.1

theorem advance_eq_of_max {v : View} {a b : Int} (h : max a 0 = max b 0) :
  v.advance a = v.advance b
  := by
  rw [advance, advance, h]

theorem now_advance (v : View) (ns : Int) :
  (v.advance ns).now = v.now + max ns 0
  := by
  rw [advance_eq_fire]
  split
  · rw [fire]
    generalize Detector.fire _ _ = report
    obtain ⟨d, g⟩ := report
    rcases g with _ | _ | _ | _ | down
    · rfl
    · rfl
    · rfl
    · rfl
    · simp only [deliver]
      split
      · rfl
      · rfl
  · rfl

/-- What is left of a wait when a part of it has gone by. -/
theorem exists_rest {d : Duration} {a : Int} (ha : 0 ≤ a) (hle : a ≤ max d.toInt 0) :
  ∃ rest : Duration, rest.toInt = max d.toInt 0 - a
  := by
  have hlt := d.toInt_lt
  use Int64.ofInt (max d.toInt 0 - a)
  apply Int64.toInt_ofInt_of_le
  · omega
  · omega

/-- Waiting for a time is one way to play a wait. -/
theorem Progress.plays_passUntil (hp : p.view.Shows s []) {d : Duration}
    (h : Plays (p.passUntil (p.view.now + max d.toInt 0)).view cues w) :
  Plays p.view (.wait d :: cues) w
  := by
  have hcaught := shows_catchUp hp
  have hnow : p.view.now = p.catchUp.now :=
    (congrArg InputSide.now hp.input_eq).trans (congrArg InputSide.now hcaught.input_eq).symm
  apply plays_catchUp
  simp only [passUntil, Progress.turn, hnow] at h
  generalize p.catchUp = v at h hcaught
  have hspan (now m : Int) : now + m - now = m := by omega
  have hwhole : v.advance (v.now + max d.toInt 0 - v.now) = Cue.act v (.wait d) := by
    rw [hspan]
    apply advance_eq_of_max
    omega
  split at h
  · rename_i due hdue
    split at h
    · rename_i hle
      -- The alarm goes off on the way, and a turn is taken after it.
      have hwithin (now due m : Int) (hm : 0 ≤ m) (hle : due ≤ now + m) :
          0 ≤ max (due - now) 0 ∧ max (due - now) 0 ≤ m := by omega
      obtain ⟨hpos, hpart⟩ := hwithin v.now due (max d.toInt 0) (by omega) hle
      obtain ⟨rest, hrest⟩ := exists_rest hpos hpart
      apply Plays.part hpos
      · rw [hrest, Int.max_eq_left (Int.sub_nonneg_of_le hpart)]
        omega
      · rw [advance_eq_of_max (b := due - v.now) (by simp)]
        apply Plays.turn
        apply Plays.cue
        have hlater := now_turn (hcaught.advance (due - v.now))
        rw [now_advance] at hlater
        have hleft : v.now + max d.toInt 0 - (v.now + max (due - v.now) 0) = rest.toInt := by
          rw [hrest, Int.add_sub_add_left]
        rw [hlater, hleft] at h
        apply h
    · apply Plays.cue
      rw [← hwhole]
      apply h
  · apply Plays.cue
    rw [← hwhole]
    apply h

/-- What a step of the play makes of a cue is one way to play it. -/
theorem Progress.plays_cue (hp : p.view.Shows s []) (c : Cue) :
  ∃ q, p.cue none c = (q, none) ∧ ∀ {cues w}, Plays q.view cues w → Plays p.view (c :: cues) w
  := by
  cases c with
  | wait d => exact ⟨_, rfl, fun h => plays_passUntil hp h⟩
  | size | visible | hidden | paint | touch => exact ⟨_, rfl, fun h => .cue h⟩

theorem Progress.plays_feed (hp : p.view.Shows s []) (hcues : ∀ c ∈ cues, c.IsKnown) :
  ∃ q, p.feed none cues = (q, none)
    ∧ ∀ {more w}, Plays q.view more w → Plays p.view (cues ++ more) w
  := by
  induction cues generalizing p s with
  | nil => exact ⟨p, rfl, id⟩
  | cons c cues ih =>
    obtain ⟨hc, hrest⟩ := List.forall_mem_cons.mp hcues
    obtain ⟨q, hq, hplays⟩ := plays_cue hp c
    have hshows := (hplays (.done q.view)).shows (by simpa using hc) hp
    obtain ⟨q', hq', hplays'⟩ := ih hshows hrest
    refine ⟨q', ?_, fun h => hplays (hplays' h)⟩
    rw [feed, hq]
    apply hq'

/-- Waiting for the backlog comes to at most one more wait. -/
theorem Progress.plays_settled (hp : p.view.Shows s []) (d : Duration) :
  ∃ (q : Progress) (pauses : List Duration), pauses.length ≤ 1 ∧ p.settled none d = (q, none)
    ∧ ∀ {w}, Plays q.view [] w → Plays p.view (pauses.map .wait) w
  := by
  rw [settled]
  split
  · exact ⟨p, [], Nat.zero_le 1, rfl, id⟩
  · split
    · exact ⟨_, [tick], Nat.le_refl 1, rfl, fun h => plays_passUntil hp h⟩
    · exact ⟨_, [d], Nat.le_refl 1, rfl, fun h => plays_passUntil hp (.log h)⟩

theorem Progress.plays_finish (h : Plays p.finish cues w) :
  Plays p.view cues w
  := by
  rw [finish] at h
  split at h
  · apply Plays.turn h
  · apply h

/-- The play of a script as it is run is one of the plays with turns anywhere, if there is no
other loop.  The loop is stopped after it. -/
theorem exists_plays_play {v : View} (hv : v.Shows s []) (hstopped : v.surface.isRunning = false)
    (hcues : ∀ c ∈ cues, c.IsKnown) (settle : Duration) :
  ∃ (w : View) (pauses : List Duration), pauses.length ≤ 1 ∧ Plays v (cues ++ pauses.map .wait) w
    ∧ play v cues settle none = ({ w with surface := w.surface.stop }, none)
  := by
  have hstart : v.surface.start = .ok { v.surface with loop := .running false } := by
    rw [Surface.isRunning] at hstopped
    rw [Surface.start]
    split
    · rfl
    · rename_i hloop
      rw [hloop] at hstopped
      cases hstopped
  obtain ⟨p, hfeed, hplays⟩ :=
    Progress.plays_feed (p := ⟨{ v with surface := { v.surface with loop := .running false } }, false, 0⟩)
      (hv.setSurface _) hcues
  have hshows := (hplays (.done p.view)).shows (by simpa using hcues) (hv.setSurface _)
  obtain ⟨q, pauses, hone, hsettled, hpauses⟩ := Progress.plays_settled hshows settle
  refine ⟨q.finish, pauses, hone, ?_, ?_⟩
  · apply Plays.start hstart
    apply hplays
    apply hpauses
    apply Progress.plays_finish
    apply Plays.done
  · simp only [play, hstopped, Bool.false_eq_true, if_false, hfeed, hsettled, Option.map_none]

end Script

/-! ### Fidelity -/

/-- While the window is shown, nothing is left when no request is waiting. -/
theorem View.pending_eq_zero_of_follows {w : View} (hfollows : w.surface.Follows true)
    (hawake : w.Awake) (hidle : w.surface.requested = false) :
  w.pending = 0
  := by
  have hheard : ¬ (w.surface.created = true ∨ w.surface.lost = true) := by
    intro h
    rw [hawake.heard.target h] at hidle
    cases hidle
  obtain ⟨hcreated, hlost⟩ := not_or.mp hheard
  have hrunning : w.surface.isRunning = true := by
    by_contra h
    apply hcreated
    apply hfollows.stopped (Bool.not_eq_true _ ▸ h)
  have hloop : w.surface.loop = .running true := by
    have htarget := hfollows.running hrunning
    rw [Surface.hasTarget] at htarget
    split at htarget
    · cases htarget
    · rename_i ready hloop
      simp only [hcreated, hlost, Bool.false_or, Bool.not_false, Bool.and_true] at htarget
      rw [hloop, htarget]
  by_contra hpending
  rw [hawake.jobs hloop hpending] at hidle
  cases hidle

/-- However the turns of the loop fall, and whatever pauses follow, the input calls of a script
are those of touching a new view directly.  If the window was shown last, a loop that waits for no
request has nothing left to do.  If it was never shown, the engine is never called.  The play of
the script as it is run is one of these, with at most one pause. -/
theorem Script.replay_faithful (settings : Settings) (capabilities : Capabilities)
    (clockRate : Int) {script : Script} {cues : List Cue} (hcues : script.cues = .ok cues) :
  let v := View.new settings capabilities {} clockRate
  (∀ (pauses : List Duration) (w : View), Plays v (cues ++ pauses.map .wait) w →
    w.received.filter Call.isInput ++ w.queued =
        (pauses.foldl (fun v d => v.advance d.toInt) (script.events.foldl View.direct v)).queued
      ∧ (Since (fun e : Event => e.kind = "visible") (fun e => e.kind = "hidden") script.events →
          w.surface.requested = false → w.pending = 0)
      ∧ ((∀ e ∈ script.events, e.kind ≠ "visible") → w.received = []))
    ∧ ∃ (w : View) (pauses : List Duration), pauses.length ≤ 1
      ∧ Plays v (cues ++ pauses.map .wait) w
      ∧ Script.play v cues script.settle none = ({ w with surface := w.surface.stop }, none)
  := by
  intro v
  have hevents := Script.forall₂_of_cuesFrom hcues
  have hknown := isKnown_of_forall₂ hevents
  have hv : v.Shows v.input [] := View.shows_new settings capabilities {} clockRate
  refine ⟨?_, exists_plays_play hv rfl hknown script.settle⟩
  intro pauses w hplays
  have hwaits : ∀ c ∈ cues ++ pauses.map .wait, c.IsKnown :=
    List.forall_mem_append.mpr ⟨hknown, by simp [Cue.IsKnown]⟩
  have hw := hplays.shows hwaits hv
  have hfollows := hplays.follows hwaits hv Surface.follows_new
  rw [List.foldl_append] at hw hfollows
  refine ⟨?_, ?_, ?_⟩
  · obtain ⟨hdirect, hreceived⟩ := hv.foldl_direct hevents
    obtain ⟨hpaused, hreceived'⟩ := hdirect.foldl_advance pauses
    have heq := congrArg InputSide.calls (hw.input_eq.trans hpaused.input_eq.symm)
    simp only [View.input, hreceived', hreceived] at heq
    apply heq
  · intro hshown hidle
    rw [foldl_shown_of_since hevents hshown, foldl_shown_wait] at hfollows
    apply View.pending_eq_zero_of_follows hfollows _ hidle
    apply hplays.awake
    apply View.awake_of_idle Surface.heard_new hv.inOrder
    right
    intro h
    cases h
  · intro hhidden
    have hnever : Cue.visible ∉ cues ++ pauses.map .wait := by
      simpa using not_mem_visible_of_forall₂ hevents hhidden
    apply hplays.received_of_hidden hwaits hnever hv Surface.follows_new

/-- A press grows long while the window is hidden, and is cancelled.  The loop is started late,
and takes a turn in the midst of the wait. -/
theorem Script.replay_faithful_held :
  let script : Script :=
    { events :=
        [{ kind := "visible" },
          { kind := "touch", action := "down", x := 10, y := 20, pointer := 3 },
          { kind := "hidden" }, { kind := "wait", ms := 700 },
          { kind := "touch", action := "cancel", pointer := 3 }, { kind := "visible" }] }
  let v := View.new .default .all {} 1
  ∃ cues w, script.cues = .ok cues ∧ Plays v cues w ∧ w.pending = 0
    ∧ w.received.filter Call.isInput ++ w.queued = (script.events.foldl View.direct v).queued
  := by
  intro script v
  have hcues : script.cues =
      .ok [.visible, .touch .down 10 20 3, .hidden, .wait 700000000, .touch .cancel 0 0 3,
        .visible] := rfl
  let pressed := Cue.act (Cue.act v .visible) (.touch .down 10 20 3)
  let begun : View := { pressed with surface := { pressed.surface with loop := .running false } }
  let held := (Cue.act begun.turn.1 .hidden).advance 500000000
  let cancelled := Cue.act (Cue.act held.turn.1 (.wait 200000000)) (.touch .cancel 0 0 3)
  let w := (Cue.act cancelled .visible).turn.1
  have hparts : (500000000 : Int) + max (200000000 : Duration).toInt 0 =
      max (700000000 : Duration).toInt 0 := by decide
  have hplays : Plays v [.visible, .touch .down 10 20 3, .hidden, .wait 700000000,
      .touch .cancel 0 0 3, .visible] w := by
    apply Plays.cue
    apply Plays.cue
    apply Plays.start rfl
    apply Plays.turn
    apply Plays.cue
    apply Plays.part (a := 500000000) (by decide) hparts
    apply Plays.turn
    apply Plays.cue
    apply Plays.cue
    apply Plays.cue
    apply Plays.turn
    apply Plays.done
  have hidle : w.surface.requested = false := by decide +kernel
  obtain ⟨hcalls, hpending, -⟩ := (replay_faithful .default .all 1 hcues).1 [] w hplays
  have hshown : Since (fun e : Event => e.kind = "visible") (fun e => e.kind = "hidden")
      script.events :=
    ⟨script.events.take 5, { kind := "visible" }, [], rfl, rfl, by simp⟩
  exact ⟨_, w, hcues, hplays, hpending hshown hidle, hcalls⟩

end SurfaceHost
