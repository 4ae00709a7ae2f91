import SurfaceHost.Proofs.KineticScroll
import SurfaceHost.Proofs.RenderRequests
import SurfaceHost.Script.Play

/-!
# Plays with turns anywhere

`Plays v cues w` says that handing cues to the view `v` leads to the view `w`, while the loop
of the view is started and takes its turns at any time, also in the midst of a wait.

Whenever the turns are taken, the cues make the same of the input side (`Plays.shows`), and
the next turn finds something to draw on exactly if the window was shown last
(`Plays.follows`).
-/

namespace SurfaceHost

/-! ### Time that passes in parts -/

namespace InputSide

variable {s : InputSide}

theorem alarm_fire (d : Detector) (generation : UInt64) :
  (d.fire generation).1.alarm = d.alarm
  := by
  rw [Detector.fire]
  split
  · split
    · rfl
    · rfl
  · rfl

/-- It does not matter to an input side whether time passes at once or in two parts. -/
theorem advance_add (s : InputSide) {a b : Int} (ha : 0 ≤ a) (hb : 0 ≤ b) :
  (s.advance a).advance b = s.advance (a + b)
  := by
  have hsum (now : Int) : now + max a 0 + max b 0 = now + max (a + b) 0 := by omega
  have hle (now : Int) : now + max a 0 ≤ now + max (a + b) 0 := by omega
  have hnow := hsum s.now
  by_cases hdue : s.detector.alarm.any (· ≤ s.now + max a 0) = true
  · have hlater : s.detector.alarm.any (· ≤ s.now + max (a + b) 0) = true := by
      rw [Option.any_eq_true] at hdue ⊢
      obtain ⟨due, halarm, hdue⟩ := hdue
      refine ⟨due, halarm, ?_⟩
      simp only [decide_eq_true_eq] at hdue ⊢
      apply Int.le_trans hdue (hle s.now)
    rw [advance_of_due hdue, advance_of_due hlater, advance_of_not_due]
    · simp only [fire, add, hnow]
    · simp [fire, add, alarm_fire]
  · rw [advance_of_not_due hdue]
    by_cases hlater : s.detector.alarm.any (· ≤ s.now + max (a + b) 0) = true
    · rw [advance_of_due hlater, advance_of_due (by simpa only [hnow] using hlater)]
      simp only [hnow]
    · rw [advance_of_not_due hlater, advance_of_not_due (by simpa only [hnow] using hlater)]
      simp only [hnow]

/-- Time does not run backwards. -/
theorem advance_max (s : InputSide) (ns : Int) :
  s.advance (max ns 0) = s.advance ns
  := by
  have hmax : max (max ns 0) 0 = max ns 0 := by omega
  simp only [advance, hmax]

/-- A cancel is the same at all times. -/
theorem touch_of_cancel_eq {e e' : Motion} (he : e.phase = .cancel) (he' : e'.phase = .cancel) :
  s.touch e = s.touch e'
  := by
  have hdetector (d : Detector) (now : Instant) : (d.touch now e).1 = (d.touch now e').1 := by
    simp only [Detector.touch, he, he']
  rw [touch_of_cancel he, touch_of_cancel he', cancel, cancel, hdetector]

/-- What a cue makes of an input side: a touch is taken in as what it is, at the present
time. -/
def cue (s : InputSide) : Cue → InputSide
  | .touch phase x y pointer => s.touch { phase, x, y, pointer, time := s.now * s.clockRate }
  | .wait d => s.advance d.toInt
  | .size _ _ | .visible | .hidden | .paint => s

end InputSide

/-- Whether a cue is one that a script can give: it is not unknown what a finger does. -/
def Cue.IsKnown : Cue → Prop
  | .touch phase _ _ _ => phase ≠ .unknown
  | .size _ _ | .visible | .hidden | .paint | .wait _ => True

/-- Whether a window that was shown before is shown after a cue. -/
def Cue.shown (before : Bool) : Cue → Bool
  | .visible => true
  | .hidden => false
  | .size _ _ | .paint | .touch _ _ _ _ | .wait _ => before

/-! ### Surfaces that follow the window -/

namespace Surface

variable {s s' : Surface} {shown : Bool}

/-- The surface knows whether the window is shown: a running loop finds something to draw on
exactly then, and while there is no loop, a creation is pending exactly then. -/
structure Follows (shown : Bool) (s : Surface) : Prop where
  running : s.isRunning = true → s.hasTarget = shown
  stopped : s.isRunning = false → s.created = shown

theorem follows_new :
  Follows false {}
  := ⟨by decide, by decide⟩

/-- A request or a size says nothing about the window. -/
theorem Follows.receive (h : s.Follows shown) {x : Signal} (hx : x ≠ .created ∧ x ≠ .destroyed) :
  (s.receive x).Follows shown
  := by
  have hcreated : (s.receive x).created = s.created := by
    rw [created_receive]
    simp [hx]
  have hlost : (s.receive x).lost = s.lost := by
    rw [lost_receive]
    simp [hx]
  constructor
  · rw [isRunning_receive, hasTarget, loop_receive, hcreated, hlost]
    apply h.running
  · rw [isRunning_receive, hcreated]
    apply h.stopped

theorem Follows.request (h : s.Follows shown) :
  (s.receive .request).Follows shown
  := h.receive (by decide)

theorem follows_created (s : Surface) :
  (s.receive .created).Follows true
  := by
  constructor
  · intro hrunning
    rw [isRunning_receive, isRunning] at hrunning
    rw [hasTarget, loop_receive]
    split
    · rename_i hloop
      rw [hloop] at hrunning
      cases hrunning
    · rfl
  · intro _
    rfl

theorem follows_destroyed (s : Surface) :
  (s.receive .destroyed).Follows false
  := by
  constructor
  · intro _
    rw [hasTarget, loop_receive]
    split
    · rfl
    · simp [receive]
  · intro _
    rfl

theorem Follows.start (h : s.Follows shown) (hs : s.start = .ok s') :
  s'.Follows shown
  := by
  rw [Surface.start] at hs
  split at hs
  · rename_i hloop
    obtain rfl := Except.ok.inj hs
    have hcreated := h.stopped (by rw [isRunning, hloop])
    constructor
    · intro _
      simpa [hasTarget] using hcreated
    · simp [isRunning]
  · cases hs

theorem Follows.taken (h : s.Follows shown) (hrunning : s.isRunning = true) :
  s.taken.Follows shown
  := by
  constructor
  · intro _
    rw [← h.running hrunning]
    simp [Surface.taken, hasTarget]
  · simp [Surface.taken, isRunning]

theorem Follows.finishFrame (h : s.Follows shown) :
  s.finishFrame.Follows shown
  := ⟨h.running, h.stopped⟩

end Surface

namespace View

variable {v w : View} {s : InputSide} {shown : Bool}

/-! ### What touches and time make of the surface -/

theorem follows_enqueue (h : v.surface.Follows shown) (j : Job) :
  (v.enqueue j).surface.Follows shown
  := h.request

theorem follows_deliver (h : v.surface.Follows shown) (g : Option Gesture) :
  (v.deliver g).surface.Follows shown
  := by
  obtain heq | ⟨u, j, hu, -, heq⟩ := v.deliver_cases g
  · rw [heq]
    apply h
  · rw [heq]
    apply follows_enqueue
    rcases hu with rfl | ⟨r, rfl⟩
    · apply h
    · apply h

/-- Touches ask for frames, and say nothing about the window. -/
theorem follows_touch (h : v.surface.Follows shown) (e : Motion) :
  (v.touch e).surface.Follows shown
  := by
  apply touch_keeps (P := fun u => u.surface.Follows shown)
  · intro u contacts primary hu
    apply hu
  · intro u j hj hu
    apply follows_enqueue hu
  · intro u hu
    rw [View.detect]
    apply follows_deliver
    apply hu
  · apply h

theorem follows_advance (h : v.surface.Follows shown) (ns : Int) :
  (v.advance ns).surface.Follows shown
  := follows_deliver
    (v := { v with
      now := v.now + max ns 0
      detector := (v.detector.advance (v.now + max ns 0)).1 }) h _

/-! ### What a turn makes of the surface -/

theorem surface_prepareAll (v : View) (cs : List Callback) :
  (cs.foldl prepare v).surface = v.surface
  := by
  induction cs generalizing v with
  | nil => rfl
  | cons c rest ih =>
    rw [List.foldl_cons, ih, (v.prepare_eq c).1]

/-- Jobs that are no tasks leave the surface as it is. -/
theorem Shows.surface_drain (h : v.Shows s []) (count : Nat) :
  (v.drain count).1.surface = v.surface
  := by
  fun_induction View.drain v count with
  | case1 v count hpop => rfl
  | case2 v count j rest hpop w hrun ih =>
    have hj := body?_eq_none_of_pop? h.tasks_eq hpop
    have hshows := h.runJob hpop hj
    rw [hrun] at hshows
    rw [ih hshows]
    rw [run_eq _ hj] at hrun
    obtain rfl := congrArg Prod.fst hrun
    rfl
  | case3 v count j rest hpop w label hrun =>
    have hj := body?_eq_none_of_pop? h.tasks_eq hpop
    rw [run_eq _ hj] at hrun
    cases (Prod.mk.inj hrun).2

/-- Without tasks, a turn that finds something to draw on comes to where its jobs have run, on
the surface as the turn took it. -/
theorem Shows.drained? (h : v.Shows s []) (hrequested : v.surface.requested = true)
    (htarget : v.surface.hasTarget = true) :
  ∃ w, v.drained? = some w ∧ w.surface = v.surface.taken
  := by
  have hprepared :=
    (h.setSurface v.surface.taken).prepareAll v.surface.due.callbacks
  obtain ⟨w, n, hdrain, -⟩ := hprepared.drain 0
  have hsurface := hprepared.surface_drain 0
  rw [hdrain, surface_prepareAll] at hsurface
  refine ⟨w, ?_, hsurface⟩
  rw [Surface.due] at hdrain
  simp only [View.drained?, Surface.beginTurn?_eq, Surface.isRunning_of_hasTarget htarget,
    hrequested, htarget, Surface.due, and_self, if_true, hdrain]

/-- Without tasks, turns say nothing about the window. -/
theorem Shows.follows_turn (h : v.Shows s []) (hfollows : v.surface.Follows shown) :
  v.turn.1.surface.Follows shown
  := by
  obtain hidle | ⟨hrunning, hrequested, htarget⟩ | ⟨hrequested, htarget⟩ := v.surface.turn_cases
  · rw [View.turn, Surface.beginTurn?_eq, if_neg hidle]
    apply hfollows
  · rw [View.turn, Surface.beginTurn?_eq, if_pos ⟨hrunning, hrequested⟩]
    simp only [htarget, Bool.false_eq_true, if_false]
    apply hfollows.taken hrunning
  · obtain ⟨w, hw, hsurface⟩ := h.drained? hrequested htarget
    have htaken := hfollows.taken (Surface.isRunning_of_hasTarget htarget)
    obtain ⟨-, -, hturn, -⟩ := turn_drawn_eq hw
    rw [hturn, hsurface]
    apply Surface.Follows.finishFrame
    split
    · apply htaken.request
    · apply htaken

/-- A turn that has nothing to draw on calls nobody. -/
theorem received_turn_of_not_hasTarget (htarget : v.surface.hasTarget = false) :
  v.turn.1.received = v.received
  := by
  rw [turn, Surface.beginTurn?_eq]
  split
  · rename_i hbegin
    split at hbegin
    · cases hbegin
    · rfl
  · rfl
  · rename_i surface created size hbegin
    rw [htarget] at hbegin
    split at hbegin
    · cases hbegin
    · cases hbegin

end View

/-! ### Plays -/

/-- Handing cues to a view leads to another one, with turns of its loop anywhere.  The loop may
be started at any time; a frame may be asked for more often than needed, and something may be
logged. -/
inductive Plays : View → List Cue → View → Prop where
  | done (v : View) : Plays v [] v
  | cue {v w : View} {cues : List Cue} {c : Cue} (h : Plays (c.act v) cues w) :
    Plays v (c :: cues) w
  /-- A part of a wait goes by. -/
  | part {v w : View} {cues : List Cue} {a : Int} {d rest : Duration} (ha : 0 ≤ a)
      (hrest : a + max rest.toInt 0 = max d.toInt 0)
      (h : Plays (v.advance a) (.wait rest :: cues) w) :
    Plays v (.wait d :: cues) w
  | turn {v w : View} {cues : List Cue} (h : Plays v.turn.1 cues w) : Plays v cues w
  | start {v w : View} {cues : List Cue} {surface : Surface} (hstart : v.surface.start = .ok surface)
      (h : Plays { v with surface } cues w) :
    Plays v cues w
  | request {v w : View} {cues : List Cue} (h : Plays (v.signal .request) cues w) : Plays v cues w
  | log {v w : View} {cues : List Cue} {r : Log.Record} (h : Plays (v.emit (.log r)) cues w) :
    Plays v cues w

namespace View

variable {v w : View} {s : InputSide} {shown : Bool}

theorem ofTouchCode_touchCode {phase : Phase} (h : phase ≠ .cancel ∧ phase ≠ .unknown) :
  Phase.ofTouchCode phase.touchCode = phase
  := by
  cases phase with
  | down | move | up => rfl
  | cancel => exact absurd rfl h.1
  | unknown => exact absurd rfl h.2

/-- A touch that is no cancel goes through the window system and comes out as it was. -/
theorem act_touch (v : View) {phase : Phase} (h : phase ≠ .cancel ∧ phase ≠ .unknown)
    (x y : Float32) (pointer : Int64) :
  Cue.act v (.touch phase x y pointer) =
    v.touch { phase, x, y, pointer, time := v.eventTime }
  := by
  rw [Cue.act, ofTouchCode_touchCode h]
  · rfl
  · exact h.1

/-- A touch goes one way or the other, but it always ends up as a motion of the view. -/
theorem exists_act_touch (v : View) (phase : Phase) (x y : Float32) (pointer : Int64) :
  ∃ e, Cue.act v (.touch phase x y pointer) = v.touch e
  := by
  have hsend (phase : Phase) :
      ∃ e, v.send (.touch (.ofTouchCode phase.touchCode) x y pointer) = v.touch e :=
    ⟨{ phase := .ofTouchCode phase.touchCode, x, y, pointer, time := v.eventTime }, rfl⟩
  cases phase with
  | cancel => exact ⟨{ phase := .cancel, x, y, pointer, time := v.now }, rfl⟩
  | down => apply hsend .down
  | move => apply hsend .move
  | up => apply hsend .up
  | unknown => apply hsend .unknown

theorem reaches_act (v : View) (c : Cue) :
  v.Reaches (c.act v)
  := by
  cases c with
  | size | visible | hidden | paint =>
    rw [Cue.act]
    apply reaches_send
  | wait d => apply v.reaches_advance
  | touch phase x y pointer =>
    obtain ⟨e, heq⟩ := v.exists_act_touch phase x y pointer
    rw [heq]
    apply reaches_touch

/-- A view shows what a cue makes of its input side. -/
theorem Shows.cue {bodies : List (List HostStep)} (h : v.Shows s bodies) {c : Cue}
    (hc : c.IsKnown) :
  (c.act v).Shows (s.cue c) bodies
  := by
  cases c with
  | size width height => apply h.setSurface
  | visible => apply (h.log _).setSurface
  | hidden => apply (h.log _).setSurface
  | paint => apply h.setSurface
  | wait d => apply h.advance
  | touch phase x y pointer =>
    obtain rfl := h.input_eq
    by_cases hcancel : phase = .cancel
    · subst hcancel
      let e (t : Instant) : Motion := { phase := .cancel, x, y, pointer, time := t }
      have htime : v.input.touch (e v.now) = v.input.touch (e v.eventTime) :=
        InputSide.touch_of_cancel_eq rfl rfl
      have hcancelled := h.touch (e v.now)
      rw [htime] at hcancelled
      apply hcancelled
    · rw [act_touch v ⟨hcancel, hc⟩]
      apply h.touch

theorem follows_cue (h : v.surface.Follows shown) (c : Cue) :
  (c.act v).surface.Follows (c.shown shown)
  := by
  cases c with
  | size width height => exact h.receive (x := .resized width height) (by simp)
  | visible => apply Surface.follows_created
  | hidden => apply Surface.follows_destroyed
  | paint => apply h.request
  | wait d => apply follows_advance h
  | touch phase x y pointer =>
    obtain ⟨e, heq⟩ := v.exists_act_touch phase x y pointer
    rw [heq]
    apply follows_touch h

end View

namespace Plays

variable {v w : View} {s : InputSide} {shown : Bool} {cues : List Cue}

/-- Wherever turns are taken, a view shows in the end what the cues make of its input side. -/
theorem shows (h : Plays v cues w) (hcues : ∀ c ∈ cues, c.IsKnown) (hv : v.Shows s []) :
  w.Shows (cues.foldl InputSide.cue s) []
  := by
  induction h generalizing s with
  | done v => apply hv
  | cue h ih =>
    obtain ⟨hc, hrest⟩ := List.forall_mem_cons.mp hcues
    apply ih hrest (hv.cue hc)
  | @part v w cues a d rest ha hrest h ih =>
    have hadvance : (s.advance a).advance rest.toInt = s.advance d.toInt := by
      rw [← InputSide.advance_max _ rest.toInt, InputSide.advance_add s ha (by omega), hrest,
        InputSide.advance_max]
    have hw := ih (List.forall_mem_cons.mpr ⟨trivial, (List.forall_mem_cons.mp hcues).2⟩)
      (hv.advance a)
    rw [List.foldl_cons, InputSide.cue, hadvance] at hw
    apply hw
  | turn h ih => apply ih hcues hv.turn.1
  | start hstart h ih => apply ih hcues (hv.setSurface _)
  | request h ih => apply ih hcues (hv.setSurface _)
  | log h ih => apply ih hcues (hv.log _)

/-- Wherever turns are taken, the surface knows in the end whether the window is shown. -/
theorem follows (h : Plays v cues w) (hcues : ∀ c ∈ cues, c.IsKnown) (hv : v.Shows s [])
    (hfollows : v.surface.Follows shown) :
  w.surface.Follows (cues.foldl Cue.shown shown)
  := by
  induction h generalizing s shown with
  | done v => apply hfollows
  | cue h ih =>
    obtain ⟨hc, hrest⟩ := List.forall_mem_cons.mp hcues
    apply ih hrest (hv.cue hc) (View.follows_cue hfollows _)
  | @part v w cues a d rest ha hrest h ih =>
    apply ih (List.forall_mem_cons.mpr ⟨trivial, (List.forall_mem_cons.mp hcues).2⟩)
      (hv.advance a) (View.follows_advance hfollows a)
  | turn h ih => apply ih hcues hv.turn.1 (hv.follows_turn hfollows)
  | start hstart h ih => apply ih hcues (hv.setSurface _) (hfollows.start hstart)
  | request h ih => apply ih hcues (hv.setSurface _) (hfollows.request)
  | log h ih => apply ih hcues (hv.log _) hfollows

/-- Whatever waits for a turn has a request waiting with it, wherever turns are taken. -/
theorem awake (h : Plays v cues w) (hv : v.Awake) :
  w.Awake
  := by
  induction h with
  | done v => apply hv
  | @cue v w cues c h ih => apply ih (hv.of_asks (v.reaches_act c).asks)
  | @part v w cues a d rest ha hrest h ih => exact ih (hv.of_asks (v.reaches_advance a).asks)
  | turn h ih => apply ih hv.turn
  | @start v w cues surface hstart h ih =>
    have hstarted := hv.act (.step .start)
    simp only [View.act, View.step, hstart] at hstarted
    apply ih hstarted
  | request h ih => apply ih (hv.of_asks (View.asks_signal _ _))
  | log h ih => apply ih (hv.of_asks (View.asks_emit _ _))

/-- As long as the window is never shown, the engine is not called. -/
theorem received_of_hidden (h : Plays v cues w) (hcues : ∀ c ∈ cues, c.IsKnown)
    (hhidden : Cue.visible ∉ cues) (hv : v.Shows s []) (hfollows : v.surface.Follows false) :
  w.received = v.received
  := by
  induction h generalizing s with
  | done v => rfl
  | @cue v w cues c h ih =>
    obtain ⟨hc, hrest⟩ := List.forall_mem_cons.mp hcues
    obtain ⟨hvisible, hlater⟩ := not_or.mp (mt List.mem_cons.mpr hhidden)
    have hshown : c.shown false = false := by
      cases c with
      | visible => exact absurd rfl hvisible
      | size | hidden | paint | touch | wait => rfl
    have hfollows' := View.follows_cue hfollows c
    rw [hshown] at hfollows'
    exact (ih hrest hlater (hv.cue hc) hfollows').trans (v.reaches_act c).received_eq
  | @part v w cues a d rest ha hrest h ih =>
    have hlater : Cue.visible ∉ Cue.wait rest :: cues := by
      simpa using hhidden
    apply (ih (List.forall_mem_cons.mpr ⟨trivial, (List.forall_mem_cons.mp hcues).2⟩) hlater
      (hv.advance a) (View.follows_advance hfollows a)).trans
    apply (v.reaches_advance a).received_eq
  | @turn v w cues h ih =>
    have htarget : v.surface.hasTarget = false := by
      cases hrunning : v.surface.isRunning with
      | true => apply hfollows.running hrunning
      | false =>
        cases htarget : v.surface.hasTarget with
        | false => rfl
        | true =>
          rw [Surface.isRunning_of_hasTarget htarget] at hrunning
          cases hrunning
    apply (ih hcues hhidden hv.turn.1 (hv.follows_turn hfollows)).trans
    apply View.received_turn_of_not_hasTarget htarget
  | start hstart h ih => exact ih hcues hhidden (hv.setSurface _) (hfollows.start hstart)
  | request h ih => exact ih hcues hhidden (hv.setSurface _) (hfollows.request)
  | @log v w cues r h ih =>
    exact (ih hcues hhidden (hv.log _) hfollows).trans (v.received_log r)

end Plays

end SurfaceHost
