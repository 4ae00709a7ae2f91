import SurfaceHost.Proofs.View.Engine
import SurfaceHost.Proofs.View.Growth

/-!
# Jobs that fail

A job fails when its task does, or when the engine does in one of its calls.  It takes down
the turn and the loop, but no other job: those behind it wait on, together with those that
were added meanwhile, and the next turn that draws begins with them.
-/

namespace SurfaceHost

/-- Whether a call belongs to the drawing of a frame, which comes after all jobs. -/
def Call.isFrame : Call → Bool
  | .kinetic _ _ | .redraw => true
  | .init _ | .resize _ _ => false
  | .mouseDown _ _ | .mouseUp _ _ | .mouseMove _ _ | .scroll _ _ _ _ => false
  | .pointerDown _ _ _ | .pointerUp _ _ _ | .pointerMove _ _ _ | .longPress _ _ => false

theorem Call.isFrame_of_isInput {c : Call} (hc : c.isInput = true) :
  c.isFrame = false
  := by
  cases c with
  | init | resize | redraw | kinetic => cases hc
  | mouseDown | mouseUp | mouseMove | scroll => rfl
  | pointerDown | pointerUp | pointerMove | longPress => rfl

namespace View

/-- Between two views the engine was called, but not to draw a frame. -/
def Undrawn (v w : View) : Prop :=
  ∃ made, w.received = v.received ++ made ∧ ∀ c ∈ made, c.isFrame = false

theorem Undrawn.refl (v : View) :
  v.Undrawn v
  := ⟨[], (List.append_nil _).symm, by simp⟩

theorem Undrawn.trans {u v w : View} (h : u.Undrawn v) (h' : v.Undrawn w) :
  u.Undrawn w
  := by
  obtain ⟨made, hmade, hframe⟩ := h
  obtain ⟨made', hmade', hframe'⟩ := h'
  use made ++ made'
  constructor
  · rw [hmade', hmade, List.append_assoc]
  · intro c hc
    rcases List.mem_append.mp hc with hc | hc
    · apply hframe c hc
    · apply hframe' c hc

end View

namespace Hosted

open View

variable {h g k : Hosted} {label : String}

/-! ### One job -/

theorem grows_call (h : Hosted) (c : Call) :
  h.view.Grows (h.call c).1.view
  := by
  obtain ⟨view, plan⟩ := h
  cases plan with
  | nil => exact .of_same rfl rfl
  | cons body plan => exact (view.grows_emit _).trans (reaches_performAll _ body).grows

theorem received_call (h : Hosted) (c : Call) :
  (h.call c).1.view.received = h.view.received ++ [c]
  := by
  obtain ⟨view, plan⟩ := h
  cases plan with
  | nil => apply received_callEngine
  | cons body plan => exact (reaches_performAll _ body).received_eq.trans (received_callEngine view c)

theorem grows_callAll (h : Hosted) (cs : List Call) :
  h.view.Grows (h.callAll cs).1.view
  := by
  induction cs generalizing h with
  | nil => exact .of_same rfl rfl
  | cons c rest ih =>
    have hfirst := h.grows_call c
    rw [callAll]
    split
    · rename_i g hg
      rw [hg] at hfirst
      apply hfirst.trans (ih g)
    · rename_i g label hg
      rw [hg] at hfirst
      apply hfirst

theorem undrawn_callAll (h : Hosted) {cs : List Call} (hcs : ∀ c ∈ cs, c.isFrame = false) :
  h.view.Undrawn (h.callAll cs).1.view
  := by
  induction cs generalizing h with
  | nil => apply Undrawn.refl
  | cons c rest ih =>
    have hfirst : h.view.Undrawn (h.call c).1.view := by
      use [c], h.received_call c
      intro d hd
      obtain rfl := List.mem_singleton.mp hd
      apply hcs d List.mem_cons_self
    rw [callAll]
    split
    · rename_i g hg
      rw [hg] at hfirst
      apply hfirst.trans
      apply ih
      intro d hd
      apply hcs d (List.mem_cons_of_mem c hd)
    · rename_i g label hg
      rw [hg] at hfirst
      apply hfirst

theorem grows_run (h : Hosted) (j : Job) :
  h.view.Grows (h.run j).1.view
  := by
  cases j with
  | call | release => apply grows_callAll
  | stopFling | startFling => exact .of_same rfl rfl
  | task label body => exact (h.view.grows_emit _).trans (reaches_performAll _ body).grows

/-- A job whose calls are input calls does not draw. -/
theorem undrawn_run (h : Hosted) {j : Job}
    (hj : ∀ c ∈ j.calls h.view.capabilities, c.isInput = true) :
  h.view.Undrawn (h.run j).1.view
  := by
  cases j with
  | call | release =>
    apply undrawn_callAll
    intro c hc
    apply Call.isFrame_of_isInput (hj c hc)
  | stopFling | startFling => apply Undrawn.refl
  | task label body =>
    use [], ?_, by simp
    rw [List.append_nil]
    apply (reaches_performAll _ body).received_eq.trans
    apply (received_emit _ _).trans
    apply List.append_nil

/-- Whatever a job adds waits behind the jobs that were behind it. -/
theorem jobs_run (hfit : h.view.Fit) {j : Job} {rest : Backlog Job}
    (hpop : h.view.backlog.pop? = some (j, rest)) :
  ((h.setBacklog rest).run j).1.view.Fit
    ∧ ∃ added, ((h.setBacklog rest).run j).1.jobs = rest.toList ++ added
  := (hfit.pop? hpop).grows ((h.setBacklog rest).grows_run j)

/-! ### Draining -/

/-- Running jobs from the front, the jobs `ran` in full and then `failed` up to where it
fails, leads from one state to another.  Meanwhile the jobs `added` are added. -/
inductive Breaks (label : String) : Hosted → List Job → Job → List Job → Hosted → Prop where
  | here {h k : Hosted} {failed : Job} {rest : Backlog Job} {added : List Job}
      (hpop : h.view.backlog.pop? = some (failed, rest))
      (hrun : (h.setBacklog rest).run failed = (k, some label))
      (hadded : k.jobs = rest.toList ++ added) :
    Breaks label h [] failed added k
  | later {h g k : Hosted} {j failed : Job} {rest : Backlog Job} {ran added more : List Job}
      (hpop : h.view.backlog.pop? = some (j, rest))
      (hrun : (h.setBacklog rest).run j = (g, none))
      (hadded : g.jobs = rest.toList ++ added)
      (hbreaks : Breaks label g ran failed more k) :
    Breaks label h (j :: ran) failed (added ++ more) k

/-- The jobs that waited and those that were added are the ones that ran, the one that
failed, and the ones that wait now, in this order. -/
theorem Breaks.jobs_eq {ran added : List Job} {failed : Job}
    (hbreaks : Breaks label h ran failed added k) :
  h.jobs ++ added = ran ++ failed :: k.jobs
  := by
  induction hbreaks with
  | here hpop hrun hadded =>
    rw [hadded, jobs, Backlog.toList_of_pop?_eq_some hpop]
    rfl
  | later hpop hrun hadded hbreaks ih =>
    rw [hadded, List.append_assoc] at ih
    rw [jobs, Backlog.toList_of_pop?_eq_some hpop, List.cons_append, ih]
    rfl

/-- Draining fails only in this way. -/
theorem breaks_of_drain (hfit : h.view.Fit) {count : Nat}
    (hdrain : h.drain count = (k, .error label)) :
  ∃ ran failed added, Breaks label h ran failed added k
  := by
  fun_induction drain h count with
  | case1 h count hpop => cases hdrain
  | case2 h count j rest hpop g hrun ih =>
    obtain ⟨hg, added, hadded⟩ := jobs_run hfit hpop
    rw [hrun] at hg hadded
    obtain ⟨ran, failed, more, hbreaks⟩ := ih hg hdrain
    exact ⟨j :: ran, failed, added ++ more, .later hpop hrun hadded hbreaks⟩
  | case3 h count j rest hpop g label' hrun =>
    obtain ⟨-, added, hadded⟩ := jobs_run hfit hpop
    rw [hrun] at hadded
    cases hdrain
    exact ⟨[], j, added, .here hpop hrun hadded⟩

/-- Draining finishes no frame and does not draw, whether it fails or not. -/
theorem undrawn_drain (hfit : h.view.Fit) (count : Nat) :
  (h.drain count).1.view.Fit
    ∧ (h.drain count).1.view.surface.frames = h.view.surface.frames
    ∧ h.view.Undrawn (h.drain count).1.view
  := by
  fun_induction drain h count with
  | case1 h count hpop => exact ⟨hfit, rfl, .refl _⟩
  | case2 h count j rest hpop g hrun ih =>
    obtain ⟨hg, -⟩ := jobs_run hfit hpop
    have hframes := ((h.setBacklog rest).grows_run j).frames_eq
    have hundrawn := (h.setBacklog rest).undrawn_run (hfit.isInput_of_pop? hpop _)
    rw [hrun] at hg hframes hundrawn
    obtain ⟨hk, hframes', hundrawn'⟩ := ih hg
    exact ⟨hk, hframes'.trans hframes, hundrawn.trans hundrawn'⟩
  | case3 h count j rest hpop g label' hrun =>
    obtain ⟨hg, -⟩ := jobs_run hfit hpop
    have hframes := ((h.setBacklog rest).grows_run j).frames_eq
    have hundrawn := (h.setBacklog rest).undrawn_run (hfit.isInput_of_pop? hpop _)
    rw [hrun] at hg hframes hundrawn
    exact ⟨hg, hframes, hundrawn⟩

/-! ### Turns -/

/-- A callback before a frame writes a log record and makes one call, or does nothing at all.
If the call fails, the others are left out. -/
theorem exists_prepareAll_cons (h : Hosted) (cb : Callback) (rest : List Callback) :
  ∃ g : Hosted, h.view.Grows g.view ∧ h.view.Undrawn g.view
    ∧ (h.prepareAll (cb :: rest) = g.prepareAll rest
      ∨ ∃ label, h.prepareAll (cb :: rest) = (g, some label))
  := by
  have hgrows (r : Log.Record) (c : Call) :
      h.view.Grows ({ h with view := h.view.emit (.log r) }.call c).1.view := by
    apply Grows.of_update _ _ (grows_call _ _) <;> rfl
  have hundrawn (r : Log.Record) {c : Call} (hc : c.isFrame = false) :
      h.view.Undrawn ({ h with view := h.view.emit (.log r) }.call c).1.view := by
    use [c]
    rw [received_call, received_log]
    use rfl
    intro d hd
    obtain rfl := List.mem_singleton.mp hd
    apply hc
  cases cb with
  | created =>
    refine ⟨_, hgrows (.info "surface created" [("storage", .text h.view.storage)])
      (.init h.view.storage), hundrawn _ rfl, ?_⟩
    rw [prepareAll]
    split
    · rename_i g hg
      exact .inl (by rw [hg])
    · rename_i g label hg
      exact .inr ⟨label, by rw [hg]⟩
  | changed width height =>
    refine ⟨_, hgrows (.info "surface changed" [("width", .number width),
      ("height", .number height)]) (.resize width height), hundrawn _ rfl, ?_⟩
    rw [prepareAll]
    split
    · rename_i g hg
      exact .inl (by rw [hg])
    · rename_i g label hg
      exact .inr ⟨label, by rw [hg]⟩
  | draw => exact ⟨h, .of_same rfl rfl, .refl _, .inl rfl⟩

theorem grows_prepareAll (h : Hosted) (cs : List Callback) :
  h.view.Grows (h.prepareAll cs).1.view ∧ h.view.Undrawn (h.prepareAll cs).1.view
  := by
  induction cs generalizing h with
  | nil => exact ⟨.of_same rfl rfl, .refl _⟩
  | cons cb rest ih =>
    obtain ⟨g, hgrows, hundrawn, heq | ⟨label, heq⟩⟩ := h.exists_prepareAll_cons cb rest
    · rw [heq]
      exact ⟨hgrows.trans (ih g).1, hundrawn.trans (ih g).2⟩
    · rw [heq]
      exact ⟨hgrows, hundrawn⟩

theorem frames_of_beginTurn? {s s' : Surface} {t : Turn} (h : s.beginTurn? = some (s', t)) :
  s'.frames = s.frames
  := by
  rw [Surface.beginTurn?_eq] at h
  split at h
  · obtain ⟨rfl, -⟩ := Prod.mk.inj (Option.some.inj h)
    rfl
  · cases h

/-- Up to the draining, a turn only adds jobs and does not draw. -/
theorem grows_of_drainStart? (hstart : h.drainStart? = some g) :
  h.view.Grows g.view ∧ h.view.Undrawn g.view
  := by
  rw [drainStart?] at hstart
  split at hstart
  · cases hstart
  · cases hstart
  · rename_i surface created size hbegin
    obtain ⟨hgrows, hundrawn⟩ :=
      (h.setSurface surface).grows_prepareAll (Turn.draw created size).callbacks
    split at hstart
    · rename_i g' hg'
      obtain rfl := Option.some.inj hstart
      rw [hg'] at hgrows hundrawn
      constructor
      · apply Grows.trans _ hgrows
        exact .of_same (frames_of_beginTurn? hbegin) rfl
      · apply hundrawn
    · cases hstart

/-- A turn whose draining fails is over, and so is the loop. -/
theorem turn_of_drain (hstart : h.drainStart? = some g) (hdrain : g.drain 0 = (k, .error label)) :
  h.turn = (k.setSurface k.view.surface.stop, .failed label)
  := by
  rw [drainStart?] at hstart
  split at hstart
  · cases hstart
  · cases hstart
  · rename_i surface created size hbegin
    split at hstart
    · rename_i g' hg'
      obtain rfl := Option.some.inj hstart
      simp only [turn, hbegin, hg', draw, hdrain]
    · cases hstart

theorem Fit.setSurface (hfit : h.view.Fit) (surface : Surface) :
  (h.setSurface surface).view.Fit
  := ⟨hfit.inOrder, hfit.calls⟩

theorem grows_animate (h : Hosted) :
  h.view.Grows h.animate.1.view
  := by
  have hcalls (scroller : Scroller) (cs : List Call) :
      h.view.Grows (callAll { h with view := { h.view with scroller } } cs).1.view := by
    apply Grows.of_update _ _ (grows_callAll _ cs) <;> rfl
  simp only [animate]
  split
  · rename_i g hg
    have hgrows := hg ▸ hcalls _ _
    split
    · apply hgrows.trans
      exact .of_same (Surface.frames_receive _ _) rfl
    · apply hgrows
  · rename_i g label hg
    exact hg ▸ hcalls _ _

theorem fit_draw (hfit : h.view.Fit) :
  h.draw.1.view.Fit
  := by
  obtain ⟨hdrain, -⟩ := undrawn_drain hfit 0
  rw [draw]
  split
  · rename_i g label hg
    rw [hg] at hdrain
    apply hdrain
  · rename_i g count hg
    rw [hg] at hdrain
    split
    · apply (hdrain.grows _).1
      apply Grows.of_update _ _ (grows_animate _) <;> rfl
    · apply (hdrain.grows (grows_animate g)).1

/-- A turn keeps the queue fit, however it ends. -/
theorem fit_turn (hfit : h.view.Fit) :
  h.turn.1.view.Fit
  := by
  rw [turn]
  split
  · apply hfit
  · apply Fit.setSurface hfit
  · rename_i surface created size hbegin
    obtain ⟨hgrows, -⟩ :=
      (h.setSurface surface).grows_prepareAll (Turn.draw created size).callbacks
    obtain ⟨hprepared, -⟩ := (Fit.setSurface hfit surface).grows hgrows
    split
    · rename_i g label hg
      rw [hg] at hprepared
      apply Fit.setSurface hprepared
    · rename_i g hg
      rw [hg] at hprepared
      have hdrawn := fit_draw hprepared
      split
      · rename_i k hk
        rw [hk] at hdrawn
        apply Fit.setSurface hdrawn
      · rename_i k label hk
        rw [hk] at hdrawn
        apply Fit.setSurface hdrawn

/-! ### Runs -/

/-- An act that takes no turn only adds jobs. -/
theorem grows_act (h : Hosted) {a : Act} (ha : a ≠ .step .frame) :
  h.view.Grows (h.act a).view
  := by
  have hloop (st : Step) (hst : st = .start ∨ st = .stop) :
      h.view.Grows (h.view.act (.step st)) := by
    rcases hst with rfl | rfl
    · simp only [View.act, step, Surface.start]
      cases h.view.surface.loop with
      | stopped => exact .of_same rfl rfl
      | running ready => exact .of_same rfl rfl
    · simp only [View.act, step]
      split
      · exact .of_same rfl rfl
      · exact .of_same rfl rfl
  cases a with
  | alarm generation => apply (Elementary.fire generation).grows
  | step st =>
    cases st with
    | host st => apply (reaches_perform h.view st).grows
    | start => apply hloop .start (.inl rfl)
    | stop => apply hloop .stop (.inr rfl)
    | frame => exact absurd rfl ha

theorem fit_act (hfit : h.view.Fit) (a : Act) :
  (h.act a).view.Fit
  := by
  by_cases ha : a = .step .frame
  · subst ha
    apply fit_turn hfit
  · apply (hfit.grows (h.grows_act ha)).1

/-- The queue is fit at every point of a run. -/
theorem fit_after (hfit : h.view.Fit) (acts : List Act) :
  (h.after acts).view.Fit
  := by
  induction acts generalizing h with
  | nil => apply hfit
  | cons a rest ih => apply ih (fit_act hfit a)

/-- In none of the acts a turn comes to running jobs: there is no turn to take, there is
nothing to draw on, or the engine fails before. -/
def Rests (h : Hosted) : List Act → Prop
  | [] => True
  | a :: acts => (a = .step .frame → h.drainStart? = none) ∧ (h.act a).Rests acts

/-- A turn that does not come to running jobs leaves them all waiting. -/
theorem grows_turn_of_drainStart?_eq_none (hnone : h.drainStart? = none) :
  h.view.Grows h.turn.1.view
  := by
  rw [drainStart?] at hnone
  rw [turn]
  rcases hbegin : h.view.surface.beginTurn? with _ | ⟨surface, _ | ⟨created, size⟩⟩
  · exact .of_same rfl rfl
  · exact .of_same (frames_of_beginTurn? hbegin) rfl
  · obtain ⟨hgrows, -⟩ :=
      (h.setSurface surface).grows_prepareAll (Turn.draw created size).callbacks
    rw [hbegin] at hnone
    rcases hprepare : (h.setSurface surface).prepareAll (Turn.draw created size).callbacks
      with ⟨g, _ | label⟩
    · simp only [hprepare, reduceCtorEq] at hnone
    · rw [hprepare] at hgrows
      simp only [hprepare]
      have hstop : g.view.Grows (g.setSurface g.view.surface.stop).view := .of_same rfl rfl
      apply Grows.of_update _ _ (hgrows.trans hstop)
      · exact frames_of_beginTurn? hbegin
      · rfl

/-- As long as no turn comes to running jobs, they are only added. -/
theorem Rests.grows {acts : List Act} (hrests : h.Rests acts) :
  h.view.Grows (h.after acts).view
  := by
  induction acts generalizing h with
  | nil => exact .of_same rfl rfl
  | cons a rest ih =>
    obtain ⟨hturn, hrest⟩ := hrests
    apply Grows.trans _ (ih hrest)
    by_cases ha : a = .step .frame
    · subst ha
      apply grows_turn_of_drainStart?_eq_none (hturn rfl)
    · apply h.grows_act ha

/-- The loop is started again, and a drawing target is reported. -/
def restart : List Act :=
  [.step .start, .step (.host (.send (.lifecycle 1 2)))]

/-- Once the loop is started again and there is something to draw on, the next turn begins
with the jobs that were waiting. -/
theorem drainStart?_restart (v : View) (hstopped : v.surface.isRunning = false) :
  ∃ g, drainStart? (after ⟨v, []⟩ restart) = some g ∧ g.jobs = v.backlog.toList
  := by
  have hloop : v.surface.loop = .stopped := by
    rw [Surface.isRunning] at hstopped
    split at hstopped
    · assumption
    · cases hstopped
  rw [after_of_silent]
  have hbacklog : (v.after restart).backlog = v.backlog := by
    simp [restart, View.act, step, Surface.start, hloop, perform, send, HostEvent.visible,
      signal, emit]
  have hsurface : (v.after restart).surface =
      { v.surface with loop := .running false, created := true, requested := true } := by
    simp [restart, View.act, step, Surface.start, hloop, perform, send, HostEvent.visible,
      signal, emit, Surface.receive]
  simp only [drainStart?, hsurface, Surface.beginTurn?, Bool.true_or, if_true, setSurface,
    prepareAll_of_silent]
  refine ⟨_, rfl, ?_⟩
  have hkept (w : View) (cs : List Callback) : (cs.foldl prepare w).backlog = w.backlog := by
    induction cs generalizing w with
    | nil => rfl
    | cons c rest ih =>
      rw [List.foldl_cons, ih]
      cases c <;> rfl
  rw [jobs, hkept]
  exact congrArg Backlog.toList hbacklog

/-- A job that fails loses only itself.  At any point of a run, with any engine, let the next
turn come to running the waiting jobs, and let one of them fail.  Then the failure ends the
turn and the loop; no frame is counted, and the engine is not called to draw one.  The jobs
that waited and those that were added meanwhile are the ones that ran, the one that failed and
the ones that wait now, in this order.  Those are the first that the next drawing turn runs,
and if nothing is added until then, the only ones.  With an engine that only listens, all of
this is about the view alone. -/
theorem failed_job_loses_itself (settings : Settings) (capabilities : Capabilities)
    (surface : Surface) (clockRate : Int) (plan : List (List HostStep)) (acts : List Act)
    {h g k : Hosted} {label : String}
    (hrun : h = after ⟨View.new settings capabilities surface clockRate, plan⟩ acts)
    (hstart : h.drainStart? = some g) (hdrain : g.drain 0 = (k, .error label)) :
  h.turn.2 = .failed label
    ∧ h.turn.1.view.surface.isRunning = false
    ∧ h.turn.1.view.surface.frames = h.view.surface.frames
    ∧ h.view.Undrawn h.turn.1.view
    ∧ (∃ ran failed added, Breaks label g ran failed added k
        ∧ g.jobs ++ added = ran ++ failed :: h.turn.1.jobs)
    ∧ (∀ later g', h.turn.1.Rests later → (h.turn.1.after later).drainStart? = some g' →
        h.turn.1.jobs <+: g'.jobs)
    ∧ (∃ g', drainStart? (after ⟨h.turn.1.view, []⟩ restart) = some g'
        ∧ g'.jobs = h.turn.1.jobs)
    ∧ (plan = [] → h.view = (View.new settings capabilities surface clockRate).after acts
        ∧ h.turn = (⟨h.view.turn.1, []⟩, h.view.turn.2))
  := by
  have hfit : h.view.Fit := by
    rw [hrun]
    apply fit_after
    apply View.fit_new
  obtain ⟨hgrows, hprepared⟩ := grows_of_drainStart? hstart
  obtain ⟨hg, -⟩ := hfit.grows hgrows
  obtain ⟨hk, hframes, hdrained⟩ := undrawn_drain hg 0
  rw [hdrain] at hk hframes hdrained
  have hturn := turn_of_drain hstart hdrain
  have hafter : h.turn.1 = k.setSurface k.view.surface.stop := congrArg Prod.fst hturn
  refine ⟨congrArg Prod.snd hturn, ?_, ?_, ?_, ?_, ?_, ?_, ?_⟩
  · rw [hafter]
    rfl
  · rw [hafter]
    exact hframes.trans hgrows.frames_eq
  · rw [hafter]
    exact hprepared.trans hdrained
  · obtain ⟨ran, failed, added, hbreaks⟩ := breaks_of_drain hg hdrain
    use ran, failed, added, hbreaks
    rw [hafter]
    apply hbreaks.jobs_eq
  · intro later g' hrests hlater
    have hw : h.turn.1.view.Fit := fit_turn hfit
    obtain ⟨hmore, -⟩ := grows_of_drainStart? hlater
    obtain ⟨-, added, hadded⟩ := hw.grows (hrests.grows.trans hmore)
    exact ⟨added, hadded.symm⟩
  · apply drainStart?_restart
    rw [hafter]
    rfl
  · rintro rfl
    rw [after_of_silent] at hrun
    subst hrun
    exact ⟨rfl, turn_of_silent _⟩

/-- The engine posts a task in the midst of a press, and then fails.  What it has not heard of
the press waits, and the task behind it. -/
theorem failed_job_loses_itself_in_call :
  let h : Hosted :=
    after ⟨View.new .default .all {} 1, [[], [.post "late" [], .fail "broken"]]⟩
      (restart ++ [.step (.host (.touch .down 10 20 0 none))])
  h.turn.2 = .failed "broken"
    ∧ ∃ g', drainStart? (after ⟨h.turn.1.view, []⟩ restart) = some g' ∧ g'.jobs.length = 3
  := by
  intro h
  have hfails : (h.drainStart?.map fun g => (g.drain 0).2) = some (.error "broken") := by
    decide +kernel
  have hthree : h.turn.1.jobs.length = 3 := by decide +kernel
  have hrun : h = after ⟨_, _⟩ _ := rfl
  clear_value h
  obtain ⟨g, hstart, hg⟩ := Option.map_eq_some_iff.mp hfails
  have hdrain : g.drain 0 = ((g.drain 0).1, .error "broken") := Prod.ext rfl hg
  obtain ⟨hturn, -, -, -, -, -, ⟨g', hg', hjobs⟩, -⟩ :=
    failed_job_loses_itself _ _ _ _ _ _ hrun hstart hdrain
  use hturn, g', hg'
  rw [hjobs, hthree]

end Hosted

end SurfaceHost
