import SurfaceHost.Proofs.Surface.History
import SurfaceHost.Proofs.View.Run

/-!
# No request is lost

Whatever waits for a turn of the loop has a render request waiting with it: a pending
creation or loss always, and a change of size or a job as long as the loop has something
to draw on.  Everything that the host does either leaves the surface and the backlog as
they are or leaves a request behind (`Asks`), also when a task does it in the middle of a
frame; and a turn that takes the request up leaves nothing waiting, or it ends with a
loop that has nothing to draw on.
-/

namespace SurfaceHost

/-! ### Surfaces -/

namespace Surface

/-- Every pending change of a surface has a request waiting with it, a change of size only
if the loop has something to draw on. -/
structure Heard (s : Surface) : Prop where
  target : s.created = true ∨ s.lost = true → s.requested = true
  size : s.loop = .running true → s.sizeChanged = true → s.requested = true

variable {s : Surface}

theorem heard_new :
  Heard {}
  := ⟨by simp, by simp⟩

/-- Where a request is waiting, nothing can go unheard. -/
theorem heard_of_requested (h : s.requested = true) :
  s.Heard
  := ⟨fun _ => h, fun _ _ => h⟩

theorem heard_receive (s : Surface) (x : Signal) :
  (s.receive x).Heard
  := heard_of_requested (requested_receive s x)

theorem Heard.reports (h : s.Heard) (xs : List Signal) :
  (xs.foldl Surface.receive s).Heard
  := by
  induction xs generalizing s with
  | nil => apply h
  | cons x xs ih => apply ih (heard_receive s x)

theorem Heard.stop (h : s.Heard) :
  s.stop.Heard
  := ⟨h.target, by simp [Surface.stop]⟩

theorem Heard.finishFrame (h : s.Heard) :
  s.finishFrame.Heard
  := ⟨h.target, h.size⟩

theorem Heard.start {s' : Surface} (h : s.Heard) (hs : s.start = .ok s') :
  s'.Heard
  := by
  unfold Surface.start at hs
  split at hs
  · obtain rfl := Except.ok.inj hs
    exact ⟨h.target, by simp⟩
  · cases hs

/-- A snapshot takes up the request, and everything with it that the loop can handle. -/
theorem heard_taken (s : Surface) :
  s.taken.Heard
  := by
  constructor
  · simp [taken]
  · intro hloop hsize
    simp_all [taken]

/-- Surfaces are heard in whatever way they are used. -/
theorem Heard.act (h : s.Heard) (a : Act) :
  (s.act a).1.Heard
  := by
  cases a with
  | signal x => apply heard_receive
  | start =>
    simp only [Surface.act]
    split
    · rename_i hs
      apply h.start hs
    · apply h
  | stop =>
    simp only [Surface.act]
    split
    · apply h.stop
    · apply h
  | turn r =>
    simp only [Surface.act]
    obtain hidle | ⟨hrunning, hrequested, htarget⟩ | ⟨hrequested, htarget⟩ := s.turn_cases
    · rw [turn_of_idle hidle]
      apply h
    · rw [turn_of_skip hrunning hrequested htarget]
      apply heard_taken
    · have hdrawn : (s.drawn r).Heard := s.heard_taken.reports _
      rw [turn_of_draw hrequested htarget]
      split
      · apply hdrawn.stop
      · apply hdrawn.finishFrame

theorem History.heard_after (acts : List Act) :
  (({} : History).after acts).surface.Heard
  := after_of_act (P := fun s _ => s.Heard) (fun a h => h.act a) heard_new acts

end Surface

namespace View

/-! ### What the host does -/

/-- A change of a view by its host: the loop stays as it is and the backlog in order, and
where the surface or the backlog changes, a request is left behind. -/
structure Asks (v w : View) : Prop where
  loop_eq : w.surface.loop = v.surface.loop
  inOrder : v.backlog.InOrder → w.backlog.InOrder
  same_or_requested :
    w.surface = v.surface ∧ w.backlog = v.backlog ∨ w.surface.requested = true

variable {v w u : View}

theorem Asks.of_same (hsurface : w.surface = v.surface) (hbacklog : w.backlog = v.backlog) :
  v.Asks w
  := by
  constructor
  · rw [hsurface]
  · rw [hbacklog]
    exact id
  · exact .inl ⟨hsurface, hbacklog⟩

theorem Asks.refl (v : View) :
  v.Asks v
  := .of_same rfl rfl

theorem Asks.trans (h : v.Asks w) (h' : w.Asks u) :
  v.Asks u
  := by
  refine ⟨h'.loop_eq.trans h.loop_eq, fun hv => h'.inOrder (h.inOrder hv), ?_⟩
  rcases h'.same_or_requested with ⟨hsurface, hbacklog⟩ | hrequested
  · rw [hsurface, hbacklog]
    apply h.same_or_requested
  · exact .inr hrequested

/-- What neither the surface nor the backlog show may change first. -/
theorem Asks.of_update (hsurface : w.surface = v.surface) (hbacklog : w.backlog = v.backlog)
    (h : w.Asks u) :
  v.Asks u
  := (Asks.of_same hsurface hbacklog).trans h

theorem Asks.heard (h : v.Asks w) (hv : v.surface.Heard) :
  w.surface.Heard
  := by
  rcases h.same_or_requested with ⟨hsurface, -⟩ | hrequested
  · rw [hsurface]
    apply hv
  · apply Surface.heard_of_requested hrequested

theorem asks_emit (v : View) (o : Output) :
  v.Asks (v.emit o)
  := .of_same rfl rfl

theorem asks_signal (v : View) (x : Signal) :
  v.Asks (v.signal x)
  := ⟨Surface.loop_receive v.surface x, id, .inr (Surface.requested_receive v.surface x)⟩

theorem asks_enqueue (v : View) (j : Job) :
  v.Asks (v.enqueue j)
  := ⟨rfl, fun h => h.push j, .inr rfl⟩

theorem asks_deliver (v : View) (g : Option Gesture) :
  v.Asks (v.deliver g)
  := by
  obtain heq | ⟨u, j, hu, -, heq⟩ := v.deliver_cases g
  · rw [heq]
    apply Asks.refl
  · rw [heq]
    rcases hu with rfl | ⟨r, rfl⟩
    · apply asks_enqueue
    · exact (asks_emit v _).trans (asks_enqueue _ j)

theorem Elementary.asks (h : v.Elementary w) :
  v.Asks w
  := by
  cases h with
  | enqueue hj => apply asks_enqueue
  | detect e =>
    rw [View.detect]
    apply Asks.of_update _ _ (asks_deliver _ _) <;> rfl
  | fire generation =>
    rw [View.fire]
    apply Asks.of_update _ _ (asks_deliver _ _) <;> rfl
  | log hr => apply asks_emit
  | signal x => apply asks_signal
  | place | wait => exact .of_same rfl rfl

/-- Whatever the host does asks for a frame where that is needed. -/
theorem Reaches.asks (h : v.Reaches w) :
  v.Asks w
  := h.keeps (P := v.Asks) (fun hstep hasks => hasks.trans hstep.asks) (.refl v)

/-- A job asks for a frame where it brings in more to do. -/
theorem asks_run (v : View) (j : Job) :
  v.Asks (v.run j).1
  := by
  cases hbody : j.body? with
  | none =>
    rw [run_eq v hbody]
    exact .of_same rfl rfl
  | some body =>
    cases j with
    | task label body => exact (asks_emit v _).trans (reaches_performAll _ body).asks
    | call | release | stopFling | startFling => simp [Job.body?] at hbody

/-! ### Turns -/

/-- Draining keeps the surface heard and leaves nothing waiting, unless a job fails. -/
theorem heard_drain (v : View) (count : Nat) (hheard : v.surface.Heard)
    (hord : v.backlog.InOrder) :
  (v.drain count).1.surface.Heard ∧ (v.drain count).1.backlog.InOrder
    ∧ ((∃ n, (v.drain count).2 = .ok n) → (v.drain count).1.backlog.toList = [])
  := by
  fun_induction View.drain v count with
  | case1 v count hpop =>
    exact ⟨hheard, hord, fun _ => hord.pop?_eq_none_iff.mp hpop⟩
  | case2 v count j rest hpop w hrun ih =>
    have hasks := asks_run { v with backlog := rest } j
    rw [hrun] at hasks
    apply ih (hasks.heard hheard) (hasks.inOrder (hord.pop? hpop))
  | case3 v count j rest hpop w label hrun =>
    have hasks := asks_run { v with backlog := rest } j
    rw [hrun] at hasks
    refine ⟨hasks.heard hheard, hasks.inOrder (hord.pop? hpop), ?_⟩
    rintro ⟨n, hn⟩
    cases hn

theorem asks_prepare (v : View) (c : Callback) :
  v.Asks (v.prepare c)
  := by
  cases c with
  | created | changed => exact (asks_emit v _).trans (asks_emit _ _)
  | draw => apply Asks.refl

theorem asks_prepareAll (v : View) (cs : List Callback) :
  v.Asks (cs.foldl prepare v)
  := by
  induction cs generalizing v with
  | nil => apply Asks.refl
  | cons c rest ih => exact (asks_prepare v c).trans (ih _)

theorem asks_animate (v : View) :
  v.Asks v.animate
  := by
  simp only [animate]
  split
  · split
    · apply Asks.of_update _ _
        (((asks_emit _ _).trans (asks_emit _ _)).trans (asks_signal _ .request)) <;> rfl
    · apply Asks.of_update _ _ ((asks_emit _ _).trans (asks_signal _ .request)) <;> rfl
  · apply Asks.of_update _ _ (asks_emit _ _) <;> rfl

/-- Whatever waits for a turn of a view's loop has a request waiting with it. -/
structure Awake (v : View) : Prop where
  heard : v.surface.Heard
  inOrder : v.backlog.InOrder
  jobs : v.surface.loop = .running true → v.pending ≠ 0 → v.surface.requested = true

theorem Awake.of_asks (h : v.Awake) (hasks : v.Asks w) :
  w.Awake
  := by
  refine ⟨hasks.heard h.heard, hasks.inOrder h.inOrder, ?_⟩
  rcases hasks.same_or_requested with ⟨hsurface, hbacklog⟩ | hrequested
  · rw [hsurface, pending, hbacklog]
    apply h.jobs
  · intro _ _
    apply hrequested

/-- A view is awake when nothing waits, or while the loop has nothing to draw on. -/
theorem awake_of_idle (hheard : v.surface.Heard) (hord : v.backlog.InOrder)
    (hidle : v.backlog.toList = [] ∨ v.surface.loop ≠ .running true) :
  v.Awake
  := by
  refine ⟨hheard, hord, ?_⟩
  intro hloop hpending
  rcases hidle with hempty | hready
  · refine absurd ?_ hpending
    rw [pending, hord.size_eq, hempty, List.length_nil]
  · exact absurd hloop hready

/-- A frame leaves a view awake; one that fails leaves at least its surface heard. -/
theorem awake_draw (v : View) (hheard : v.surface.Heard) (hord : v.backlog.InOrder) :
  v.draw.1.surface.Heard ∧ v.draw.1.backlog.InOrder ∧ (v.draw.2 = none → v.draw.1.Awake)
  := by
  obtain ⟨hheard', hord', hempty⟩ := heard_drain v 0 hheard hord
  rw [View.draw]
  split
  · rename_i w label hw
    rw [hw] at hheard' hord'
    exact ⟨hheard', hord', by simp⟩
  · rename_i w n hw
    rw [hw] at hheard' hord' hempty
    have hawake : w.Awake := awake_of_idle hheard' hord' (.inl (hempty ⟨n, rfl⟩))
    suffices hasks : w.Asks _ from
      ⟨hasks.heard hheard', hasks.inOrder hord', fun _ => hawake.of_asks hasks⟩
    simp only
    split
    · exact (asks_emit w _).trans (asks_animate _)
    · apply asks_animate

/-- A turn leaves a view awake: it handles everything that is waiting, or it ends with a
loop that has nothing to draw on. -/
theorem Awake.turn (h : v.Awake) :
  v.turn.1.Awake
  := by
  obtain hidle | ⟨hrunning, hrequested, htarget⟩ | ⟨hrequested, htarget⟩ := v.surface.turn_cases
  · rw [View.turn, Surface.beginTurn?_eq, if_neg hidle]
    apply h
  · rw [View.turn, Surface.beginTurn?_eq, if_pos ⟨hrunning, hrequested⟩]
    simp only [htarget, Bool.false_eq_true, if_false]
    refine awake_of_idle v.surface.heard_taken h.inOrder (.inr ?_)
    simp [Surface.taken, htarget]
  · have hasks := asks_prepareAll { v with surface := v.surface.taken } v.surface.due.callbacks
    obtain ⟨hheard, hord, hawake⟩ := awake_draw _ (hasks.heard v.surface.heard_taken)
      (hasks.inOrder h.inOrder)
    rw [View.turn, Surface.beginTurn?_eq,
      if_pos ⟨Surface.isRunning_of_hasTarget htarget, hrequested⟩, if_pos htarget]
    simp only [Surface.due] at hheard hord hawake ⊢
    split
    · rename_i w hw
      rw [hw] at hawake
      have hw' := hawake rfl
      exact ⟨hw'.heard.finishFrame, hw'.inOrder, hw'.jobs⟩
    · rename_i w label hw
      rw [hw] at hheard hord
      refine awake_of_idle hheard.stop hord (.inr ?_)
      simp [Surface.stop]

theorem Awake.act (h : v.Awake) (a : Act) :
  (v.act a).Awake
  := by
  cases a with
  | alarm generation => apply h.of_asks (Elementary.fire generation).asks
  | step st =>
    cases st with
    | host st => apply h.of_asks (v.reaches_perform st).asks
    | frame =>
      rw [View.act, step_frame]
      apply h.turn
    | start =>
      simp only [View.act, step]
      split
      · rename_i surface hs
        refine awake_of_idle (h.heard.start hs) h.inOrder (.inr ?_)
        unfold Surface.start at hs
        split at hs
        · obtain rfl := Except.ok.inj hs
          simp
        · cases hs
      · apply h
    | stop =>
      simp only [View.act, step]
      split
      · refine awake_of_idle h.heard.stop h.inOrder (.inr ?_)
        simp [Surface.stop]
      · apply h

/-! ### Runs -/

/-- What may happen to a view whose surface may also be reported to by itself. -/
inductive Move where
  | act (a : Act)
  | report (x : Signal)

/-- The view after a move. -/
def move (v : View) : Move → View
  | .act a => v.act a
  | .report x => v.signal x

theorem Awake.move (h : v.Awake) (m : Move) :
  (v.move m).Awake
  := by
  cases m with
  | act a => apply h.act
  | report x => apply h.of_asks (asks_signal v x)

theorem Awake.moves (h : v.Awake) (ms : List Move) :
  (ms.foldl View.move v).Awake
  := by
  induction ms generalizing v with
  | nil => apply h
  | cons m ms ih => apply ih (h.move m)

/-- At every point between the turns of a view, on a surface that may have been used
before, a request is waiting if a creation or a loss is pending, and also if the loop has
something to draw on and a change of size or a job is waiting. -/
theorem request_waits (settings : Settings) (capabilities : Capabilities) (clockRate : Int)
    (earlier : List Surface.Act) (ms : List Move) :
  let surface := (({} : Surface.History).after earlier).surface.stop
  let v := ms.foldl move (new settings capabilities surface clockRate)
  (v.surface.created = true ∨ v.surface.lost = true → v.surface.requested = true)
    ∧ (v.surface.loop = .running true → v.pending ≠ 0 ∨ v.surface.sizeChanged = true →
        v.surface.requested = true)
  := by
  intro surface v
  have hsurface : surface.Heard := (Surface.History.heard_after earlier).stop
  have hnew : (new settings capabilities surface clockRate).Awake :=
    awake_of_idle hsurface Backlog.inOrder_empty (.inl rfl)
  have hv : v.Awake := hnew.moves ms
  refine ⟨hv.heard.target, ?_⟩
  rintro hloop (hjobs | hsize)
  · apply hv.jobs hloop hjobs
  · apply hv.heard.size hloop hsize

/-- A task resizes the window and hides it while a frame is being drawn; the loop is still
ready afterwards, and a request is waiting. -/
theorem request_waits_mid_frame :
  let ms : List Move :=
    [.report .created, .act (.step .start),
      .act (.step (.host (.post "hide" [.send (.size 3 4), .send (.lifecycle 3 0)]))),
      .act (.step .frame)]
  let v := ms.foldl move (new Settings.default Capabilities.all {} 1)
  v.surface.lost = true ∧ v.surface.loop = .running true ∧ v.surface.sizeChanged = true
    ∧ v.surface.requested = true
  := by
  intro ms v
  have hlost : v.surface.lost = true := by decide +kernel
  have hloop : v.surface.loop = .running true := by decide +kernel
  have hsize : v.surface.sizeChanged = true := by decide +kernel
  have h := request_waits Settings.default Capabilities.all 1 [] ms
  exact ⟨hlost, hloop, hsize, h.2 hloop (.inr hsize)⟩

end View

end SurfaceHost
