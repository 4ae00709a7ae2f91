import SurfaceHost.Proofs.Surface.History
import SurfaceHost.Proofs.View.Run

/-!
# Growing queues

The jobs of a view that is fit wait in order, and call the engine only for input.  Whatever
the host does only adds such jobs behind them (`Reaches.grows`), so the view stays fit.
-/

namespace SurfaceHost

/-- What is left after the oldest one is taken was there before. -/
theorem Backlog.mem_of_pop? {α : Type} {b rest : Backlog α} {a c : α}
    (hpop : b.pop? = some (a, rest)) (hc : c ∈ rest.toList) :
  c ∈ b.toList
  := by
  rw [toList_of_pop?_eq_some hpop]
  apply List.mem_cons_of_mem a hc

namespace View

/-- The jobs that wait are in order, and those that are calls are input calls. -/
structure Fit (v : View) : Prop where
  inOrder : v.backlog.InOrder
  calls : ∀ c, Job.call c ∈ v.backlog.toList → c.isInput = true

theorem Fit.pop? {v : View} (h : v.Fit) {j : Job} {rest : Backlog Job}
    (hpop : v.backlog.pop? = some (j, rest)) :
  Fit { v with backlog := rest }
  := by
  constructor
  · apply h.inOrder.pop? hpop
  · intro c hc
    apply h.calls c (Backlog.mem_of_pop? hpop hc)

theorem fit_new (settings : Settings) (capabilities : Capabilities) (surface : Surface)
    (clockRate : Int) :
  (new settings capabilities surface clockRate).Fit
  := by
  constructor
  · apply Backlog.inOrder_empty
  · intro c hc
    cases hc

/-- The calls that the oldest job makes are input calls. -/
theorem Fit.isInput_of_pop? {v : View} (h : v.Fit) {j : Job} {rest : Backlog Job}
    (hpop : v.backlog.pop? = some (j, rest)) (capabilities : Capabilities) :
  ∀ c ∈ j.calls capabilities, c.isInput = true
  := by
  intro c hc
  cases j with
  | call d =>
    obtain rfl := List.mem_singleton.mp hc
    apply h.calls c
    rw [Backlog.toList_of_pop?_eq_some hpop]
    apply List.mem_cons_self
  | release contacts => apply capabilities.isInput_of_mem_releaseCalls hc
  | stopFling | startFling | task => cases hc

/-- One view comes from another in that jobs are added, none of them a call other than for
input.  No frame is finished meanwhile. -/
structure Grows (v w : View) : Prop where
  frames_eq : w.surface.frames = v.surface.frames
  backlog_eq : ∃ added : List Job,
    w.backlog = added.foldl Backlog.push v.backlog ∧ ∀ c, Job.call c ∈ added → c.isInput = true

theorem Grows.of_same {v w : View} (hsurface : w.surface.frames = v.surface.frames)
    (hbacklog : w.backlog = v.backlog) :
  v.Grows w
  := ⟨hsurface, [], hbacklog, by simp⟩

theorem Grows.trans {u v w : View} (h : u.Grows v) (h' : v.Grows w) :
  u.Grows w
  := by
  obtain ⟨hframes, added, hbacklog, hcalls⟩ := h
  obtain ⟨hframes', added', hbacklog', hcalls'⟩ := h'
  use hframes'.trans hframes, added ++ added'
  constructor
  · rw [hbacklog', hbacklog, List.foldl_append]
  · intro c hc
    rcases List.mem_append.mp hc with hc | hc
    · apply hcalls c hc
    · apply hcalls' c hc

/-- A view may be changed first, as long as its jobs and its frames stay the same. -/
theorem Grows.of_update {u v w : View} (hframes : v.surface.frames = u.surface.frames)
    (hbacklog : v.backlog = u.backlog) (h : v.Grows w) :
  u.Grows w
  := (Grows.of_same hframes hbacklog).trans h

/-- What is added to a queue stands behind all that waits. -/
theorem Fit.grows {v w : View} (hfit : v.Fit) (h : v.Grows w) :
  w.Fit ∧ ∃ added, w.backlog.toList = v.backlog.toList ++ added
  := by
  obtain ⟨-, added, hbacklog, hcalls⟩ := h
  have hpush (b : Backlog Job) (hord : b.InOrder) :
      (added.foldl Backlog.push b).InOrder
        ∧ (added.foldl Backlog.push b).toList = b.toList ++ added := by
    clear hbacklog hcalls
    induction added generalizing b with
    | nil => exact ⟨hord, (List.append_nil _).symm⟩
    | cons j rest ih =>
      obtain ⟨hord', hlist⟩ := ih (b.push j) (hord.push j)
      use hord'
      rw [List.foldl_cons, hlist, hord.toList_push, List.append_assoc]
      rfl
  obtain ⟨hord, hlist⟩ := hpush v.backlog hfit.inOrder
  rw [← hbacklog] at hord hlist
  use ⟨hord, ?_⟩, added, hlist
  intro c hc
  rw [hlist] at hc
  rcases List.mem_append.mp hc with hc | hc
  · apply hfit.calls c hc
  · apply hcalls c hc

theorem grows_enqueue (v : View) {j : Job} (hj : ∀ c, j = .call c → c.isInput = true) :
  v.Grows (v.enqueue j)
  := by
  use Surface.frames_receive v.surface .request, [j], rfl
  intro c hc
  apply hj c (List.mem_singleton.mp hc).symm

theorem grows_emit (v : View) (o : Output) :
  v.Grows (v.emit o)
  := .of_same rfl rfl

theorem grows_deliver (v : View) (g : Option Gesture) :
  v.Grows (v.deliver g)
  := by
  obtain heq | ⟨u, j, hu, hj, heq⟩ := v.deliver_cases g
  · exact .of_same (by rw [heq]) (by rw [heq])
  · rw [heq]
    apply Grows.of_update _ _ (u.grows_enqueue hj)
    · rcases hu with rfl | ⟨r, rfl⟩ <;> rfl
    · rcases hu with rfl | ⟨r, rfl⟩ <;> rfl

theorem Elementary.grows {v w : View} (h : v.Elementary w) :
  v.Grows w
  := by
  cases h with
  | place => exact .of_same rfl rfl
  | enqueue hj =>
    apply grows_enqueue
    rintro c rfl
    apply hj
  | detect e =>
    rw [View.detect]
    apply Grows.of_update _ _ (grows_deliver _ _) <;> rfl
  | fire generation =>
    rw [View.fire]
    apply Grows.of_update _ _ (grows_deliver _ _) <;> rfl
  | wait => exact .of_same rfl rfl
  | log => exact .of_same rfl rfl
  | signal x => exact .of_same (Surface.frames_receive v.surface x) rfl

theorem Reaches.grows {v w : View} (h : v.Reaches w) :
  v.Grows w
  := h.keeps (P := v.Grows) (fun hstep hgrows => hgrows.trans hstep.grows) (.of_same rfl rfl)

end View

end SurfaceHost
