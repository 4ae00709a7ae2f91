import SurfaceHost.View.Basic

/-!
# The load of a view

The load measures what is waiting in a view's backlog, everything counted that waiting
tasks may still add to it.  Each step of the host adds a bounded load, which is why
draining a backlog comes to an end.
-/

namespace SurfaceHost

mutual

/-- The most load that a step adds. -/
def HostStep.load : HostStep → Nat
  | .touch _ _ _ _ _ | .send _ => 3
  | .post _ body => bodyLoad body + 1
  | .advance _ => 1
  | .postNone | .fail _ | .look => 0

/-- The most load that steps add. -/
def bodyLoad : List HostStep → Nat
  | [] => 0
  | s :: rest => s.load + bodyLoad rest

end

/-- The load of a waiting job. -/
def Job.load : Job → Nat
  | .task _ body => bodyLoad body + 1
  | _ => 1

/-- The load of a backlog. -/
def Backlog.load (b : Backlog Job) : Nat :=
  total Job.load b.toList

theorem Backlog.load_push_le (b : Backlog Job) (j : Job) :
  (b.push j).load ≤ b.load + j.load
  := by
  obtain h | h := b.toList_push_cases j <;> simp [load, h]

theorem Backlog.load_of_pop? {b rest : Backlog Job} {j : Job} (h : b.pop? = some (j, rest)) :
  b.load = j.load + rest.load
  := by
  simp [load, toList_of_pop?_eq_some h]

namespace View

/-- The load of what is waiting. -/
def load (v : View) : Nat :=
  v.backlog.load

theorem load_enqueue_le (v : View) (j : Job) :
  (v.enqueue j).load ≤ v.load + j.load
  := v.backlog.load_push_le j

theorem load_enqueue_call_le (v : View) (c : Call) :
  (v.enqueue (.call c)).load ≤ v.load + 1
  := v.load_enqueue_le (.call c)

theorem load_enqueuePointer_le (v : View) (c : Call) :
  (v.enqueuePointer c).load ≤ v.load + 1
  := by
  unfold enqueuePointer
  split
  · exact v.load_enqueue_call_le c
  · omega

theorem load_deliver_le (v : View) (g : Option Gesture) :
  (v.deliver g).load ≤ v.load + 1
  := by
  unfold deliver
  split
  · omega
  · exact v.load_enqueue_le .stopFling
  · exact v.load_enqueue_call_le _
  · rename_i vx vy
    exact load_enqueue_le (v.emit _) (.startFling _ vx vy v.flingLimit)
  · split
    · exact v.load_enqueue_call_le _
    · omega

theorem load_detect_le (v : View) (e : Motion) :
  (v.detect e).load ≤ v.load + 1
  := load_deliver_le { v with detector := (v.detector.touch v.now e).1 } _

theorem load_touchDown_le (v : View) (e : Motion) :
  (v.touchDown e).load ≤ v.load + 3
  := by
  simp only [touchDown]
  generalize (if v.contacts.isEmpty then e.pointer else v.primary) = primary
  split
  all_goals generalize h : ({ v with primary := _, contacts := _ } : View) = w
  all_goals have hw : w.load = v.load := by subst h; rfl
  · have h₁ := load_enqueue_call_le w (.mouseDown (Word.truncate32 e.x) (Word.truncate32 e.y))
    generalize w.enqueue _ = w₁ at h₁ ⊢
    have h₂ := load_enqueuePointer_le w₁ (.pointerDown e.x e.y e.pointer)
    generalize w₁.enqueuePointer _ = w₂ at h₂ ⊢
    have h₃ := load_detect_le w₂ e
    omega
  · have := load_enqueuePointer_le w (.pointerDown e.x e.y e.pointer)
    omega

theorem load_touchMove_le (v : View) (e : Motion) :
  (v.touchMove e).load ≤ v.load + 3
  := by
  simp only [touchMove]
  split
  · split
    all_goals generalize h : ({ v with contacts := _ } : View) = w
    all_goals have hw : w.load = v.load := by subst h; rfl
    · have h₁ := load_enqueue_call_le w (.mouseMove (Word.truncate32 e.x) (Word.truncate32 e.y))
      generalize w.enqueue _ = w₁ at h₁ ⊢
      have h₂ := load_enqueuePointer_le w₁ (.pointerMove e.x e.y e.pointer)
      generalize w₁.enqueuePointer _ = w₂ at h₂ ⊢
      have h₃ := load_detect_le w₂ e
      omega
    · have := load_enqueuePointer_le w (.pointerMove e.x e.y e.pointer)
      omega
  · omega

theorem load_touchUp_le (v : View) (e : Motion) :
  (v.touchUp e).load ≤ v.load + 3
  := by
  simp only [touchUp]
  split
  · split
    · generalize h : ({ v with contacts := _, primary := _ } : View) = w
      have hw : w.load = v.load := by subst h; rfl
      have h₁ := load_detect_le w e
      generalize w.detect e = w₁ at h₁ ⊢
      have h₂ := load_enqueue_call_le w₁ (.mouseUp (Word.truncate32 e.x) (Word.truncate32 e.y))
      generalize w₁.enqueue _ = w₂ at h₂ ⊢
      have h₃ := load_enqueuePointer_le w₂ (.pointerUp e.x e.y e.pointer)
      omega
    · generalize h : ({ v with contacts := _ } : View) = w
      have hw : w.load = v.load := by subst h; rfl
      have := load_enqueuePointer_le w (.pointerUp e.x e.y e.pointer)
      omega
  · omega

theorem load_touchCancel_le (v : View) (e : Motion) :
  (v.touchCancel e).load ≤ v.load + 3
  := by
  simp only [touchCancel]
  generalize h : ({ v with contacts := _, primary := _ } : View) = w
  have hw : w.load = v.load := by subst h; rfl
  have h₁ := load_detect_le w e
  split
  · omega
  · generalize w.detect e = w₁ at h₁ ⊢
    have h₂ :=
      load_enqueue_le w₁ (.release (v.contacts.map fun c => (c, c.pointer == v.primary)))
    simp only [Job.load] at h₂
    omega

theorem load_touch_le (v : View) (e : Motion) :
  (v.touch e).load ≤ v.load + 3
  := by
  unfold touch
  split
  · exact v.load_touchDown_le e
  · exact v.load_touchMove_le e
  · exact v.load_touchUp_le e
  · exact v.load_touchCancel_le e
  · omega

theorem load_send_le (v : View) (e : HostEvent) :
  (v.send e).load ≤ v.load + 3
  := by
  have signal (w : View) (s : Signal) : (w.signal s).load = w.load := rfl
  have emit (o : Output) : (v.emit o).load = v.load := rfl
  cases e with
  | lifecycle before after =>
    simp only [send]
    split
    · rw [signal, emit]
      omega
    · split
      · rw [signal, emit]
        omega
      · omega
  | touch phase x y pointer => exact v.load_touch_le _
  | other typeName =>
    simp only [send]
    rw [emit]
    omega
  | size width height =>
    simp only [send]
    rw [signal]
    omega
  | paint =>
    simp only [send]
    rw [signal]
    omega

theorem load_advance_le (v : View) (ns : Int) :
  (v.advance ns).load ≤ v.load + 1
  := load_deliver_le
    { v with now := v.now + max ns 0, detector := (v.detector.advance (v.now + max ns 0)).1 } _

/-- A step adds at most its own load. -/
theorem load_perform_le (v : View) (s : HostStep) :
  (v.perform s).1.load ≤ v.load + s.load
  := by
  cases s with
  | touch phase x y pointer time => exact v.load_touch_le _
  | send e => exact v.load_send_le e
  | post label body => exact v.load_enqueue_le (.task label body)
  | advance ns => exact v.load_advance_le ns
  | postNone | fail | look => simp [perform]

theorem load_performAll_le (v : View) (ss : List HostStep) :
  (v.performAll ss).1.load ≤ v.load + bodyLoad ss
  := by
  induction ss generalizing v with
  | nil => simp [performAll]
  | cons s rest ih =>
    have h₁ := v.load_perform_le s
    simp only [performAll, bodyLoad]
    split
    · rename_i w h
      rw [h] at h₁
      have h₂ := ih w
      simp only at h₁
      omega
    · rename_i w label h
      rw [h] at h₁
      simp only at h₁ ⊢
      omega

end View

end SurfaceHost
