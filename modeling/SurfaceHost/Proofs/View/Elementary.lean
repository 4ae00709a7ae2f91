import Mathlib.Logic.Relation
import SurfaceHost.Proofs.InputSide

/-!
# Elementary steps

A view takes in a motion in several steps: first the contacts are brought up to date, then
jobs are added one at a time, and the detector is shown the motion and its report delivered
(`foldl_begin`).  So whatever a host does to a view is made of a few elementary steps:
contacts are placed, a job is added, the detector is shown a motion or its alarm goes off,
time passes, something is logged or reported to the surface (`reaches_perform`).  What each
of them keeps is kept by every step of the host and by every task.
-/

namespace SurfaceHost

/-! ### The steps of a motion -/

/-- A step that is left to do for a motion. -/
inductive Errand where
  | enqueue (j : Job)
  /-- The detector is shown the motion. -/
  | detect (e : Motion)
  /-- What the detector made of the motion is delivered. -/
  | report (g : Option Gesture)

/-- Whether a job has nothing to do with flings, and calls the engine only for input. -/
def Job.isOrdinary : Job → Bool
  | .call c => c.isInput
  | .release _ | .task _ _ => true
  | .stopFling | .startFling _ _ _ _ => false

namespace View

/-- Adds a call for a single pointer, if the engine takes such calls. -/
def pointerErrands (v : View) (c : Call) : List Errand :=
  if v.capabilities.pointer then [.enqueue (.call c)] else []

/-- Brings the contacts up to date with a motion, and tells what is left to do.  A release
is shown to the detector before anything is added, and all else after. -/
def begin (v : View) (e : Motion) : View × List Errand :=
  match e.phase with
  | .down =>
    let primary := if v.contacts.isEmpty then e.pointer else v.primary
    let pointer := v.pointerErrands (.pointerDown e.x e.y e.pointer)
    ({ v with primary, contacts := v.contacts.insert ⟨e.pointer, e.x, e.y⟩ },
      if e.pointer = primary then
        .enqueue (.call (.mouseDown (Word.truncate32 e.x) (Word.truncate32 e.y)))
          :: (pointer ++ [.detect e])
      else pointer)
  | .move =>
    let pointer := v.pointerErrands (.pointerMove e.x e.y e.pointer)
    if v.contacts.contains e.pointer then
      ({ v with contacts := v.contacts.insert ⟨e.pointer, e.x, e.y⟩ },
        if e.pointer = v.primary then
          .enqueue (.call (.mouseMove (Word.truncate32 e.x) (Word.truncate32 e.y)))
            :: (pointer ++ [.detect e])
        else pointer)
    else (v, [])
  | .up =>
    let pointer := v.pointerErrands (.pointerUp e.x e.y e.pointer)
    let lifted := { v with contacts := v.contacts.erase e.pointer }
    if v.contacts.contains e.pointer then
      if e.pointer = v.primary then
        ({ lifted with primary := -1 },
          .detect e
            :: .enqueue (.call (.mouseUp (Word.truncate32 e.x) (Word.truncate32 e.y)))
            :: pointer)
      else (lifted, pointer)
    else (v, [])
  | .cancel =>
    let released := v.contacts.map fun c => (c, c.pointer == v.primary)
    ({ v with contacts := [], primary := -1 },
      .detect e :: if released.isEmpty then [] else [.enqueue (.release released)])
  | .unknown => (v, [])

/-- At first a motion changes nothing but the contacts and the primary pointer. -/
theorem begin_eq (v : View) (e : Motion) :
  (v.begin e).1 =
    { v with contacts := (v.begin e).1.contacts, primary := (v.begin e).1.primary }
  := by
  rw [begin]
  cases e.phase with
  | down => rfl
  | move =>
    simp only
    split
    · rfl
    · rfl
  | up =>
    simp only
    split
    · split
      · rfl
      · rfl
    · rfl
  | cancel => rfl
  | unknown => rfl

/-- Does one thing that was left to do. -/
def carryOut (v : View) : Errand → View
  | .enqueue j => v.enqueue j
  | .detect e => v.detect e
  | .report g => v.deliver g

/-- A gesture that is delivered adds one job at most, and a fling is logged before. -/
theorem deliver_cases (v : View) (g : Option Gesture) :
  v.deliver g = v
    ∨ ∃ (u : View) (j : Job), (u = v ∨ ∃ r, u = v.emit (.log r))
      ∧ (∀ c, j = .call c → c.isInput = true) ∧ v.deliver g = u.enqueue j
  := by
  have hcall {c : Call} (hc : c.isInput = true) : ∀ d, Job.call c = .call d → d.isInput = true := by
    rintro d ⟨⟩
    apply hc
  cases g with
  | none => exact .inl rfl
  | some g =>
    cases g with
    | down e => exact .inr ⟨v, _, .inl rfl, by simp, rfl⟩
    | scroll down current dx dy => exact .inr ⟨v, _, .inl rfl, hcall rfl, rfl⟩
    | fling down up vx vy => exact .inr ⟨_, _, .inr ⟨_, rfl⟩, by simp, rfl⟩
    | longPress down =>
      rw [deliver]
      split
      · exact .inr ⟨v, _, .inl rfl, hcall rfl, rfl⟩
      · exact .inl rfl

@[simp]
theorem capabilities_deliver (v : View) (g : Option Gesture) :
  (v.deliver g).capabilities = v.capabilities
  := by
  obtain heq | ⟨u, j, hu, -, heq⟩ := v.deliver_cases g
  · rw [heq]
  · rw [heq]
    rcases hu with rfl | ⟨r, rfl⟩
    · rfl
    · rfl

theorem foldl_pointerErrands {v w : View} (h : w.capabilities = v.capabilities) (c : Call) :
  (v.pointerErrands c).foldl carryOut w = w.enqueuePointer c
  := by
  rw [pointerErrands, enqueuePointer, h]
  split
  · rfl
  · rfl

/-- The steps of a motion come to what the view does with it. -/
theorem foldl_begin (v : View) (e : Motion) :
  (v.begin e).2.foldl carryOut (v.begin e).1 = v.touch e
  := by
  rw [begin, touch]
  cases e.phase with
  | down =>
    simp only [touchDown]
    generalize (if v.contacts.isEmpty then e.pointer else v.primary) = primary
    split
    · rw [List.foldl_cons, List.foldl_append, foldl_pointerErrands]
      · rfl
      · rfl
    · rw [foldl_pointerErrands]
      rfl
  | move =>
    simp only [touchMove]
    split
    · simp only
      split
      · rw [List.foldl_cons, List.foldl_append, foldl_pointerErrands]
        · rfl
        · rfl
      · rw [foldl_pointerErrands]
        rfl
    · rfl
  | up =>
    simp only [touchUp]
    split
    · split
      · rw [List.foldl_cons, List.foldl_cons, foldl_pointerErrands]
        · rfl
        · simp [carryOut, enqueue, detect]
      · rw [foldl_pointerErrands]
        rfl
    · rfl
  | cancel =>
    simp only [touchCancel, List.foldl_cons]
    split
    · rfl
    · rfl
  | unknown => rfl

/-! ### Alarms -/

/-- The alarm of a generation goes off, in time or late. -/
def fire (v : View) (generation : UInt64) : View :=
  { v with detector := (v.detector.fire generation).1 }.deliver (v.detector.fire generation).2

/-- Time that passes lets the alarm of the current generation go off, if it is due. -/
theorem advance_eq_fire (v : View) (ns : Int) :
  v.advance ns =
    if v.detector.alarm.any (· ≤ v.now + max ns 0) then
      { v with now := v.now + max ns 0, detector := { v.detector with alarm := none } }.fire
        v.detector.generation
    else
      { v with now := v.now + max ns 0 }
  := by
  rw [View.advance, Detector.advance]
  cases halarm : v.detector.alarm with
  | none => rfl
  | some due =>
    by_cases hdue : due ≤ v.now + max ns 0
    · simp [hdue, fire]
    · simp [hdue, deliver]

/-! ### Elementary steps -/

/-- One elementary step of a host. -/
inductive Elementary (v : View) : View → Prop where
  | place (contacts : Contacts) (primary : Int64) : Elementary v { v with contacts, primary }
  /-- Flings are started and stopped only by what the detector reports. -/
  | enqueue {j : Job} (hj : j.isOrdinary = true) : Elementary v (v.enqueue j)
  | detect (e : Motion) : Elementary v (v.detect e)
  | fire (generation : UInt64) : Elementary v (v.fire generation)
  | wait (now : Instant) (alarm : Option Instant) :
    Elementary v { v with now, detector := { v.detector with alarm } }
  | log {r : Log.Record} (hr : r.message ≠ "fling") : Elementary v (v.emit (.log r))
  | signal (x : Signal) : Elementary v (v.signal x)

/-- Elementary steps lead from one view to another. -/
def Reaches (v w : View) : Prop :=
  Relation.ReflTransGen Elementary v w

theorem Reaches.refl (v : View) :
  v.Reaches v
  := Relation.ReflTransGen.refl

theorem Elementary.reaches {v w : View} (h : v.Elementary w) :
  v.Reaches w
  := Relation.ReflTransGen.single h

theorem Reaches.trans {u v w : View} (h : u.Reaches v) (h' : v.Reaches w) :
  u.Reaches w
  := Relation.ReflTransGen.trans h h'

/-- What every elementary step keeps is kept along the way. -/
theorem Reaches.keeps {P : View → Prop} (hkeep : ∀ {v w : View}, v.Elementary w → P v → P w)
    {v w : View} (h : v.Reaches w) (hv : P v) :
  P w
  := by
  induction h with
  | refl => apply hv
  | tail _ hstep ih => apply hkeep hstep ih

/-! ### Motions -/

theorem of_mem_pointerErrands {v : View} {c : Call} {a : Errand} (ha : a ∈ v.pointerErrands c) :
  a = .enqueue (.call c)
  := by
  rw [pointerErrands] at ha
  split at ha
  · apply List.mem_singleton.mp ha
  · cases ha

/-- What is left to do for a motion is to add ordinary jobs and to show it to the detector. -/
theorem of_mem_begin {v : View} {e : Motion} {a : Errand} (ha : a ∈ (v.begin e).2) :
  (∃ j : Job, a = .enqueue j ∧ j.isOrdinary = true) ∨ a = .detect e
  := by
  have hcall {c : Call} (hc : c.isInput = true) (h : a ∈ v.pointerErrands c) :
      (∃ j : Job, a = .enqueue j ∧ j.isOrdinary = true) ∨ a = .detect e :=
    .inl ⟨.call c, of_mem_pointerErrands h, hc⟩
  rw [begin] at ha
  cases hphase : e.phase with
  | down =>
    simp only [hphase] at ha
    generalize (if v.contacts.isEmpty then e.pointer else v.primary) = primary at ha
    split at ha
    · rcases List.mem_cons.mp ha with rfl | ha
      · exact .inl ⟨_, rfl, rfl⟩
      · rcases List.mem_append.mp ha with ha | ha
        · apply hcall rfl ha
        · exact .inr (List.mem_singleton.mp ha)
    · apply hcall rfl ha
  | move =>
    simp only [hphase] at ha
    split at ha
    · simp only at ha
      split at ha
      · rcases List.mem_cons.mp ha with rfl | ha
        · exact .inl ⟨_, rfl, rfl⟩
        · rcases List.mem_append.mp ha with ha | ha
          · apply hcall rfl ha
          · exact .inr (List.mem_singleton.mp ha)
      · apply hcall rfl ha
    · cases ha
  | up =>
    simp only [hphase] at ha
    split at ha
    · split at ha
      · rcases List.mem_cons.mp ha with rfl | ha
        · exact .inr rfl
        · rcases List.mem_cons.mp ha with rfl | ha
          · exact .inl ⟨_, rfl, rfl⟩
          · apply hcall rfl ha
      · apply hcall rfl ha
    · cases ha
  | cancel =>
    simp only [hphase] at ha
    rcases List.mem_cons.mp ha with rfl | ha
    · exact .inr rfl
    · split at ha
      · cases ha
      · exact .inl ⟨_, List.mem_singleton.mp ha, rfl⟩
  | unknown =>
    simp only [hphase] at ha
    cases ha

/-- What the steps of a motion keep is kept by the motion. -/
theorem touch_keeps {P : View → Prop} {e : Motion}
    (hplace : ∀ {v : View} (contacts : Contacts) (primary : Int64),
      P v → P { v with contacts, primary })
    (henqueue : ∀ {v : View} {j : Job}, j.isOrdinary = true → P v → P (v.enqueue j))
    (hdetect : ∀ {v : View}, P v → P (v.detect e)) {v : View} (hv : P v) :
  P (v.touch e)
  := by
  have hfold (todo : List Errand)
      (htodo : ∀ a ∈ todo, (∃ j : Job, a = .enqueue j ∧ j.isOrdinary = true) ∨ a = .detect e)
      {v : View} (hv : P v) : P (todo.foldl carryOut v) := by
    induction todo generalizing v with
    | nil => apply hv
    | cons a rest ih =>
      obtain ⟨ha, hrest⟩ := List.forall_mem_cons.mp htodo
      apply ih hrest
      rcases ha with ⟨j, rfl, hj⟩ | rfl
      · apply henqueue hj hv
      · apply hdetect hv
  rw [← foldl_begin]
  apply hfold
  · intro a ha
    apply of_mem_begin ha
  · rw [begin_eq]
    apply hplace _ _ hv

theorem reaches_touch (v : View) (e : Motion) :
  v.Reaches (v.touch e)
  := by
  apply touch_keeps (P := v.Reaches)
  · intro u contacts primary hu
    apply hu.trans (Elementary.place contacts primary).reaches
  · intro u j hj hu
    apply hu.trans (Elementary.enqueue hj).reaches
  · intro u hu
    apply hu.trans (Elementary.detect e).reaches
  · apply Reaches.refl

/-! ### All other steps -/

theorem reaches_send (v : View) (e : HostEvent) :
  v.Reaches (v.send e)
  := by
  cases e with
  | lifecycle before after =>
    simp only [send]
    split
    · apply (Elementary.log (by decide)).reaches.trans (Elementary.signal _).reaches
    · split
      · apply (Elementary.log (by decide)).reaches.trans (Elementary.signal _).reaches
      · apply Reaches.refl
  | size width height => exact (Elementary.signal _).reaches
  | paint => exact (Elementary.signal _).reaches
  | touch phase x y pointer => apply reaches_touch
  | other typeName => exact (Elementary.log (by simp [Log.Record.debug])).reaches

theorem reaches_advance (v : View) (ns : Int) :
  v.Reaches (v.advance ns)
  := by
  rw [advance_eq_fire]
  split
  · apply (Elementary.wait _ _).reaches.trans (Elementary.fire _).reaches
  · exact (Elementary.wait _ v.detector.alarm).reaches

/-- Every step of the host is made of elementary ones. -/
theorem reaches_perform (v : View) (st : HostStep) :
  v.Reaches (v.perform st).1
  := by
  cases st with
  | touch phase x y pointer time => apply reaches_touch
  | send e => apply reaches_send
  | post label body => exact (Elementary.enqueue rfl).reaches
  | advance ns => apply reaches_advance
  | postNone | fail | look => apply Reaches.refl

/-- So are the steps of a task, up to the one that fails. -/
theorem reaches_performAll (v : View) (body : List HostStep) :
  v.Reaches (v.performAll body).1
  := by
  induction body generalizing v with
  | nil => apply Reaches.refl
  | cons st rest ih =>
    have hfirst := v.reaches_perform st
    rw [performAll]
    split
    · rename_i w hw
      rw [hw] at hfirst
      apply hfirst.trans (ih w)
    · rename_i w label hw
      rw [hw] at hfirst
      apply hfirst

end View

end SurfaceHost
