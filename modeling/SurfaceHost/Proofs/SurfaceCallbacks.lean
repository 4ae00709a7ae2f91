import SurfaceHost.Proofs.Surface.History

/-!
# The callbacks of a surface

In whatever way a surface is used, its renderer can rely on the order and the occasion of
its callbacks: a loop begins with a creation, a creation and a change of size come before
the frame, and a frame is drawn only while there is something to draw on and with the
size that was reported last.  A loop that is started anew does not know of a drawing
target that a turn has seen before: until the next creation its turns draw nothing.
-/

namespace SurfaceHost

/-- Whether a callback tells a size. -/
def Callback.IsChange (c : Callback) : Prop :=
  ∃ width height, c = .changed width height

namespace Surface

/-- Whether the renderer was called. -/
def Event.IsCallback (e : Event) : Prop :=
  ∃ c, e = .callback c

/-- Since the last creation, the last size that the renderer was told is this one; or it
was told none, and neither number is positive. -/
def Told (cs : List Callback) (width height : Int64) : Prop :=
  ∃ front back, cs = front ++ .created :: back ∧ .created ∉ back
    ∧ (Since (· = .changed width height) Callback.IsChange back
      ∨ (∀ c ∈ back, ¬ c.IsChange) ∧ width ≤ 0 ∧ height ≤ 0)

theorem told_created_changed (cs : List Callback) (width height : Int64) :
  Told (cs ++ [.created, .changed width height, .draw]) width height
  := by
  refine ⟨cs, [.changed width height, .draw], rfl, by simp, .inl ?_⟩
  exact ⟨[], _, [.draw], rfl, rfl, by simp [Callback.IsChange]⟩

theorem told_created {width height : Int64} (cs : List Callback) (hwidth : width ≤ 0)
    (hheight : height ≤ 0) :
  Told (cs ++ [.created, .draw]) width height
  := ⟨cs, [.draw], rfl, by simp, .inr ⟨by simp [Callback.IsChange], hwidth, hheight⟩⟩

theorem told_changed {cs : List Callback} (h : Since (· = .created) (· = .created) cs)
    (width height : Int64) :
  Told (cs ++ [.changed width height, .draw]) width height
  := by
  obtain ⟨front, _, back, rfl, rfl, hback⟩ := h
  refine ⟨front, back ++ [.changed width height, .draw], by simp, ?_, .inl ?_⟩
  · rw [List.mem_append]
    rintro (h | h)
    · apply hback _ h rfl
    · simp at h
  · exact ⟨back, _, [.draw], rfl, rfl, by simp [Callback.IsChange]⟩

theorem Told.draw {cs : List Callback} {width height : Int64} (h : Told cs width height) :
  Told (cs ++ [.draw]) width height
  := by
  obtain ⟨front, back, rfl, hback, hsize⟩ := h
  refine ⟨front, back ++ [.draw], by simp, by simpa using hback, ?_⟩
  rcases hsize with hsince | ⟨hnone, hpositive⟩
  · left
    apply hsince.append
    simp [Callback.IsChange]
  · right
    refine ⟨?_, hpositive⟩
    apply List.forall_mem_append.mpr ⟨hnone, _⟩
    simp [Callback.IsChange]

theorem Told.since {cs : List Callback} {width height : Int64} (h : Told cs width height) :
  Since (· = .created) (· = .created) cs
  := by
  obtain ⟨front, back, rfl, hback, -⟩ := h
  refine ⟨front, _, back, rfl, rfl, ?_⟩
  rintro c hc rfl
  apply hback hc

/-! ### What a renderer knows while the loop is ready -/

/-- What holds of a surface whose loop has something to draw on: its renderer was called
in this run of the loop, and it knows of a creation and of the size, unless that has
changed. -/
structure Informed (s : Surface) (es : List Event) : Prop where
  called : Since Event.IsCallback (· = .started) es
  created : Since (· = .created) (· = .created) (callbacks es)
  told : s.sizeChanged = false → Told (callbacks es) s.width s.height

/-- A loop that is ready has an informed renderer. -/
def Ready (s : Surface) (es : List Event) : Prop :=
  s.loop = .running true → s.Informed es

variable {s : Surface} {es : List Event}

theorem Informed.signal (h : s.Informed es) (x : Signal) :
  (s.receive x).Informed (es ++ [.signal x])
  := by
  constructor
  · apply h.called.append
    simp
  · simpa [Event.callback?] using h.created
  · intro hsize
    obtain ⟨hchanged, hwidth, hheight⟩ := size_of_receive s x hsize
    rw [hwidth, hheight]
    simpa [Event.callback?] using h.told hchanged

/-- Reports of the renderer leave it as informed as it was. -/
theorem told_foldl_receive {cs : List Callback}
    (h : s.sizeChanged = false → Told cs s.width s.height) (xs : List Signal) :
  (xs.foldl receive s).sizeChanged = false →
    Told cs (xs.foldl receive s).width (xs.foldl receive s).height
  := by
  induction xs generalizing s with
  | nil => apply h
  | cons x xs ih =>
    apply ih
    intro hsize
    obtain ⟨hchanged, hwidth, hheight⟩ := size_of_receive s x hsize
    rw [hwidth, hheight]
    apply h hchanged

/-- Without a pending creation, a turn can only draw in a loop that was ready. -/
theorem loop_of_hasTarget (h : s.hasTarget = true) (hcreated : s.created = false) :
  s.loop = .running true
  := by
  cases hloop : s.loop <;> simp_all [hasTarget]

/-- A turn that draws tells its renderer the size before the frame. -/
theorem Ready.told_due (h : s.Ready es) (htarget : s.hasTarget = true) :
  Told (callbacks es ++ s.due.callbacks) s.width s.height
  := by
  cases hcreated : s.created with
  | true =>
    cases hsize : s.sizeDue with
    | true => simpa [due, Turn.callbacks, hcreated, hsize] using told_created_changed _ _ _
    | false =>
      have hpositive : s.width ≤ 0 ∧ s.height ≤ 0 := by
        simpa [sizeDue, hcreated] using hsize
      simpa [due, Turn.callbacks, hcreated, hsize] using
        told_created (callbacks es) hpositive.1 hpositive.2
  | false =>
    have hinformed := h (loop_of_hasTarget htarget hcreated)
    cases hsize : s.sizeDue with
    | true =>
      simpa [due, Turn.callbacks, hcreated, hsize] using told_changed hinformed.created _ _
    | false =>
      have hchanged : s.sizeChanged = false := by simpa [sizeDue, hcreated] using hsize
      simpa [due, Turn.callbacks, hcreated, hsize] using (hinformed.told hchanged).draw

theorem Ready.turn (h : s.Ready es) (r : Reaction) :
  (s.turn r).1.Ready (es ++ (s.turn r).2)
  := by
  obtain hidle | ⟨hrunning, hrequested, htarget⟩ | ⟨hrequested, htarget⟩ := s.turn_cases
  · simpa [turn_of_idle hidle] using h
  · rw [turn_of_skip hrunning hrequested htarget]
    intro hloop
    simp [taken, htarget] at hloop
  · have htold := h.told_due htarget
    have hcallbacks := callbacks_turn s r
    rw [if_pos ⟨hrequested, htarget⟩] at hcallbacks
    rw [turn_of_draw hrequested htarget] at hcallbacks ⊢
    split
    · intro hloop
      simp [Surface.stop] at hloop
    · rename_i hfails
      rw [if_neg hfails] at hcallbacks
      intro _
      constructor
      · have hdraw : Event.callback .draw ∈ r.events s.due.callbacks :=
          r.callback_mem_events (by simp [due, Turn.callbacks])
        apply since_append_of_mem (a := .callback .draw) (by simp [hdraw]) ⟨_, rfl⟩
        intro e he
        simp only [List.mem_append, List.mem_cons, List.not_mem_nil, or_false] at he
        rcases he with (rfl | he) | rfl
        · simp
        · rcases Reaction.mem_events he with ⟨c, rfl⟩ | ⟨x, rfl⟩ <;> simp
        · simp
      · rw [callbacks_append, hcallbacks]
        apply htold.since
      · rw [callbacks_append, hcallbacks]
        apply told_foldl_receive (s := s.taken)
        intro _
        apply htold

theorem Ready.act (h : s.Ready es) (a : Act) :
  (s.act a).1.Ready (es ++ (s.act a).2)
  := by
  cases a with
  | signal x =>
    intro hloop
    rw [Surface.act, loop_receive] at hloop
    apply (h hloop).signal
  | start =>
    simp only [Surface.act, Surface.start]
    split
    · rename_i s' hs
      split at hs
      · obtain rfl := Except.ok.inj hs
        intro hloop
        simp at hloop
      · cases hs
    · simpa using h
  | stop =>
    simp only [Surface.act]
    split
    · intro hloop
      simp [Surface.stop] at hloop
    · simpa using h
  | turn r => apply h.turn

theorem History.ready_after (acts : List Act) :
  (({} : History).after acts).surface.Ready (({} : History).after acts).events
  := by
  apply after_of_act (fun a h => h.act a)
  intro hloop
  cases hloop

/-! ### The order and the occasion of callbacks -/

theorem draw_mem_turn_iff (s : Surface) (r : Reaction) :
  .draw ∈ callbacks (s.turn r).2 ↔ s.requested = true ∧ s.hasTarget = true
  := by
  rw [callbacks_turn]
  split
  · rename_i h
    simp [due, Turn.callbacks, h]
  · rename_i h
    simpa using h

theorem created_mem_turn_iff (s : Surface) (r : Reaction) :
  .created ∈ callbacks (s.turn r).2 ↔
    (s.isRunning = true ∧ s.requested = true) ∧ s.created = true
  := by
  rw [callbacks_turn]
  split
  · rename_i h
    simp [due, Turn.callbacks, h, isRunning_of_hasTarget h.2]
  · rename_i h
    cases hloop : s.loop <;> simp_all [hasTarget, isRunning]

/-- A loop that has not called its renderer yet begins with a creation. -/
theorem Ready.first_callback (h : s.Ready es) (r : Reaction) {front back : List Event}
    (hes : es = front ++ .started :: back) (hback : callbacks back = []) :
  callbacks (s.turn r).2 = [] ∨ ∃ rest, callbacks (s.turn r).2 = .created :: rest
  := by
  rw [callbacks_turn]
  split
  · rename_i hdraw
    right
    cases hcreated : s.created with
    | true => simp [due, Turn.callbacks, hcreated]
    | false =>
      -- The renderer was called in a loop that is ready, but nothing was called since the start.
      have hcalled := (h (loop_of_hasTarget hdraw.2 hcreated)).called
      have hstarted : Since (· = .started) Event.IsCallback es := by
        refine ⟨front, _, back, hes, rfl, ?_⟩
        rintro e he ⟨c, rfl⟩
        have hc : c ∈ callbacks back := List.mem_filterMap.mpr ⟨_, he, rfl⟩
        simp [hback] at hc
      refine absurd hstarted (hcalled.not_swap ?_)
      rintro _ ⟨c, rfl⟩
      simp
  · exact .inl rfl

/-- In whatever way a surface is used, its next turn calls the renderer as follows.  The
callbacks are none, or a creation and a change of size, as far as there are any, and then
the frame.  A loop that has not called yet begins with a creation.  A creation is called
exactly if one was reported after the previous turn and not followed by a loss, and
nothing is drawn if a loss was reported and not followed by a creation.  The frame is
drawn with the size that was reported last, which the renderer was told since its last
creation unless it is not positive.  The frames counted, in 64 bits, are those drawn to the
end. -/
theorem callbacks_of_turn (acts : List Act) (r : Reaction) :
  let h := ({} : History).after acts
  let s := h.surface
  let made := (s.turn r).2
  (callbacks made = []
      ∨ ∃ (created : Bool) (size : Option (Int64 × Int64)),
        callbacks made = (if created then [.created] else [])
          ++ (size.toList.map fun (width, height) => .changed width height) ++ [.draw])
    ∧ (∀ front back, h.events = front ++ .started :: back → callbacks back = [] →
        callbacks made = [] ∨ ∃ rest, callbacks made = .created :: rest)
    ∧ (.created ∈ callbacks made ↔
        .snapshot ∈ made
          ∧ Since (· = .signal .created) (fun e => e = .signal .destroyed ∨ e = .snapshot) h.events)
    ∧ (Since (· = .signal .destroyed) (· = .signal .created) h.events → .draw ∉ callbacks made)
    ∧ (.draw ∈ callbacks made → Told (callbacks (h.events ++ made)) s.width s.height)
    ∧ (s.width, s.height) = reportedSize h.events
    ∧ s.frames.toNat = h.events.count .finished % UInt64.size
  := by
  intro h s made
  have hremembers : s.Remembers h.events := History.remembers_after acts
  have hready : s.Ready h.events := History.ready_after acts
  refine ⟨?_, ?_, ?_, ?_, ?_, hremembers.size_eq, ?_⟩
  · rw [callbacks_turn]
    split
    · right
      refine ⟨s.created, if s.sizeDue then some (s.width, s.height) else none, ?_⟩
      cases hsize : s.sizeDue <;> simp [due, Turn.callbacks, hsize]
    · exact .inl rfl
  · intro front back hes hback
    apply hready.first_callback r hes hback
  · rw [created_mem_turn_iff, snapshot_mem_turn_iff, hremembers.created_iff]
    rfl
  · intro hdestroyed hdraw
    obtain ⟨-, htarget⟩ := (draw_mem_turn_iff s r).mp hdraw
    have hcreated := (hremembers.target_iff (isRunning_of_hasTarget htarget)).mp htarget
    refine hcreated.since.not_swap ?_ hdestroyed
    rintro _ rfl
    simp
  · intro hdraw
    obtain ⟨hrequested, htarget⟩ := (draw_mem_turn_iff s r).mp hdraw
    rw [callbacks_append, callbacks_turn, if_pos ⟨hrequested, htarget⟩]
    apply hready.told_due htarget
  · rw [hremembers.frames_eq, UInt64.toNat_ofNat']

/-- A size that is reported from within the first frame is told with the next one, after a
loss and a new creation. -/
theorem callbacks_of_turn_recreated :
  let acts : List Act :=
    [.signal .created, .start, .turn { reports := fun _ => [.resized 640 480] },
      .signal .destroyed, .signal .created]
  let h := ({} : History).after acts
  let made := (h.surface.turn {}).2
  callbacks made = [.created, .changed 640 480, .draw]
    ∧ Told (callbacks (h.events ++ made)) 640 480
  := by
  intro acts h made
  have hcallbacks : callbacks made = [.created, .changed 640 480, .draw] := by decide
  have hdraw : .draw ∈ callbacks made := by simp [hcallbacks]
  exact ⟨hcallbacks, (callbacks_of_turn acts {}).2.2.2.2.1 hdraw⟩

/-! ### Loops that are started anew -/

/-- A turn that takes up a request draws exactly if a creation was reported that no loss
has followed, and no loop was started after a turn had seen it. -/
theorem draws_iff_target_known (acts : List Act) (r : Reaction) :
  let h := ({} : History).after acts
  let made := (h.surface.turn r).2
  .draw ∈ callbacks made ↔
    .snapshot ∈ made
      ∧ ∃ front back, h.events = front ++ .signal .created :: back
        ∧ .signal .destroyed ∉ back ∧ ¬ [Event.snapshot, Event.started].Sublist back
  := by
  intro h made
  have hremembers : h.surface.Remembers h.events := History.remembers_after acts
  rw [draw_mem_turn_iff, snapshot_mem_turn_iff]
  constructor
  · rintro ⟨hrequested, htarget⟩
    have hrunning := isRunning_of_hasTarget htarget
    exact ⟨⟨hrunning, hrequested⟩, (hremembers.target_iff hrunning).mp htarget⟩
  · rintro ⟨⟨hrunning, hrequested⟩, htarget⟩
    exact ⟨hrequested, (hremembers.target_iff hrunning).mpr htarget⟩

/-- A loop draws, is stopped and started again; it then takes up a request and draws
nothing, although the drawing target has not gone away. -/
theorem not_drawn_after_restart :
  let acts : List Act :=
    [.signal .created, .start, .turn {}, .stop, .start, .signal .request]
  let h := ({} : History).after acts
  let made := (h.surface.turn {}).2
  Since (· = .signal .created) (· = .signal .destroyed) h.events
    ∧ .snapshot ∈ made ∧ .draw ∉ callbacks made
  := by
  intro acts h made
  refine ⟨?_, by decide, by decide⟩
  refine ⟨[], .signal .created, h.events.tail, by decide, rfl, ?_⟩
  decide

end Surface

end SurfaceHost
