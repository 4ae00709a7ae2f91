import SurfaceHost.Proofs.Floats
import SurfaceHost.Proofs.Presses

/-!
# The window of a track

A track forgets from the front what is older than its window, motion by motion.  Whatever the
times are, what it keeps is the end of what was added since it was last cleared
(`Track.ofMotions_suffix`).  If the times are in order, it is what lies in the window of the
newest motion, so forgetting little by little is choosing from all (`Track.ofMotions_eq_recent`),
and the velocity is that from the oldest to the newest motion of the window.  So the end of a
press is judged by the motions of that press in the last 100 milliseconds.
-/

namespace SurfaceHost

namespace Duration

/-- A number of nanoseconds that fits in a window fits in a duration. -/
theorem toInt_saturate {ns : Int} (hnonneg : 0 ≤ ns) (hwindow : ns ≤ Track.window) :
  (saturate ns).toInt = ns
  := by
  rw [Track.window] at hwindow
  have hlow : ¬ns < Int64.minValue.toInt := by
    rw [Int64.toInt_minValue]
    omega
  have hhigh : ¬Int64.maxValue.toInt < ns := by
    rw [Int64.toInt_maxValue]
    omega
  rw [saturate, if_neg hlow, if_neg hhigh, Int64.toInt_ofInt_of_le]
  · omega
  · omega

/-- The time between two instants in one window is not cut off. -/
theorem toInt_between {start finish : Instant} (hle : start ≤ finish)
    (hwindow : finish - start ≤ Track.window) :
  (between start finish).toInt = finish - start
  := toInt_saturate (Int.sub_nonneg_of_le hle) hwindow

end Duration

/-- Pixels per second from one motion to another. -/
def Motion.velocityTo (first last : Motion) : Float32 × Float32 :=
  let dt := (Duration.between first.time last.time).seconds
  (((last.x - first.x).toFloat / dt).toFloat32, ((last.y - first.y).toFloat / dt).toFloat32)

/-- Whether a motion is not before an instant. -/
def Motion.isSince (cutoff : Instant) (e : Motion) : Bool :=
  cutoff ≤ e.time

namespace Track

/-- The times of some motions do not go down. -/
def InTimeOrder (motions : List Motion) : Prop :=
  motions.Pairwise fun a b => a.time ≤ b.time

/-- The motions that lie in the window of the newest one. -/
def recent (newest : Motion) (motions : List Motion) : List Motion :=
  motions.filter (Motion.isSince (newest.time - window))

theorem isSince_self (e : Motion) :
  e.isSince (e.time - window) = true
  := decide_eq_true (Int.sub_le_self e.time (by decide))

/-! ### Forgetting -/

theorem prune_suffix (cutoff : Instant) (t : Track) :
  prune cutoff t <:+ t
  := by
  fun_induction prune cutoff t with
  | case1 => apply List.suffix_refl
  | case2 e => apply List.suffix_refl
  | case3 e f rest hold ih => apply ih.trans (List.suffix_cons e _)
  | case4 e f rest hnew => apply List.suffix_refl

theorem getLast?_prune (cutoff : Instant) (t : Track) :
  (prune cutoff t).getLast? = t.getLast?
  := by
  fun_induction prune cutoff t with
  | case1 => rfl
  | case2 e => rfl
  | case3 e f rest hold ih => rw [ih, List.getLast?_cons_cons]
  | case4 e f rest hnew => rfl

/-- In time order, all that lies before the cutoff stands in front. -/
theorem prune_eq_filter {cutoff : Instant} {t : Track} (horder : InTimeOrder t)
    (hlast : ∀ e ∈ t.getLast?, e.isSince cutoff = true) :
  prune cutoff t = t.filter (Motion.isSince cutoff)
  := by
  fun_induction prune cutoff t with
  | case1 => rfl
  | case2 e => rw [List.filter_cons_of_pos (hlast e rfl), List.filter_nil]
  | case3 e f rest hold ih =>
    have hout : ¬e.isSince cutoff = true := by simpa [Motion.isSince] using hold
    rw [List.getLast?_cons_cons] at hlast
    rw [ih horder.of_cons hlast, List.filter_cons_of_neg hout]
  | case4 e f rest hnew =>
    have hfirst : cutoff ≤ e.time := Int.not_lt.mp hnew
    symm
    apply List.filter_eq_self.mpr
    intro g hg
    apply decide_eq_true
    rcases List.mem_cons.mp hg with rfl | hg
    · exact hfirst
    · apply Int.le_trans hfirst (List.rel_of_pairwise_cons horder hg)

/-! ### Adding -/

/-- The track of some motions, added one after the other. -/
def ofMotions (motions : List Motion) : Track :=
  motions.foldl add []

theorem ofMotions_append_singleton (motions : List Motion) (e : Motion) :
  ofMotions (motions ++ [e]) = (ofMotions motions).add e
  := List.foldl_append

theorem getLast?_add (t : Track) (e : Motion) :
  (t.add e).getLast? = some e
  := by
  rw [add, getLast?_prune, List.getLast?_concat]

theorem getLast?_ofMotions (motions : List Motion) :
  (ofMotions motions).getLast? = motions.getLast?
  := by
  induction motions using List.reverseRecOn with
  | nil => rfl
  | append_singleton front e ih =>
    rw [ofMotions_append_singleton, getLast?_add, List.getLast?_concat]

theorem ofMotions_suffix (motions : List Motion) :
  ofMotions motions <:+ motions
  := by
  induction motions using List.reverseRecOn with
  | nil => apply List.suffix_refl
  | append_singleton front e ih =>
    rw [ofMotions_append_singleton]
    apply (prune_suffix _ _).trans
    apply List.suffix_append_self_iff.mpr ih

/-- What is out of the window of a motion is out of that of every later one. -/
theorem recent_recent {e newest : Motion} (h : e.time ≤ newest.time) (motions : List Motion) :
  recent newest (recent e motions) = recent newest motions
  := by
  rw [recent, recent, List.filter_filter]
  apply List.filter_congr
  intro f _
  simp only [Motion.isSince, Bool.and_eq_left_iff_imp, decide_eq_true_eq]
  intro hin
  apply Int.le_trans (Int.sub_le_sub_right h window) hin

theorem recent_append (newest : Motion) (front back : List Motion) :
  recent newest (front ++ back) = recent newest front ++ recent newest back
  := List.filter_append ..

/-- To forget little by little is to choose from all. -/
theorem ofMotions_eq_recent {front : List Motion} {newest : Motion}
    (horder : InTimeOrder (front ++ [newest])) :
  ofMotions (front ++ [newest]) = recent newest (front ++ [newest])
  := by
  induction front using List.reverseRecOn generalizing newest with
  | nil =>
    change [newest] = List.filter _ [newest]
    rw [List.filter_cons_of_pos (isSince_self newest), List.filter_nil]
  | append_singleton front e ih =>
    have hprefix : InTimeOrder (front ++ [e]) := (List.pairwise_append.mp horder).1
    have hle : e.time ≤ newest.time := by
      apply (List.pairwise_append.mp horder).2.2
      · simp
      · simp
    have hkept : InTimeOrder (recent e (front ++ [e]) ++ [newest]) := by
      apply List.Pairwise.sublist _ horder
      apply List.Sublist.append_right List.filter_sublist
    rw [ofMotions_append_singleton, ih hprefix, add, prune_eq_filter hkept]
    · change recent newest (recent e (front ++ [e]) ++ [newest]) = _
      rw [recent_append, recent_recent hle, ← recent_append]
    · rw [List.getLast?_concat]
      rintro _ ⟨⟩
      apply isSince_self

/-! ### Velocity -/

/-- The velocity over a window.  Seconds are floats, but they tell whether time has passed. -/
theorem velocity_of_ends {t : Track} {oldest newest : Motion} (hfirst : t.head? = some oldest)
    (hlast : t.getLast? = some newest) (hle : oldest.time ≤ newest.time)
    (hwindow : newest.time - oldest.time ≤ window) :
  t.velocity = if newest.time = oldest.time then (0, 0) else oldest.velocityTo newest
  := by
  have hspan := Duration.toInt_between hle hwindow
  rw [velocity, hfirst, hlast]
  by_cases hsame : newest.time = oldest.time
  · have hzero : Duration.between oldest.time newest.time = 0 := by
      apply Int64.toInt_inj.mp
      rw [hspan, hsame, Int.sub_self]
      rfl
    simp only [hzero, if_pos hsame, if_pos Duration.seconds_zero]
  · have hpos : ¬(Duration.between oldest.time newest.time).seconds ≤ 0 := by
      apply Duration.not_seconds_le_zero
      · rw [hspan]
        apply Int.sub_pos_of_lt (lt_of_le_of_ne hle (Ne.symm hsame))
      · rw [hspan]
        apply Int.lt_of_le_of_lt hwindow
        decide
    simp only [if_neg hsame, if_neg hpos, Motion.velocityTo]

theorem exists_head?_recent {front : List Motion} {newest : Motion}
    (horder : InTimeOrder (front ++ [newest])) :
  ∃ oldest, (recent newest (front ++ [newest])).head? = some oldest
    ∧ oldest.time ≤ newest.time ∧ newest.time - oldest.time ≤ window
  := by
  have hself : newest ∈ recent newest (front ++ [newest]) :=
    List.mem_filter.mpr ⟨List.mem_concat_self, isSince_self newest⟩
  have hne := List.ne_nil_of_mem hself
  obtain ⟨hmem, hin⟩ := List.mem_filter.mp (List.head_mem hne)
  refine ⟨_, List.head?_eq_some_head hne, ?_, ?_⟩
  · rcases List.mem_append.mp hmem with hfront | hlast
    · apply (List.pairwise_append.mp horder).2.2 _ hfront newest (List.mem_singleton_self newest)
    · rw [List.mem_singleton.mp hlast]
  · apply Int.sub_left_le_of_le_add
    apply Int.le_add_of_sub_right_le (of_decide_eq_true hin)

/-! ### Runs -/

/-- What can be done to a track. -/
inductive Act where
  | add (e : Motion)
  | clear

def step (t : Track) : Act → Track
  | .add e => t.add e
  | .clear => []

/-- A track after some acts, empty at first. -/
def after (acts : List Act) : Track :=
  acts.foldl step []

/-- The motions that have been added since the last clear. -/
def added (acts : List Act) : List Motion :=
  acts.foldl (fun motions act =>
    match act with
    | .add e => motions ++ [e]
    | .clear => []) []

theorem after_eq_ofMotions (acts : List Act) :
  after acts = ofMotions (added acts)
  := by
  induction acts using List.reverseRecOn with
  | nil => rfl
  | append_singleton front act ih =>
    rw [after, added, List.foldl_append, List.foldl_append]
    cases act with
    | add e =>
      change (after front).add e = ofMotions (added front ++ [e])
      rw [ofMotions_append_singleton, ih]
    | clear => rfl

end Track

/-- A scroll ends in a fling if it is fast enough on an axis. -/
theorem Detector.fling?_eq (d : Detector) (p : Press) (up : Motion) :
  d.fling? p up =
    let v := (p.track.add up).velocity
    let limit := d.thresholds.maxFling
    if p.stage = .scrolling
        ∧ (d.thresholds.minFling ≤ v.1.abs ∨ d.thresholds.minFling ≤ v.2.abs) then
      some (.fling p.down up (clamp v.1 (-limit) limit) (clamp v.2 (-limit) limit))
    else
      none
  := by
  cases hstage : p.stage with
  | waiting => simp [fling?, hstage]
  | scrolling => simp [fling?, hstage]
  | held => simp [fling?, hstage]

namespace Watch

/-- A press that goes on keeps its down, every move is added to its track, and it scrolls if
it did so before or a scroll has been reported. -/
theorem press_after_stays {w : Watch} {p : Press} {moves : List Move}
    (hp : w.detector.press = some p) (hstage : p.stage ≠ .held) (hstays : w.Stays moves) :
  ∃ p', (w.after moves).detector.press = some p'
    ∧ p'.down = p.down ∧ p'.track = (moved moves).foldl Track.add p.track
    ∧ (p'.stage = .scrolling ↔
      p.stage = .scrolling ∨ (w.gestures moves).any Gesture.isScroll = true)
  := by
  induction moves generalizing w p with
  | nil => exact ⟨p, hp, rfl, rfl, by simp [gestures]⟩
  | cons m rest ih =>
    obtain ⟨⟨hcontact, hlong⟩, hrest⟩ := hstays.of_cons
    rw [moved_cons, gestures, List.any_append, Bool.or_eq_true, ← or_assoc]
    obtain ⟨e, hmoved, hdetector, hgesture⟩ | ⟨hmoved, hdetector, hnone⟩ :=
      step_of_stays hp hcontact hlong
    · obtain ⟨q, hq, hdown, htrack, hfree, hscrolling⟩ := w.detector.press_touchMove (e := e) hstage
      rw [hmoved, hgesture, List.singleton_append, List.foldl_cons, ← htrack, ← hdown, ← hscrolling]
      apply ih (hdetector ▸ hq) hfree hrest
    · rw [hmoved, hnone]
      simp only [Option.toList_none, List.any_nil, Bool.false_eq_true, or_false]
      apply ih (hdetector ▸ hp) hstage hrest

/-- A press has the down that it began with, its track has the moves since, and nothing from
before, and it scrolls if a scroll has been reported. -/
theorem press_after_down (w : Watch) (now : Instant) {down : Motion} {moves : List Move}
    (hdown : down.phase = .down) (hstays : (w.step (.touch now down)).1.Stays moves) :
  ∃ p, (w.after (.touch now down :: moves)).detector.press = some p
    ∧ p.down = down ∧ p.track = Track.ofMotions (down :: moved moves)
    ∧ (p.stage = .scrolling ↔
      ((w.step (.touch now down)).1.gestures moves).any Gesture.isScroll = true)
  := by
  obtain ⟨hpress, -⟩ := w.step_of_down now hdown
  obtain ⟨p, hp, hbegun, htrack, hscrolled⟩ :=
    press_after_stays hpress (by simp [Press.begunBy]) hstays
  refine ⟨p, hp, hbegun, htrack, ?_⟩
  rw [hscrolled]
  simp [Press.begunBy]

theorem step_of_up {w : Watch} {p : Press} (hp : w.detector.press = some p) (now : Instant)
    {up : Motion} (hup : up.phase = .up) :
  (w.step (.touch now up)).2 = w.detector.fling? p up
  := by
  rw [step, touch]
  simp only [Detector.touch, hup, hp]

end Watch

namespace Track

/-- A track keeps the end of what was added since the last clear, up to the newest motion.  In
time order this is all that lies in the last window, and the velocity is that over this window,
or zero if no time has passed in it.  So a press that ends without having become long is judged
by its down, its moves and its up, and of these by the ones in the last window: in time order it
is a fling, from the down to the up, exactly if a scroll was reported of it and the velocity over
that window is fast enough on an axis, and the fling has this velocity as far as it is not too
fast. -/
theorem keeps_last_window :
  (∀ acts : List Act,
      after acts <:+ added acts ∧ (after acts).getLast? = (added acts).getLast?
        ∧ ∀ newest ∈ (added acts).getLast?, InTimeOrder (added acts) →
          after acts = recent newest (added acts)
            ∧ ∃ oldest ∈ (recent newest (added acts)).head?,
              oldest.time ≤ newest.time ∧ newest.time - oldest.time ≤ window
                ∧ (Duration.between oldest.time newest.time).toInt = newest.time - oldest.time
                ∧ (after acts).velocity =
                  if newest.time = oldest.time then (0, 0) else oldest.velocityTo newest)
    ∧ ∀ (thresholds : Thresholds) (front : List Watch.Move) (now : Instant) (down : Motion)
      (moves : List Watch.Move) (later : Instant) (up : Motion),
      let w := (Watch.new thresholds).after front
      let pressed := (w.step (.touch now down)).1
      let lifted := w.after (.touch now down :: moves)
      let motions := down :: Watch.moved moves ++ [up]
      let v := velocity (recent up motions)
      let limit := thresholds.maxFling
      down.phase = .down → pressed.Stays moves → up.phase = .up →
      ∃ p, lifted.detector.press = some p
        ∧ (lifted.step (.touch later up)).2 = lifted.detector.fling? p up
        ∧ p.track.add up <:+ motions
        ∧ (InTimeOrder motions →
          p.track.add up = recent up motions
            ∧ (lifted.step (.touch later up)).2 =
              if (pressed.gestures moves).any Gesture.isScroll = true
                  ∧ (thresholds.minFling ≤ v.1.abs ∨ thresholds.minFling ≤ v.2.abs) then
                some (.fling down up (Detector.clamp v.1 (-limit) limit)
                  (Detector.clamp v.2 (-limit) limit))
              else
                none)
  := by
  constructor
  · intro acts
    rw [after_eq_ofMotions]
    refine ⟨ofMotions_suffix _, getLast?_ofMotions _, ?_⟩
    intro newest hnewest horder
    obtain ⟨front, hfront⟩ := List.getLast?_eq_some_iff.mp hnewest
    rw [hfront] at horder ⊢
    have hkept := ofMotions_eq_recent horder
    obtain ⟨oldest, holdest, hle, hwindow⟩ := exists_head?_recent horder
    refine ⟨hkept, oldest, holdest, hle, hwindow, Duration.toInt_between hle hwindow, ?_⟩
    apply velocity_of_ends _ _ hle hwindow
    · rw [hkept, holdest]
    · rw [getLast?_ofMotions, List.getLast?_concat]
  · intro thresholds front now down moves later up w pressed lifted motions v limit
      hdown hstays hup
    obtain ⟨p, hp, hbegun, htrack, hscrolled⟩ := w.press_after_down now hdown hstays
    have hadd : p.track.add up = ofMotions motions := by
      rw [htrack, ← ofMotions_append_singleton]
    have hreport := Watch.step_of_up hp later hup
    refine ⟨p, hp, hreport, ?_, ?_⟩
    · rw [hadd]
      apply ofMotions_suffix
    · intro horder
      have hkept : p.track.add up = recent up motions := by
        rw [hadd, ofMotions_eq_recent horder]
      have hthresholds :
          (w.after (.touch now down :: moves)).detector.thresholds = thresholds := by
        rw [Watch.thresholds_after, Watch.thresholds_after]
        rfl
      refine ⟨hkept, ?_⟩
      rw [hreport, Detector.fling?_eq]
      simp only [hkept, hthresholds, hbegun, hscrolled]
      rfl

/-- A motion that is as old as the window is wide is kept, one that is older is not, nor is one
of an earlier press.  So a press that scrolls ends with the velocity from its first move on. -/
theorem keeps_last_window_earlier_press :
  let motion (phase : Phase) (x : Float32) (ms : Int) : Motion :=
    { phase, x, y := 20, pointer := 4, time := ms * 1000000 }
  let acts : List Act :=
    [.add (motion .move 7 55), .clear, .add (motion .down 1 59), .add (motion .move 2 60),
      .add (motion .move 3 160)]
  let thresholds : Thresholds :=
    { slop := 8, minFling := 50, maxFling := 8000, longPress := 500 }
  let front : List Watch.Move := [.touch 0 (motion .down 70 0), .touch 9 (motion .up 70 9)]
  let down := motion .down 10 10
  let moves : List Watch.Move :=
    [.touch 12 (motion .move 14 12), .ring 0, .touch 90 (motion .move 30 90)]
  let up := motion .up 40 112
  let w := (Watch.new thresholds).after front
  let lifted := w.after (.touch 10 down :: moves)
  let v := (motion .move 14 12).velocityTo up
  after acts = [motion .move 2 60, motion .move 3 160]
    ∧ (after acts).velocity = (motion .move 2 60).velocityTo (motion .move 3 160)
    ∧ (w.step (.touch 10 down)).1.Stays moves
    ∧ (∃ p, lifted.detector.press = some p
      ∧ p.track.add up = [motion .move 14 12, motion .move 30 90, up])
    ∧ (lifted.step (.touch 112 up)).2 =
      if 50 ≤ v.1.abs ∨ 50 ≤ v.2.abs then
        some (.fling down up (Detector.clamp v.1 (-8000) 8000) (Detector.clamp v.2 (-8000) 8000))
      else
        none
  := by
  intro motion acts thresholds front down moves up w lifted v
  obtain ⟨hacts, hpress⟩ := keeps_last_window
  have horder : InTimeOrder (added acts) := by
    simp [InTimeOrder, added, acts, motion]
  obtain ⟨hkept, oldest, holdest, -, -, -, hvelocity⟩ :=
    (hacts acts).2.2 (motion .move 3 160) rfl horder
  have hstays : (w.step (.touch 10 down)).1.Stays moves := by
    have hshort : ((w.step (.touch 10 down)).1.gestures moves).all Gesture.isScroll = true := by
      decide +kernel
    constructor
    · simp [moves, Watch.Move.keepsContact, motion]
    · intro long hlong
      cases List.all_eq_true.mp hshort _ hlong
  have hscrolled : ((w.step (.touch 10 down)).1.gestures moves).any Gesture.isScroll = true := by
    decide +kernel
  have hmotions : recent up (down :: Watch.moved moves ++ [up]) =
      [motion .move 14 12, motion .move 30 90, up] := rfl
  obtain ⟨p, hp, -, -, hordered⟩ := hpress thresholds front 10 down moves 112 up rfl hstays rfl
  obtain ⟨htrack, hreport⟩ :=
    hordered (by simp [InTimeOrder, down, moves, up, Watch.moved, motion])
  refine ⟨?_, ?_, hstays, ⟨p, hp, htrack.trans hmotions⟩, ?_⟩
  · rw [hkept]
    rfl
  · obtain rfl : motion .move 2 60 = oldest := Option.some.inj holdest
    rw [hvelocity, if_neg]
    decide
  · have hends : velocity [motion .move 14 12, motion .move 30 90, up] =
        if up.time = (motion .move 14 12).time then (0, 0) else v :=
      velocity_of_ends rfl rfl (by decide) (by decide)
    have hfinal := hends.trans (if_neg (by decide))
    rw [hmotions, hfinal] at hreport
    exact hreport.trans (if_congr (and_iff_right hscrolled) rfl rfl)

end Track

end SurfaceHost
