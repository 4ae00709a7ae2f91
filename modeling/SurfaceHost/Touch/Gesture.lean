import SurfaceHost.Touch.Motion

/-!
# Gestures

The recent samples of one pointer, and a detector that recognises scrolls, flings and long
presses in them.
-/

namespace SurfaceHost

/-! ### Tracks

The recent samples of a pointer, oldest first, and the velocity that they show.
-/

/-- Recent motions, oldest first. -/
abbrev Track := List Motion

namespace Track

/-- How far a track reaches back, in nanoseconds. -/
def window : Int := 100000000

/-- Drops motions before `cutoff` from the front, but never the last motion. -/
def prune (cutoff : Instant) : Track → Track
  | [] => []
  | [e] => [e]
  | e :: f :: rest => if e.time < cutoff then prune cutoff (f :: rest) else e :: f :: rest

/-- Adds a motion and forgets the front of what is older than the window. -/
def add (t : Track) (e : Motion) : Track :=
  prune (e.time - window) (t ++ [e])

/-- Pixels per second from the oldest to the newest motion; zero unless time has
passed between them. -/
def velocity (t : Track) : Float32 × Float32 :=
  match t.head?, t.getLast? with
  | some first, some last =>
    let dt := (Duration.between first.time last.time).seconds
    if dt ≤ 0 then (0, 0)
    else
      (((last.x - first.x).toFloat / dt).toFloat32, ((last.y - first.y).toFloat / dt).toFloat32)
  | _, _ => (0, 0)

end Track

/-! ### Detectors

A detector follows one pointer and recognises scrolls, flings and long presses.  It
has a press while the pointer is down.  A press waits until the pointer leaves the
slop, which makes it a scroll, or until its alarm goes off, which makes it a long
press; a scroll that ends fast enough is a fling.
-/

/-- What a detector reports.  Every gesture tells where its press began. -/
inductive Gesture where
  | down (e : Motion)
  /-- Movement since the last report: where it was minus where it is. -/
  | scroll (down current : Motion) (dx dy : Float32)
  /-- A release with a velocity in pixels per second. -/
  | fling (down up : Motion) (vx vy : Float32)
  | longPress (down : Motion)

/-- The limits between gestures, in pixels and nanoseconds. -/
structure Thresholds where
  /-- How far a press may move and still wait. -/
  slop : Float32
  /-- The slowest fling. -/
  minFling : Float32
  /-- The fastest fling. -/
  maxFling : Float32
  /-- How long a press waits for a long press; none is due unless this is positive. -/
  longPress : Duration

/-- What has become of a press. -/
inductive Stage where
  | waiting
  | scrolling
  /-- It has been long. -/
  | held
  deriving DecidableEq, Repr

/-- A pointer that is down. -/
structure Press where
  down : Motion
  /-- The position up to which movement has been reported. -/
  lastX : Float32
  lastY : Float32
  track : Track
  stage : Stage

/-- A gesture detector for one pointer. -/
structure Detector where
  thresholds : Thresholds
  press : Option Press := none
  /-- Tells the alarms of different presses apart. -/
  generation : UInt64 := 0
  /-- When the alarm of the current generation goes off. -/
  alarm : Option Instant := none

namespace Detector

/-- Makes every alarm set so far a thing of the past. -/
def disarm (d : Detector) : Detector :=
  { d with generation := d.generation + 1, alarm := none }

/-- Whether a motion is within the slop of the press. -/
def withinSlop (d : Detector) (p : Press) (e : Motion) : Bool :=
  let dx := e.x - p.down.x
  let dy := e.y - p.down.y
  dx * dx + dy * dy ≤ d.thresholds.slop * d.thresholds.slop

/-- Keeps a velocity between the two limits. -/
def clamp (v low high : Float32) : Float32 :=
  if v < low then low else if v > high then high else v

/-- A press begins at `now`. -/
def touchDown (d : Detector) (now : Instant) (e : Motion) : Detector × Option Gesture :=
  let d := d.disarm
  let press : Press :=
    { down := e, lastX := e.x, lastY := e.y, track := Track.add [] e, stage := .waiting }
  let alarm :=
    if d.thresholds.longPress > 0 then some (now + d.thresholds.longPress.toInt) else none
  ({ d with press := some press, alarm }, some (.down e))

/-- The pointer of a press moves. -/
def touchMove (d : Detector) (p : Press) (e : Motion) : Detector × Option Gesture :=
  let tracked := { p with track := p.track.add e }
  let dx := p.lastX - e.x
  let dy := p.lastY - e.y
  let scrolled : Press := { tracked with lastX := e.x, lastY := e.y, stage := .scrolling }
  match p.stage with
  | .held => (d, none)
  | .waiting =>
    if d.withinSlop p e then
      ({ d with press := some tracked }, none)
    else
      ({ d.disarm with press := some scrolled }, some (.scroll p.down e dx dy))
  | .scrolling =>
    if dx == 0 && dy == 0 then
      ({ d with press := some tracked }, none)
    else
      ({ d with press := some scrolled }, some (.scroll p.down e dx dy))

/-- The fling that ends a press, if it scrolled and was fast enough on an axis. -/
def fling? (d : Detector) (p : Press) (e : Motion) : Option Gesture :=
  match p.stage with
  | .scrolling =>
    let (vx, vy) := (p.track.add e).velocity
    if vx.abs ≥ d.thresholds.minFling || vy.abs ≥ d.thresholds.minFling then
      let limit := d.thresholds.maxFling
      some (.fling p.down e (clamp vx (-limit) limit) (clamp vy (-limit) limit))
    else
      none
  | .waiting | .held => none

/-- Takes in one motion of the pointer at `now`, and reports at most one gesture. -/
def touch (d : Detector) (now : Instant) (e : Motion) : Detector × Option Gesture :=
  match e.phase, d.press with
  | .down, _ => d.touchDown now e
  | .move, some p => d.touchMove p e
  | .up, some p => ({ d.disarm with press := none }, d.fling? p e)
  | .cancel, _ => ({ d.disarm with press := none }, none)
  | .move, none | .up, none | .unknown, _ => (d, none)

/-- An alarm set in the given generation goes off.  It makes a press long, unless it
comes too late or the press has become a scroll. -/
def fire (d : Detector) (generation : UInt64) : Detector × Option Gesture :=
  match d.press with
  | some p =>
    if generation ≠ d.generation ∨ p.stage = .scrolling then (d, none)
    else ({ d with press := some { p with stage := .held } }, some (.longPress p.down))
  | none => (d, none)

/-- The clock has reached `now`: an alarm that was due goes off. -/
def advance (d : Detector) (now : Instant) : Detector × Option Gesture :=
  match d.alarm with
  | some due => if due ≤ now then { d with alarm := none }.fire d.generation else (d, none)
  | none => (d, none)

end Detector

end SurfaceHost
