import SurfaceHost.Number.Word

/-!
# Flings

A scroller moves a point with constant deceleration inside a rectangle.  Where it is
depends only on the time since the fling began; the clock may also run backwards.
-/

namespace SurfaceHost

/-- A point in pixels. -/
structure Point where
  x : Int64
  y : Int64
  deriving DecidableEq, Repr

/-- A range of pixels on one axis. -/
structure Extent where
  low : Int64
  high : Int64
  deriving DecidableEq, Repr

/-- The point of a range nearest to `v`. -/
def Extent.clamp (r : Extent) (v : Int64) : Int64 :=
  if v < r.low then r.low else if v > r.high then r.high else v

/-- How distances and times become whole numbers. -/
structure Rounding where
  /-- A distance in pixels. -/
  pixels : Float → Int64
  /-- A time in nanoseconds. -/
  nanoseconds : Float → Int64

/-- Distances go to the nearest pixel, a half away from zero; parts of a nanosecond
are dropped. -/
def Rounding.standard : Rounding where
  pixels := Word.round
  nanoseconds := Word.truncate

/-- The path of a fling: a start, a direction and a speed, and the rectangle that
holds it. -/
structure Flight where
  start : Point := ⟨0, 0⟩
  /-- When it began; a scroller that never flung began before all time. -/
  begun : Option Instant := none
  velocity : Float := 0
  directionX : Float := 0
  directionY : Float := 0
  extentX : Extent := ⟨0, 0⟩
  extentY : Extent := ⟨0, 0⟩

/-- The state of a scroller. -/
structure Scroller where
  rounding : Rounding := .standard
  /-- Pixels per second squared. -/
  deceleration : Float
  finished : Bool := true
  flight : Flight := {}
  duration : Duration := 0
  current : Point := ⟨0, 0⟩
  final : Point := ⟨0, 0⟩

namespace Scroller

/-- The acceleration of gravity in inches per second squared: 9.80665 m/s² at 39.37
inches per metre, rounded once. -/
def gravity : Float := 386.0878105

/-- The part of gravity that slows a fling. -/
def friction : Float := 0.015

/-- The scroller of a display with the given density, where 1 is 160 dots per inch. -/
def ofDensity (density : Float32) : Scroller :=
  let density := if density ≤ 0 then 1 else density
  let perInch := density.toFloat * 160.0
  { deceleration := gravity * perInch * friction }

/-- The length of the vector `(x, y)`.  With an infinite component it is infinite,
whatever the other one is, and otherwise it is not a number if a component is none. -/
def length (x y : Float) : Float :=
  if x.isInf || y.isInf then 1.0 / 0.0
  else if x.isNaN || y.isNaN then 0.0 / 0.0
  else
    let a := max x.abs y.abs
    let b := min x.abs y.abs
    if a == 0 then 0
    else
      let r := b / a
      a * (1.0 + r * r).sqrt

/-- Where a flight is after covering a distance. -/
def position (s : Scroller) (f : Flight) (distance : Float) : Point where
  x := f.extentX.clamp (f.start.x + s.rounding.pixels (distance * f.directionX))
  y := f.extentY.clamp (f.start.y + s.rounding.pixels (distance * f.directionY))

/-- Starts a fling at `now`; one without velocity is over at once. -/
def fling (s : Scroller) (now : Instant) (start : Point) (vx vy : Float32)
    (extentX extentY : Extent) : Scroller :=
  let velocity := length vx.toFloat vy.toFloat
  if velocity == 0 then
    { s with
      finished := true
      flight := { start, begun := some now, velocity, extentX, extentY }
      duration := 0
      current := start
      final := start }
  else
    let flight : Flight :=
      { start
        begun := some now
        velocity
        directionX := vx.toFloat / velocity
        directionY := vy.toFloat / velocity
        extentX
        extentY }
    { s with
      finished := false
      flight
      duration := s.rounding.nanoseconds (velocity / s.deceleration * 1000000000.0)
      current := start
      final := s.position flight (velocity * velocity / (2.0 * s.deceleration)) }

/-- The time since the fling began. -/
def elapsed (s : Scroller) (now : Instant) : Duration :=
  match s.flight.begun with
  | some start => Duration.between start now
  | none => Duration.longest

/-- Moves to where the fling is at `now`; tells whether it was still running.  A fling
is over when its time is up or when it has reached its end. -/
def compute (s : Scroller) (now : Instant) : Scroller × Bool :=
  if s.finished then
    (s, false)
  else
    let elapsed := s.elapsed now
    if elapsed ≥ s.duration then
      ({ s with current := s.final, finished := true }, true)
    else
      let t := elapsed.seconds
      let distance := s.flight.velocity * t - s.deceleration * t * t / 2.0
      let current := s.position s.flight distance
      ({ s with current, finished := decide (current = s.final) }, true)

/-- Stops the fling, or lets it go on, without moving. -/
def forceFinished (s : Scroller) (finished : Bool) : Scroller :=
  { s with finished }

end Scroller

end SurfaceHost
