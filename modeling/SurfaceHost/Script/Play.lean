import SurfaceHost.Script.Basic
import SurfaceHost.View.Frame

/-!
# Playing scripts

The cues of a script are handed to a view whose loop is running.  The loop takes its
turns whenever the script waits.  When all cues are through, the script waits for the
backlog to be drained, but no longer than it allows; a play can also be stopped from
outside, at a time set beforehand.

A loop that waits for a request is handed the first one that is made.  From then on it
does not wait any more, though its turn only comes when the script waits, so a second
request stays behind, and a turn is taken for it, too.
-/

namespace SurfaceHost

/-- The window system's code for what a finger does: all but a begin and an end is a move. -/
def Phase.touchCode : Phase → Int
  | .down => 0
  | .up => 2
  | .move | .cancel | .unknown => 1

/-- What a cue does to a view when the loop takes no turn.  A cancel is nothing that a
window system can say, so it is reported directly. -/
def Cue.act (v : View) : Cue → View
  | .size width height => v.send (.size width height)
  | .visible => v.send (.lifecycle 1 2)
  | .hidden => v.send (.lifecycle 2 1)
  | .paint => v.send .paint
  | .touch .cancel x y pointer =>
    v.touch { phase := .cancel, x, y, pointer, time := v.now }
  | .touch phase x y pointer => v.send (.touch (.ofTouchCode phase.touchCode) x y pointer)
  | .wait d => v.advance d.toInt

namespace Script

/-- Why a play is stopped from outside. -/
inductive StopReason where
  | cancelled
  | deadline
  /-- The loop of the view is running elsewhere. -/
  | loopTaken
  deriving DecidableEq, Repr

/-- A stop from outside. -/
structure Stop where
  time : Instant
  reason : StopReason
  deriving DecidableEq, Repr

/-- The earlier one of two stops. -/
def Stop.earlier? : Option Stop → Option Stop → Option Stop
  | some a, some b => some (if b.time < a.time then b else a)
  | some a, none => some a
  | none, b => b

/-- How many frames a cue asks for: one for every job that it adds to the backlog, and
one for everything it says about the surface. -/
def requests (before after : View) : Cue → Nat
  | .touch _ _ _ _ => after.pending - before.pending
  | .wait _ => 0
  | _ => 1

/-- A play that is going on. -/
structure Progress where
  view : View
  /-- The loop was waiting for a request when it last could run. -/
  waiting : Bool
  /-- How many frames have been asked for since then. -/
  requests : Nat := 0

namespace Progress

/-- The loop takes a turn, if there is one to take. -/
def turn (v : View) : View :=
  v.turn.1

/-- The loop takes all its turns and waits again. -/
def catchUp (p : Progress) : View :=
  let v := turn p.view
  if p.waiting ∧ 1 < p.requests then turn (v.signal .request) else v

/-- Lets time pass up to `target`.  An alarm that becomes due on the way goes off at its
own time, and the loop takes a turn after it. -/
def passUntil (p : Progress) (target : Instant) : Progress :=
  let v := p.catchUp
  match v.detector.alarm with
  | some due =>
    if due ≤ target then
      let v := turn (v.advance (due - v.now))
      { view := v.advance (target - v.now), waiting := true }
    else
      { view := v.advance (target - v.now), waiting := true }
  | none => { view := v.advance (target - v.now), waiting := true }

/-- Waits for a time, or until the stop. -/
def wait (stop : Option Stop) (p : Progress) (d : Duration) : Progress × Option Stop :=
  let now := p.view.now
  let target := now + max d.toInt 0
  match stop with
  | some s =>
    if s.time ≤ now then ({ view := p.catchUp, waiting := true }, some s)
    else if s.time < target then (p.passUntil s.time, some s)
    else (p.passUntil target, none)
  | none => (p.passUntil target, none)

/-- Hands one cue to the view, up to the stop. -/
def cue (stop : Option Stop) (p : Progress) : Cue → Progress × Option Stop
  | .wait d => p.wait stop d
  | c =>
    let v := c.act p.view
    ({ p with view := v, requests := p.requests + Script.requests p.view v c }, none)

/-- Hands cues to the view, up to the stop. -/
def feed (stop : Option Stop) (p : Progress) : List Cue → Progress × Option Stop
  | [] => (p, none)
  | c :: rest =>
    match p.cue stop c with
    | (p, none) => p.feed stop rest
    | (p, some s) => (p, some s)

/-- How often the backlog is looked at while it is to be drained. -/
def tick : Duration := 5000000

/-- Waits for the backlog to be drained, and complains if it is not seen to be in time.
It is looked at right away and then with every tick. -/
def settled (stop : Option Stop) (p : Progress) (d : Duration) : Progress × Option Stop :=
  if p.view.pending = 0 then (p, none)
  else if p.catchUp.pending = 0 ∧ tick ≤ d then p.wait stop tick
  else
    match p.wait stop d with
    | (p, some s) => (p, some s)
    | (p, none) =>
      let pending := Int64.ofNat p.view.pending
      ({ p with
          view :=
            p.view.emit
              (.log
                (.warn "queued input not drained; is the surface visible?"
                  [("pending", .number pending)])) },
        none)

/-- The view at the end, when nothing waits for the loop any more: it still takes the
turn for which it has been handed a request. -/
def finish (p : Progress) : View :=
  if p.waiting ∧ 0 < p.requests then turn p.view else p.view

end Progress

/-- Plays cues on a view and stops its loop.  If the loop is already running, it goes on
running, and the play is over as soon as it would have to wait. -/
def play (v : View) (cues : List Cue) (settle : Duration) (stop : Option Stop) :
    View × Option StopReason :=
  let taken := v.surface.isRunning
  let stop := if taken then some ⟨v.now, .loopTaken⟩ else stop
  let v := if taken then v else { v with surface := { v.surface with loop := .running false } }
  let (p, stopped) :=
    match Progress.feed stop { view := v, waiting := taken } cues with
    | (p, some s) => (p, some s)
    | (p, none) => p.settled stop settle
  let v := p.finish
  let v := if taken then v else { v with surface := v.surface.stop }
  (v, if taken then some .loopTaken else stopped.map (·.reason))

end Script

end SurfaceHost
