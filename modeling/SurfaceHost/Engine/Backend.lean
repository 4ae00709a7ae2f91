import SurfaceHost.Batch.Flush
import SurfaceHost.Engine.Basic
import SurfaceHost.Library.Basic
import SurfaceHost.Log.Record
import SurfaceHost.View.Basic

/-!
# Backends

What stands behind a view: an engine that only records its calls, one that only logs
them, or an engine library.
-/

namespace SurfaceHost

/-! ### The logging engine

An engine that only logs what it is told.
-/

namespace Call

private def pointAttributes (x y : Int64) : List (String × Log.Value) :=
  [("x", .number x), ("y", .number y)]

private def pointerAttributes (x y : Float32) (pointer : Int64) : List (String × Log.Value) :=
  [("x", .real x.toFloat), ("y", .real y.toFloat), ("pointer", .number pointer)]

/-- The record that the logging engine makes of a call.  Calls that come with every
frame or with every pointer are for debugging only. -/
def record : Call → Log.Record
  | .init storage => .info "handle_init" [("storage", .text storage)]
  | .resize width height =>
    .info "handle_resize" [("width", .number width), ("height", .number height)]
  | .redraw => .debug "handle_redraw"
  | .mouseDown x y => .info "handle_mouse_button_down" (pointAttributes x y)
  | .mouseUp x y => .info "handle_mouse_button_up" (pointAttributes x y)
  | .mouseMove x y => .info "handle_mouse_move" (pointAttributes x y)
  | .scroll x y dx dy =>
    .info "handle_scroll"
      (pointAttributes x y ++ [("vx", .real dx.toFloat), ("vy", .real dy.toFloat)])
  | .pointerDown x y pointer =>
    .debug "handle_pointer_button_down" (pointerAttributes x y pointer)
  | .pointerUp x y pointer => .debug "handle_pointer_button_up" (pointerAttributes x y pointer)
  | .pointerMove x y pointer => .debug "handle_pointer_move" (pointerAttributes x y pointer)
  | .longPress x y => .info "handle_long_press" (pointAttributes x y)
  | .kinetic x y => .debug "handle_kinetic_scroll" (pointAttributes x y)

end Call

/-! ### Taking in outputs

What stands behind a view: an engine that only records its calls, one that only logs
them, or an engine library.  A backend takes in what comes out of a view and turns the
calls into what can be seen of them.
-/

/-- What stands behind a view. -/
inductive Backend where
  | recording (capabilities : Capabilities)
  | logging
  /-- A library whose engine answers batches from a script and then accepts them. -/
  | native (l : Library) (script : List Reply)

namespace Backend

/-- What can be seen of a view's output. -/
inductive Sight where
  | call (c : Call)
  | task (label : String)
  | native (c : NativeCall)
  | log (r : Log.Record)

/-- The optional calls that a backend takes; a library drops those it has no entry
point for itself. -/
def capabilities : Backend → Capabilities
  | recording c => c
  | logging | native _ _ => .all

/-- Takes in one call. -/
def call (b : Backend) (c : Call) : Backend × List Sight :=
  match b with
  | recording _ => (b, [.call c])
  | logging => (b, [.log c.record])
  | native l script =>
    let s := l.handle (Batch.scripted Batch.agreeable) script c
    (native s.library s.engine,
      s.effects.map fun
        | .native c => .native c
        | .log r => .log r)

/-- Takes in one output. -/
def absorb (b : Backend) : Output → Backend × List Sight
  | .call c => b.call c
  | .log r => (b, [.log r])
  | .task label => (b, [.task label])

/-- Takes in several outputs. -/
def absorbAll (b : Backend) : List Output → Backend × List Sight
  | [] => (b, [])
  | o :: rest =>
    let (b, seen) := b.absorb o
    let (b, more) := b.absorbAll rest
    (b, seen ++ more)

end Backend

end SurfaceHost
