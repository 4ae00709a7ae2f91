import SurfaceHost.Batch.Flush
import SurfaceHost.Engine.Basic
import SurfaceHost.Log.Record

/-!
# Engine libraries

An open engine library takes calls and passes them on, either at once or in a batch
that is flushed right before the next call that cannot wait.  A flush that fails is
logged; the first such failure is kept.
-/

namespace SurfaceHost

/-- What a library gets to see. -/
inductive NativeCall where
  /-- The bytes of the storage path, up to the first zero. -/
  | init (storage : List UInt8)
  | resize (width height : Int32)
  | redraw
  | mouseDown (x y : Int32)
  | mouseUp (x y : Int32)
  | mouseMove (x y : Int32)
  | scroll (x y : Int32) (dx dy : Float32)
  | pointerDown (x y : Float32) (pointer : Int32)
  | pointerUp (x y : Float32) (pointer : Int32)
  | pointerMove (x y : Float32) (pointer : Int32)
  | longPress (x y : Int32)
  | kinetic (x y : Int32)
  | batch (e : Batch.Execution)

/-- A call as a library sees it: integers keep their low 32 bits. -/
def NativeCall.ofCall : Call → NativeCall
  | .init storage => .init (storage.toUTF8.toList.takeWhile (· ≠ 0))
  | .resize width height => .resize width.toInt32 height.toInt32
  | .redraw => .redraw
  | .mouseDown x y => .mouseDown x.toInt32 y.toInt32
  | .mouseUp x y => .mouseUp x.toInt32 y.toInt32
  | .mouseMove x y => .mouseMove x.toInt32 y.toInt32
  | .scroll x y dx dy => .scroll x.toInt32 y.toInt32 dx dy
  | .pointerDown x y p => .pointerDown x y p.toInt32
  | .pointerUp x y p => .pointerUp x y p.toInt32
  | .pointerMove x y p => .pointerMove x y p.toInt32
  | .longPress x y => .longPress x.toInt32 y.toInt32
  | .kinetic x y => .kinetic x.toInt32 y.toInt32

/-- The integers that a call passes on. -/
def Call.integers : Call → List Int32
  | .init _ | .redraw => []
  | .resize x y | .mouseDown x y | .mouseUp x y | .mouseMove x y | .scroll x y _ _
  | .longPress x y | .kinetic x y => [x.toInt32, y.toInt32]
  | .pointerDown _ _ p | .pointerUp _ _ p | .pointerMove _ _ p => [p.toInt32]

/-- The reals that a call passes on. -/
def Call.reals : Call → List Float32
  | .scroll _ _ dx dy => [dx, dy]
  | .pointerDown x y _ | .pointerUp x y _ | .pointerMove x y _ => [x, y]
  | _ => []

/-- A call as it is seen by the function that an entry point should lead to.  It takes
its integers and its reals each in order, and zero where none was passed. -/
def NativeCall.seenBy (c : Call) (e : EntryPoint) : NativeCall :=
  let i (n : Nat) := c.integers.getD n 0
  let r (n : Nat) := c.reals.getD n 0
  match e with
  | .resize => .resize (i 0) (i 1)
  | .redraw => .redraw
  | .mouseDown => .mouseDown (i 0) (i 1)
  | .mouseUp => .mouseUp (i 0) (i 1)
  | .mouseMove => .mouseMove (i 0) (i 1)
  | .scroll => .scroll (i 0) (i 1) (r 0) (r 1)
  | .pointerDown => .pointerDown (r 0) (r 1) (i 0)
  | .pointerUp => .pointerUp (r 0) (r 1) (i 0)
  | .pointerMove => .pointerMove (r 0) (r 1) (i 0)
  | .longPress => .longPress (i 0) (i 1)
  | .kinetic => .kinetic (i 0) (i 1)
  -- These take addresses, which only the right calls pass on.
  | .init | .executeBatch => .ofCall c

/-- The entry point that a call goes to. -/
def EntryPoint.ofCall : Call → EntryPoint
  | .init _ => .init
  | .resize _ _ => .resize
  | .redraw => .redraw
  | .mouseDown _ _ => .mouseDown
  | .mouseUp _ _ => .mouseUp
  | .mouseMove _ _ => .mouseMove
  | .scroll _ _ _ _ => .scroll
  | .pointerDown _ _ _ => .pointerDown
  | .pointerUp _ _ _ => .pointerUp
  | .pointerMove _ _ _ => .pointerMove
  | .longPress _ _ => .longPress
  | .kinetic _ _ => .kinetic

/-- An open engine library. -/
structure Library where
  transport : Transport
  /-- The entry points that it has. -/
  bound : List EntryPoint
  /-- The one whose function all of them lead to, if it is the same for all. -/
  shared : Option EntryPoint := none
  batch : Batch := .empty
  /-- The first flush that failed. -/
  firstError : Option Batch.FlushError := none

namespace Library

/-- What comes of a call. -/
inductive Effect where
  | native (c : NativeCall)
  | log (r : Log.Record)

/-- A library and its engine after a call, and what came of it. -/
structure Served (ε : Type) where
  library : Library
  engine : ε
  effects : List Effect := []
  /-- The call did not come back. -/
  crashed : Bool := false

/-- Whether a call has somewhere to go; a library that is open has everything that is
required. -/
def accepts (l : Library) (c : Call) : Bool :=
  (EntryPoint.ofCall c).isRequired || l.bound.contains (EntryPoint.ofCall c)

/-- What the library sees of a call. -/
def native (l : Library) (c : Call) : NativeCall :=
  match l.shared with
  | none => .ofCall c
  | some e => .seenBy c e

/-- Sends what is waiting in the batch. -/
def flush {ε : Type} (l : Library) (execute : Executor ε) (engine : ε) : Served ε :=
  match l.transport with
  | .direct => { library := l, engine }
  | .batch =>
    let f := l.batch.flush execute engine
    let sent := f.executions.map fun e => Effect.native (.batch e)
    let l := { l with batch := f.batch }
    match f.outcome with
    | .done => { library := l, engine := f.engine, effects := sent }
    | .failed e =>
      { library := { l with firstError := l.firstError <|> some e }
        engine := f.engine
        effects :=
          sent ++ [.log (.error "ffi: batch flush failed" [("error", .message e.pieces)])] }
    | .crashed => { library := l, engine := f.engine, effects := sent, crashed := true }

/-- Takes one call.  Input waits in the batch, if there is one; everything else goes
to the library at once, behind the input that was waiting. -/
def handle {ε : Type} (l : Library) (execute : Executor ε) (engine : ε) (c : Call) : Served ε :=
  if l.accepts c then
    match l.transport, Command.ofCall? c with
    | .batch, some command =>
      { library := { l with batch := l.batch.add command }, engine }
    | _, some _ => { library := l, engine, effects := [.native (l.native c)] }
    | _, none =>
      let s := l.flush execute engine
      if s.crashed then s else { s with effects := s.effects ++ [.native (l.native c)] }
  else
    { library := l, engine }

end Library

end SurfaceHost
