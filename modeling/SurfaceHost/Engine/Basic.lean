import SurfaceHost.Text.Basic
import SurfaceHost.Text.Quoted

/-!
# Engines

What a rendering engine is told, which functions an engine library exports, and the ways
to such a library.
-/

namespace SurfaceHost

/-! ### Calls

What a rendering engine is told.  Three kinds of calls are optional: an engine may
not care for single pointers, long presses or the positions of a fling.
-/

/-- One call to an engine. -/
inductive Call where
  /-- A drawing target is ready; `storage` is where the engine may keep data. -/
  | init (storage : String)
  | resize (width height : Int64)
  | redraw
  | mouseDown (x y : Int64)
  | mouseUp (x y : Int64)
  | mouseMove (x y : Int64)
  /-- A scroll that began at `(x, y)`. -/
  | scroll (x y : Int64) (dx dy : Float32)
  | pointerDown (x y : Float32) (pointer : Int64)
  | pointerUp (x y : Float32) (pointer : Int64)
  | pointerMove (x y : Float32) (pointer : Int64)
  | longPress (x y : Int64)
  /-- Where a fling has got to. -/
  | kinetic (x y : Int64)

/-- The optional calls that an engine takes. -/
structure Capabilities where
  pointer : Bool := false
  longPress : Bool := false
  kinetic : Bool := false
  deriving DecidableEq, Repr

/-- Every optional call. -/
def Capabilities.all : Capabilities := ⟨true, true, true⟩

/-! ### Entry points

The functions that an engine library exports, and what can be said of a library from
the names it exports.
-/

/-- A function of an engine library. -/
inductive EntryPoint where
  | init
  | resize
  | redraw
  | mouseDown
  | mouseUp
  | mouseMove
  | scroll
  | pointerDown
  | pointerUp
  | pointerMove
  | longPress
  | kinetic
  | executeBatch
  deriving DecidableEq, Repr

namespace EntryPoint

/-- All entry points, in the order in which they are looked up. -/
def all : List EntryPoint :=
  [.init, .resize, .redraw, .mouseDown, .mouseUp, .mouseMove, .scroll, .pointerDown,
    .pointerUp, .pointerMove, .longPress, .kinetic, .executeBatch]

/-- The name without the library's own beginning. -/
def name : EntryPoint → String
  | .init => "handle_init"
  | .resize => "handle_resize"
  | .redraw => "handle_redraw"
  | .mouseDown => "handle_mouse_button_down"
  | .mouseUp => "handle_mouse_button_up"
  | .mouseMove => "handle_mouse_move"
  | .scroll => "handle_scroll"
  | .pointerDown => "handle_pointer_button_down"
  | .pointerUp => "handle_pointer_button_up"
  | .pointerMove => "handle_pointer_move"
  | .longPress => "handle_long_press"
  | .kinetic => "handle_kinetic_scroll"
  | .executeBatch => "execute_batch"

/-- Whether a library cannot do without it. -/
def isRequired : EntryPoint → Bool
  | .init | .resize | .redraw | .mouseDown | .mouseUp | .mouseMove | .scroll => true
  | .pointerDown | .pointerUp | .pointerMove | .longPress | .kinetic | .executeBatch => false

/-- The entry point with a name. -/
def named? (name : String) : Option EntryPoint :=
  all.find? (·.name == name)

/-- The entry point whose name a longer name ends in. -/
def ending? (symbol : String) : Option EntryPoint :=
  all.find? (symbol.endsWith ·.name)

/-- Whether a name is that of a required entry point. -/
def isRequiredName (name : String) : Bool :=
  (named? name).any isRequired

end EntryPoint

/-! ### Transports

How input calls reach an engine library: one by one, or many at a time in a batch.
-/

/-- The ways to a library. -/
inductive Transport where
  | direct
  | batch
  deriving DecidableEq, Repr

namespace Transport

def name : Transport → String
  | .direct => "direct"
  | .batch => "batch"

def code : Transport → Int64
  | .direct => 0
  | .batch => 1

/-- The transport with a code. -/
def ofCode? (code : Int64) : Option Transport :=
  if code = 0 then some .direct else if code = 1 then some .batch else none

/-- A name for every code, also for those that are not in use. -/
def nameOfCode (code : Int64) : String :=
  match ofCode? code with
  | some t => t.name
  | none => "TransportMode(" ++ toString code.toInt ++ ")"

/-- A word that names no transport. -/
structure UnknownTransport where
  word : String
  deriving DecidableEq, Repr

/-- The wording of an `UnknownTransport`. -/
def UnknownTransport.message (e : UnknownTransport) : String :=
  "unknown transport " ++ Text.quoted e.word ++ " (want direct or batch)"

/-- The transport that a word names, in any case and with white space around it; no
word means the direct one. -/
def parse (word : String) : Except UnknownTransport Transport :=
  match Text.lower (Text.trimSpace word) with
  | "" | "direct" => .ok .direct
  | "batch" => .ok .batch
  | _ => .error ⟨word⟩

end Transport

end SurfaceHost
