import SurfaceHost.Number.Word

/-!
# Motions and contacts

The samples of pointers, and the pointers that are down.
-/

namespace SurfaceHost

/-! ### Motions

One sample of one pointer, in pixels of the surface.
-/

/-- What a pointer does. -/
inductive Phase where
  | down
  | move
  | up
  | cancel
  /-- Anything else, which nobody acts on. -/
  | unknown
  deriving DecidableEq, Repr

namespace Phase

/-- The phases in the order of their codes. -/
def ofCode : Int → Phase
  | 0 => .down
  | 1 => .move
  | 2 => .up
  | 3 => .cancel
  | _ => .unknown

def name : Phase → String
  | .down => "down"
  | .move => "move"
  | .up => "up"
  | .cancel => "cancel"
  | .unknown => "unknown"

/-- The phase that a script calls by name. -/
def named? : String → Option Phase
  | "down" => some .down
  | "move" => some .move
  | "up" => some .up
  | "cancel" => some .cancel
  | _ => none

end Phase

/-- What pointer `pointer` did at a point and an instant. -/
structure Motion where
  phase : Phase
  x : Float32
  y : Float32
  pointer : Int64
  time : Instant

/-! ### Contacts

The pointers that are down, each with its last position, in ascending order of the
pointer and with at most one contact for each.
-/

/-- A pointer that is down at a point. -/
structure Contact where
  pointer : Int64
  x : Float32
  y : Float32

/-- The contacts of a view, in ascending order of the pointer. -/
abbrev Contacts := List Contact

namespace Contacts

/-- Whether a pointer is down. -/
def contains (cs : Contacts) (pointer : Int64) : Bool :=
  cs.any (·.pointer == pointer)

/-- Puts a contact in its place, instead of the one with the same pointer. -/
def insert : Contacts → Contact → Contacts
  | [], c => [c]
  | d :: rest, c =>
    if c.pointer < d.pointer then c :: d :: rest
    else if c.pointer = d.pointer then c :: rest
    else d :: insert rest c

/-- Lifts a pointer. -/
def erase (cs : Contacts) (pointer : Int64) : Contacts :=
  cs.filter (·.pointer ≠ pointer)

end Contacts

end SurfaceHost
