import SurfaceHost.Engine.Basic

/-!
# Requests and responses

The two messages of a batch as bytes: the request, made of commands, and the answer to it,
made of responses.
-/

namespace SurfaceHost

/-! ### Numbers as bytes

Numbers as bytes, the least significant byte first.
-/

namespace Wire

def word16 (n : UInt16) : List UInt8 :=
  [n.toUInt8, (n >>> 8).toUInt8]

def word32 (n : UInt32) : List UInt8 :=
  [n.toUInt8, (n >>> 8).toUInt8, (n >>> 16).toUInt8, (n >>> 24).toUInt8]

/-- The number whose bytes these are. -/
def number (bytes : List UInt8) : Nat :=
  bytes.foldr (fun b n => b.toNat + 256 * n) 0

/-- An integer, of which the low 32 bits are kept. -/
def integer (i : Int64) : List UInt8 :=
  word32 i.toInt32.toUInt32

/-- The bits of a single. -/
def single (x : Float32) : List UInt8 :=
  word32 x.toBits

/-- The first `n` elements and the rest, if there are that many. -/
def split? {α : Type} : Nat → List α → Option (List α × List α)
  | 0, rest => some ([], rest)
  | _ + 1, [] => none
  | n + 1, a :: rest => (split? n rest).map fun (front, rest) => (a :: front, rest)

/-- Bytes as an array. -/
def pack (bytes : List UInt8) : ByteArray :=
  ⟨bytes.toArray⟩

end Wire

/-! ### Commands

A batch request is a number of commands, each with a code and a payload:

    count (4 bytes) then, for each command, code (2), payload length (4), payload
-/

/-- One command of a batch. -/
structure Command where
  code : UInt16
  payload : ByteArray

namespace Command

/-- The payload of a point. -/
def pointPayload (x y : Int64) : List UInt8 :=
  Wire.integer x ++ Wire.integer y

/-- The payload of a pointer. -/
def pointerPayload (x y : Float32) (pointer : Int64) : List UInt8 :=
  Wire.single x ++ Wire.single y ++ Wire.integer pointer

/-- The payload of a scroll. -/
def scrollPayload (x y : Int64) (dx dy : Float32) : List UInt8 :=
  pointPayload x y ++ Wire.single dx ++ Wire.single dy

/-- The command for a call.  Setting up, resizing and drawing are never batched. -/
def ofCall? : Call → Option Command
  | .init _ | .resize _ _ | .redraw => none
  | .mouseDown x y => some ⟨0x0100, Wire.pack (pointPayload x y)⟩
  | .mouseUp x y => some ⟨0x0101, Wire.pack (pointPayload x y)⟩
  | .mouseMove x y => some ⟨0x0102, Wire.pack (pointPayload x y)⟩
  | .scroll x y dx dy => some ⟨0x0103, Wire.pack (scrollPayload x y dx dy)⟩
  | .pointerDown x y p => some ⟨0x0200, Wire.pack (pointerPayload x y p)⟩
  | .pointerUp x y p => some ⟨0x0201, Wire.pack (pointerPayload x y p)⟩
  | .pointerMove x y p => some ⟨0x0202, Wire.pack (pointerPayload x y p)⟩
  | .longPress x y => some ⟨0x0300, Wire.pack (pointPayload x y)⟩
  | .kinetic x y => some ⟨0x0301, Wire.pack (pointPayload x y)⟩

/-- What stands before the payload. -/
def header (c : Command) : List UInt8 :=
  Wire.word16 c.code ++ Wire.word32 c.payload.size.toUInt32

/-- How many bytes a command takes in a request. -/
def size (c : Command) : Nat :=
  6 + c.payload.size

/-- The request made of some commands. -/
def request (commands : Array Command) : ByteArray :=
  commands.foldl (fun bytes c => bytes ++ Wire.pack c.header ++ c.payload)
    (Wire.pack (Wire.word32 commands.size.toUInt32))

end Command

/-! ### Responses

The answer to a batch is a number of entries, each with a kind and a payload:

    count (4 bytes) then, for each entry, kind (1), payload length (4), payload

Bytes after the last entry are ignored.
-/

/-- The answer to one command. -/
structure Response where
  kind : UInt8
  payload : List UInt8
  deriving DecidableEq, Repr

namespace Response

/-- The kind of an answer that reports a failure. -/
def failure : UInt8 := 1

/-- How bytes fail to be responses. -/
inductive ParseError where
  /-- There is no count. -/
  | noCount
  /-- An entry ends before its payload. -/
  | truncated
  /-- A payload is shorter than announced. -/
  | payloadTruncated
  deriving DecidableEq, Repr

/-- The wording of a `ParseError`. -/
def ParseError.message : ParseError → String
  | .noCount => "response too short"
  | .truncated => "response truncated"
  | .payloadTruncated => "response payload truncated"

/-- Reads `count` entries. -/
def entries : Nat → List UInt8 → Except ParseError (List Response)
  | 0, _ => .ok []
  | count + 1, bytes =>
    match bytes with
    | kind :: a :: b :: c :: d :: rest =>
      match Wire.split? (Wire.number [a, b, c, d]) rest with
      | some (payload, rest) =>
        match entries count rest with
        | .ok others => .ok ({ kind, payload } :: others)
        | .error e => .error e
      | none => .error .payloadTruncated
    | _ => .error .truncated

/-- Reads all entries. -/
def parse (bytes : List UInt8) : Except ParseError (List Response) :=
  match bytes with
  | a :: b :: c :: d :: rest => entries (Wire.number [a, b, c, d]) rest
  | _ => .error .noCount

end Response

end SurfaceHost
