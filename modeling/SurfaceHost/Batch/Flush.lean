import SurfaceHost.Batch.Message
import SurfaceHost.Text.Basic

/-!
# Batches

A batch collects commands until it is flushed.  A flush hands one request to the
engine, which writes its responses into a buffer that the batch owns; an engine that
finds the buffer too small is asked a second time with one of twice the size.  After
a flush the commands are gone, whatever became of them.
-/

namespace SurfaceHost

/-- What an engine does with one request. -/
structure Reply where
  /-- Negative on failure. -/
  status : Int32
  /-- How many bytes of responses the engine says it wrote. -/
  length : Int64
  /-- The bytes that it wrote at the start of the buffer. -/
  written : ByteArray

/-- An engine that executes batches: from its state, a request and the response
buffer, to what it does and its next state.  It may also fail to come back.  It reads
the request and leaves it as it is: a second attempt is made with the same bytes, and
what is written goes to the buffer only. -/
abbrev Executor (ε : Type) := ε → (request buffer : ByteArray) → Option Reply × ε

/-- The buffer after an engine wrote at its start; what does not fit is cut off. -/
def Reply.buffer (r : Reply) (buffer : ByteArray) : ByteArray :=
  r.written.extract 0 buffer.size ++ buffer.extract r.written.size buffer.size

/-- Commands waiting to be sent, and the buffer for responses. -/
structure Batch where
  commands : Array Command := #[]
  buffer : ByteArray

namespace Batch

/-- Why a flush failed. -/
inductive FlushError where
  | requestTooLong
  | bufferTooLong
  | status (code : Int32)
  | overrun (length : Int64) (size : Nat)
  | malformed (cause : Response.ParseError)
  | mismatch (responses commands : Nat)
  | rejected (index : Nat) (payload : List UInt8)
  deriving DecidableEq, Repr

/-- The wording of a `FlushError`; the payload of a rejection is repeated as it is. -/
def FlushError.pieces (e : FlushError) : List Text.Piece :=
  let tail : String × List UInt8 :=
    match e with
    | .requestTooLong => ("request buffer would exceed max size", [])
    | .bufferTooLong => ("response buffer would exceed max size", [])
    | .status code => ("engine returned " ++ toString code.toInt, [])
    | .overrun length size =>
      ("engine wrote " ++ toString length.toInt ++ " bytes into a " ++ toString size
        ++ " byte buffer", [])
    | .malformed cause => (cause.message, [])
    | .mismatch responses commands =>
      (toString responses ++ " responses for " ++ toString commands ++ " commands", [])
    | .rejected index payload => ("command " ++ toString index ++ ": ", payload)
  Text.piecesOfString ("ffi: batch execution failed: " ++ tail.1) ++ Text.piecesFrom 0 tail.2

/-- The largest request and the largest buffer, in bytes. -/
def maxSize : Nat := 16 * 1024 * 1024

/-- The status of an engine that finds the buffer too small. -/
def tooSmall : Int32 := -2

/-- A buffer of zeros. -/
def zeros (size : Nat) : ByteArray :=
  ⟨Array.replicate size 0⟩

/-- An empty batch with its first buffer. -/
def empty : Batch := { buffer := zeros 4096 }

/-- How many commands are waiting, as a 32-bit number. -/
def count (b : Batch) : UInt32 :=
  b.commands.size.toUInt32

/-- The size of the request for the commands that are waiting. -/
def requestSize (b : Batch) : Nat :=
  b.commands.foldl (fun n c => n + c.size) 4

/-- Puts a command behind those that are waiting. -/
def add (b : Batch) (c : Command) : Batch :=
  { b with commands := b.commands.push c }

/-- The batch without its commands. -/
def clear (b : Batch) : Batch :=
  { b with commands := #[] }

/-- What became of a flush. -/
inductive Outcome where
  | done
  | failed (e : FlushError)
  /-- The flush did not come back: the engine failed or reported a negative length. -/
  | crashed
  deriving DecidableEq, Repr

/-- A request as it was handed to an engine, and the size of the buffer with it. -/
structure Execution where
  request : ByteArray
  capacity : Nat

/-- A flush: the batch and the engine after it, the requests handed over, and what
became of it. -/
structure Flushed (ε : Type) where
  batch : Batch
  engine : ε
  executions : List Execution
  outcome : Outcome

/-- Judges the responses to `count` commands. -/
def judge (count : Nat) (responses : List Response) : Outcome :=
  if responses.length ≠ count then
    .failed (.mismatch responses.length count)
  else
    match responses.findIdx? (·.kind == Response.failure) with
    | some i => .failed (.rejected i ((responses[i]?.map (·.payload)).getD []))
    | none => .done

/-- Judges the last reply of an engine, after which the buffer is `buffer`. -/
def judgeReply (count : Nat) (r : Reply) (buffer : ByteArray) : Outcome :=
  if r.status < 0 then
    .failed (.status r.status)
  else if (buffer.size : Int) < r.length.toInt then
    .failed (.overrun r.length buffer.size)
  else if r.length < 0 then
    .crashed
  else
    match Response.parse (buffer.extract 0 r.length.toInt.toNat).toList with
    | .ok responses => judge count responses
    | .error e => .failed (.malformed e)

/-- Sends the waiting commands.  Nothing happens if there are none. -/
def flush {ε : Type} (b : Batch) (execute : Executor ε) (engine : ε) : Flushed ε :=
  if b.count = 0 then
    { batch := b, engine, executions := [], outcome := .done }
  else if maxSize < b.requestSize then
    { batch := b.clear, engine, executions := [], outcome := .failed .requestTooLong }
  else
    let request := Command.request b.commands
    let count := b.count.toNat
    let first : Execution := ⟨request, b.buffer.size⟩
    match execute engine request b.buffer with
    | (none, engine) => { batch := b.clear, engine, executions := [first], outcome := .crashed }
    | (some r, engine) =>
      let buffer := r.buffer b.buffer
      if r.status ≠ tooSmall then
        { batch := { b.clear with buffer }
          engine
          executions := [first]
          outcome := judgeReply count r buffer }
      else if maxSize < 2 * buffer.size then
        { batch := { b.clear with buffer }
          engine
          executions := [first]
          outcome := .failed .bufferTooLong }
      else
        let buffer := zeros (2 * buffer.size)
        let second : Execution := ⟨request, buffer.size⟩
        match execute engine request buffer with
        | (none, engine) =>
          { batch := { b.clear with buffer }
            engine
            executions := [first, second]
            outcome := .crashed }
        | (some r, engine) =>
          let buffer := r.buffer buffer
          { batch := { b.clear with buffer }
            engine
            executions := [first, second]
            outcome := judgeReply count r buffer }

/-! ### Scripted engines

Engines that answer batches from a script, and two ways to go on when it has ended:
saying nothing, and accepting every command.
-/

/-- The entry of a command that went well. -/
def successEntry : List UInt8 := [0, 0, 0, 0, 0]

/-- A count and as many entries of commands that went well. -/
def successes (count : Nat) : ByteArray :=
  Wire.pack (Wire.word32 count.toUInt32 ++ (List.replicate count successEntry).flatten)

/-- Writes nothing. -/
def silent (_request _buffer : ByteArray) : Reply :=
  { status := 0, length := 0, written := .empty }

/-- Accepts every command, if the buffer is large enough for the answer. -/
def agreeable (request buffer : ByteArray) : Reply :=
  let count := Wire.number (request.extract 0 4).toList
  if buffer.size < 4 + 5 * count then
    { status := tooSmall, length := 0, written := .empty }
  else
    { status := 0, length := Int64.ofNat (4 + 5 * count), written := successes count }

/-- Answers with the replies of a script, one by one, and after that in the given way. -/
def scripted (after : (request buffer : ByteArray) → Reply) : Executor (List Reply)
  | [], request, buffer => (some (after request buffer), [])
  | r :: rest, _, _ => (some r, rest)

end Batch

end SurfaceHost
