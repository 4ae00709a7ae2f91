import Mathlib.Tactic.Common
import SurfaceHost.Batch.Flush

/-!
# Reading requests

What an engine does with the bytes of a batch request: it reads the count, and then for
each command its code, the length of its payload and the payload, with nothing left at
the end.  Reading a request gives back the commands that it was made of, as long as it is
not too long.  An engine that accepts all commands answers with entries that the batch
takes for a success.
-/

namespace SurfaceHost

namespace Wire

/-! ### Numbers -/

/-- The words that bytes are made of. -/
def words? : List UInt8 → Option (List UInt32)
  | [] => some []
  | a :: b :: c :: d :: rest => (words? rest).map (UInt32.ofNat (number [a, b, c, d]) :: ·)
  | _ => none

@[simp]
theorem number_word16 (n : UInt16) :
  number (word16 n) = n.toNat
  := by
  have := n.toNat_lt
  simp [number, word16, UInt16.toNat_shiftRight, Nat.shiftRight_eq_div_pow]
  omega

@[simp]
theorem number_word32 (n : UInt32) :
  number (word32 n) = n.toNat
  := by
  have := n.toNat_lt
  simp [number, word32, UInt32.toNat_shiftRight, Nat.shiftRight_eq_div_pow]
  omega

/-- A count that is not too large comes back from its bytes. -/
theorem number_word32_toUInt32 {n : Nat} (h : n < UInt32.size) :
  number (word32 n.toUInt32) = n
  := by
  rw [number_word32]
  exact UInt32.toNat_ofNat_of_lt' h

@[simp]
theorem words?_word32_append (n : UInt32) (rest : List UInt8) :
  words? (word32 n ++ rest) = (words? rest).map (n :: ·)
  := by
  have hn := number_word32 n
  simp only [word32] at hn
  simp [word32, words?, hn]

theorem toList_loop (bytes : ByteArray) (i : Nat) (l : List UInt8) :
  ByteArray.toList.loop bytes i l = l.reverse ++ bytes.data.toList.drop i
  := by
  fun_induction ByteArray.toList.loop bytes i l with
  | case1 i l hlt ih =>
    have hlength : i < bytes.data.toList.length := hlt
    have hget : bytes.get! i = bytes.data.toList[i] := getElem!_pos bytes.data i hlt
    rw [ih, List.reverse_cons, List.append_assoc, hget, List.singleton_append,
      ← List.drop_eq_getElem_cons hlength]
  | case2 i l hge =>
    have hle : bytes.data.toList.length ≤ i := Nat.not_lt.mp hge
    rw [List.drop_eq_nil_of_le hle, List.append_nil]

theorem toList_eq (bytes : ByteArray) :
  bytes.toList = bytes.data.toList
  := by
  rw [ByteArray.toList, toList_loop, List.reverse_nil, List.nil_append, List.drop_zero]

@[simp]
theorem split?_append {α : Type} (front back : List α) :
  split? front.length (front ++ back) = some (front, back)
  := by
  induction front with
  | nil => rfl
  | cons a front ih => simp [split?, ih]

end Wire

namespace Command

/-! ### Commands -/

/-- Reads `count` commands, after which nothing may be left. -/
def entries? : Nat → List UInt8 → Option (List Command)
  | 0, [] => some []
  | 0, _ :: _ => none
  | count + 1, a :: b :: c :: d :: e :: f :: rest =>
    match Wire.split? (Wire.number [c, d, e, f]) rest with
    | some (payload, rest) =>
      (entries? count rest).map
        ({ code := UInt16.ofNat (Wire.number [a, b]), payload := Wire.pack payload } :: ·)
    | none => none
  | _ + 1, _ => none

/-- The commands of a request. -/
def decode? : List UInt8 → Option (List Command)
  | a :: b :: c :: d :: rest => entries? (Wire.number [a, b, c, d]) rest
  | _ => none

/-- The bytes of a command. -/
def bytes (c : Command) : List UInt8 :=
  c.header ++ c.payload.data.toList

theorem entries?_bytes_append {count : Nat} {c : Command} {rest : List UInt8}
    (h : c.payload.size < UInt32.size) :
  entries? (count + 1) (c.bytes ++ rest) = (entries? count rest).map (c :: ·)
  := by
  have hcode := Wire.number_word16 c.code
  have hsize := Wire.number_word32_toUInt32 h
  simp only [Wire.word16] at hcode
  simp only [Wire.word32] at hsize
  have hlength : c.payload.size = c.payload.data.toList.length := rfl
  rw [hlength] at hsize
  simp only [bytes, header, Wire.word16, Wire.word32, List.cons_append, List.nil_append,
    entries?, hcode, hlength, hsize, Wire.split?_append, UInt16.ofNat_toNat]
  rfl

theorem entries?_flatMap_bytes {commands : List Command}
    (h : ∀ c ∈ commands, c.payload.size < UInt32.size) :
  entries? commands.length (commands.flatMap bytes) = some commands
  := by
  induction commands with
  | nil => rfl
  | cons c rest ih =>
    obtain ⟨hc, hrest⟩ := List.forall_mem_cons.mp h
    rw [List.flatMap_cons, List.length_cons, entries?_bytes_append hc, ih hrest]
    rfl

/-- The bytes of a request: the count, and then the commands one after the other. -/
theorem toList_request (commands : Array Command) :
  (request commands).data.toList =
    Wire.word32 commands.size.toUInt32 ++ commands.toList.flatMap bytes
  := by
  have hfold (l : List Command) (start : ByteArray) :
      (l.foldl (fun bytes c => bytes ++ Wire.pack c.header ++ c.payload) start).data.toList =
        start.data.toList ++ l.flatMap bytes := by
    induction l generalizing start with
    | nil => simp
    | cons c rest ih =>
      rw [List.foldl_cons, ih]
      simp [bytes, Wire.pack]
  rw [request, ← Array.foldl_toList, hfold]
  simp [Wire.pack]

/-- Reading a request gives back its commands. -/
theorem decode?_request {commands : Array Command} (hcount : commands.size < UInt32.size)
    (hpayload : ∀ c ∈ commands, c.payload.size < UInt32.size) :
  decode? (request commands).data.toList = some commands.toList
  := by
  have hsize := Wire.number_word32_toUInt32 hcount
  have hentries : entries? commands.size (commands.toList.flatMap bytes) = some commands.toList := by
    rw [← Array.length_toList]
    apply entries?_flatMap_bytes
    simpa using hpayload
  rw [toList_request]
  simp only [Wire.word32] at hsize ⊢
  simp only [List.cons_append, List.nil_append, decode?, hsize, hentries]

end Command

namespace Batch

theorem le_foldl_size (l : List Command) (start : Nat) :
  start + 6 * l.length ≤ l.foldl (fun n c => n + c.size) start
    ∧ ∀ c ∈ l, c.payload.size ≤ l.foldl (fun n c => n + c.size) start
  := by
  induction l generalizing start with
  | nil => simp
  | cons c rest ih =>
    obtain ⟨hlength, hpayload⟩ := ih (start + c.size)
    have hsize : c.size = 6 + c.payload.size := rfl
    rw [List.foldl_cons, List.length_cons]
    constructor
    · omega
    · apply List.forall_mem_cons.mpr ⟨_, hpayload⟩
      omega

/-- The number of commands and their payloads are small in a request that is not too
long. -/
theorem small_of_requestSize_le {b : Batch} (h : b.requestSize ≤ maxSize) :
  b.commands.size < UInt32.size ∧ ∀ c ∈ b.commands, c.payload.size < UInt32.size
  := by
  rw [requestSize, ← Array.foldl_toList] at h
  obtain ⟨hlength, hpayload⟩ := le_foldl_size b.commands.toList 4
  simp only [maxSize, Array.length_toList] at h hlength
  simp only [UInt32.size]
  constructor
  · omega
  · intro c hc
    have := hpayload c (Array.mem_toList_iff.mpr hc)
    omega

/-- A request that is not too long can be read. -/
theorem decode?_request {b : Batch} (h : b.requestSize ≤ maxSize) :
  Command.decode? (Command.request b.commands).data.toList = some b.commands.toList
  := Command.decode?_request (small_of_requestSize_le h).1 (small_of_requestSize_le h).2

/-- Such a batch counts its commands right. -/
theorem toNat_count {b : Batch} (h : b.requestSize ≤ maxSize) :
  b.count.toNat = b.commands.size
  := UInt32.toNat_ofNat_of_lt' (small_of_requestSize_le h).1

end Batch

/-! ### Replies -/

/-- A reply that accepts `count` commands: the engine reports no failure, its responses fit
the buffer, and they are as many entries of success. -/
structure Reply.Accepts (r : Reply) (count : Nat) (buffer : ByteArray) : Prop where
  status : 0 ≤ r.status
  length_nonneg : 0 ≤ r.length
  length_le : r.length.toInt ≤ (r.buffer buffer).size
  responses : ∃ responses,
    Response.parse ((r.buffer buffer).extract 0 r.length.toInt.toNat).toList = .ok responses
      ∧ responses.length = count ∧ ∀ x ∈ responses, x.kind = 0

/-- Writing keeps the size of the buffer. -/
@[simp]
theorem Reply.size_buffer (r : Reply) (buffer : ByteArray) :
  (r.buffer buffer).size = buffer.size
  := by
  rw [Reply.buffer, ByteArray.size_append, ByteArray.size_extract, ByteArray.size_extract]
  omega

/-- What fits the buffer can be found at its start. -/
theorem Reply.extract_buffer {r : Reply} {buffer : ByteArray} (h : r.written.size ≤ buffer.size) :
  (r.buffer buffer).extract 0 r.written.size = r.written
  := by
  have hwritten : r.written.extract 0 buffer.size = r.written := by
    apply ByteArray.ext
    rw [ByteArray.data_extract]
    exact Array.extract_eq_self_of_le h
  rw [Reply.buffer, hwritten]
  apply ByteArray.ext
  simp [ByteArray.data_extract]

namespace Batch

/-- A batch judges a reply that accepts its commands a success. -/
theorem judgeReply_of_accepts {r : Reply} {count : Nat} {buffer : ByteArray}
    (h : r.Accepts count buffer) :
  judgeReply count r (r.buffer buffer) = .done
  := by
  obtain ⟨responses, hparse, hlength, hkind⟩ := h.responses
  have hstatus : ¬ r.status < 0 := Int32.not_lt.mpr h.status
  have hneg : ¬ r.length < 0 := Int64.not_lt.mpr h.length_nonneg
  have hfits : ¬ ((r.buffer buffer).size : Int) < r.length.toInt := Int.not_lt.mpr h.length_le
  have hnone : responses.findIdx? (·.kind == Response.failure) = none := by
    rw [List.findIdx?_eq_none_iff]
    intro x hx
    rw [hkind x hx]
    rfl
  rw [judgeReply, if_neg hstatus, if_neg hfits, if_neg hneg, hparse]
  simp [judge, hlength, hnone]

/-- A flush without commands does nothing. -/
theorem flush_of_empty {ε : Type} {b : Batch} (execute : Executor ε) (engine : ε)
    (h : b.commands = #[]) :
  b.flush execute engine = { batch := b, engine, executions := [], outcome := .done }
  := by
  have hcount : b.count = 0 := by simp [count, h]
  rw [flush, if_pos hcount]

/-- A flush that is accepted hands over one request and is done. -/
theorem flush_of_accepts {ε : Type} {b : Batch} {execute : Executor ε} {engine engine' : ε}
    {r : Reply} (hsize : b.requestSize ≤ maxSize) (hcommands : b.commands ≠ #[])
    (hexecute : execute engine (Command.request b.commands) b.buffer = (some r, engine'))
    (haccepts : r.Accepts b.commands.size b.buffer) :
  b.flush execute engine =
    { batch := { buffer := r.buffer b.buffer }
      engine := engine'
      executions := [⟨Command.request b.commands, b.buffer.size⟩]
      outcome := .done }
  := by
  have hcount : b.count ≠ 0 := by
    intro hzero
    have hsize' := toNat_count hsize
    rw [hzero] at hsize'
    exact hcommands (Array.eq_empty_of_size_eq_zero hsize'.symm)
  have hstatus : r.status ≠ tooSmall := by
    intro htooSmall
    have hnonneg := haccepts.status
    rw [htooSmall] at hnonneg
    revert hnonneg
    decide
  have hjudge := judgeReply_of_accepts haccepts
  rw [← toNat_count hsize] at hjudge
  rw [flush, if_neg hcount, if_neg (Nat.not_lt.mpr hsize)]
  simp only [hexecute, if_pos hstatus, hjudge, clear]

/-! ### Agreeable engines -/

theorem entries_successEntry (count : Nat) :
  Response.entries count (List.replicate count successEntry).flatten =
    .ok (List.replicate count { kind := 0, payload := [] })
  := by
  induction count with
  | zero => rfl
  | succ count ih =>
    simp [List.replicate_succ, successEntry, Response.entries, Wire.number, Wire.split?] at ih ⊢
    rw [ih]

theorem parse_successes {count : Nat} (h : count < UInt32.size) :
  Response.parse (successes count).toList =
    .ok (List.replicate count { kind := 0, payload := [] })
  := by
  have hnumber := Wire.number_word32_toUInt32 h
  rw [Wire.toList_eq, successes, Wire.pack]
  simp only [Wire.word32] at hnumber ⊢
  simp only [List.cons_append, List.nil_append, Response.parse, hnumber, entries_successEntry]

theorem size_successes (count : Nat) :
  (successes count).size = 4 + 5 * count
  := by
  have hlength : (List.replicate count successEntry).flatten.length = 5 * count := by
    simp [successEntry, Nat.mul_comm]
  change (successes count).data.toList.length = _
  simp [successes, Wire.pack, Wire.word32, hlength]
  omega

/-- Entries of success accept as many commands if they fit the buffer. -/
theorem accepts_of_successes {r : Reply} {count : Nat} {buffer : ByteArray}
    (hstatus : r.status = 0) (hlength : r.length = Int64.ofNat (4 + 5 * count))
    (hwritten : r.written = successes count) (hcount : count < UInt32.size)
    (hsize : 4 + 5 * count ≤ buffer.size) :
  r.Accepts count buffer
  := by
  have hint : r.length.toInt = (4 + 5 * count : Nat) := by
    rw [hlength, Int64.toInt_ofNat_of_lt]
    simp only [UInt32.size] at hcount
    omega
  have hwrote : r.written.size = 4 + 5 * count := by rw [hwritten, size_successes]
  constructor
  case status =>
    rw [hstatus]
    exact Int32.le_refl 0
  case length_nonneg =>
    rw [Int64.le_iff_toInt_le, hint]
    exact Int.natCast_nonneg _
  case length_le =>
    rw [Reply.size_buffer, hint]
    exact Int.ofNat_le.mpr hsize
  case responses =>
    refine ⟨List.replicate count { kind := 0, payload := [] }, ?_, by simp, ?_⟩
    · rw [hint, Int.toNat_natCast, ← hwrote, Reply.extract_buffer (hwrote ▸ hsize), hwritten,
        parse_successes hcount]
    · intro x hx
      rw [List.eq_of_mem_replicate hx]

/-- An agreeable engine finds the number of commands at the start of the request. -/
theorem agreeable_request {commands : Array Command} (hcount : commands.size < UInt32.size)
    (buffer : ByteArray) :
  agreeable (Command.request commands) buffer =
    if buffer.size < 4 + 5 * commands.size then
      { status := tooSmall, length := 0, written := .empty }
    else
      { status := 0
        length := Int64.ofNat (4 + 5 * commands.size)
        written := successes commands.size }
  := by
  have hnumber : Wire.number ((Command.request commands).extract 0 4).toList = commands.size := by
    have hword := Wire.number_word32_toUInt32 hcount
    rw [Wire.toList_eq, ByteArray.data_extract, Array.toList_extract, Command.toList_request]
    simpa [Wire.word32] using hword
  simp only [agreeable, hnumber]

/-- An agreeable engine accepts the commands of a request if the buffer is large enough for
its answer. -/
theorem accepts_agreeable {commands : Array Command} {buffer : ByteArray}
    (hcount : commands.size < UInt32.size) (hsize : 4 + 5 * commands.size ≤ buffer.size) :
  (agreeable (Command.request commands) buffer).Accepts commands.size buffer
  := by
  rw [agreeable_request hcount, if_neg (Nat.not_lt.mpr hsize)]
  exact accepts_of_successes rfl rfl rfl hcount hsize

end Batch

end SurfaceHost
