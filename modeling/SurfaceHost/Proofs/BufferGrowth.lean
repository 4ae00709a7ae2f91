import SurfaceHost.Proofs.Batch.Flushing

/-!
# Room for responses

An engine that is willing to accept a batch still needs room for its answer: a count and
five bytes for each command.  Such an answer is always shorter than the request, so that
there is a buffer of an admissible size for it.  But a flush doubles the buffer at most once,
and fails if that is not enough.  The buffer stays doubled then, and the commands are gone.
-/

namespace SurfaceHost

/-- The reply of an engine that accepts `count` commands if its answer fits the buffer, and
otherwise says that it does not. -/
structure Reply.Willing (r : Reply) (count : Nat) (buffer : ByteArray) : Prop where
  of_lt : buffer.size < 4 + 5 * count → r.status = Batch.tooSmall ∧ r.length = 0
  of_le : 4 + 5 * count ≤ buffer.size →
    r.status = 0 ∧ r.length = Int64.ofNat (4 + 5 * count) ∧ r.written = Batch.successes count

/-- The engine gives such replies to the request for some commands. -/
def Executor.Willing {ε : Type} (execute : Executor ε) (commands : Array Command) : Prop :=
  ∀ engine buffer, ∃ r engine',
    execute engine (Command.request commands) buffer = (some r, engine')
      ∧ r.Willing commands.size buffer

theorem Executor.Willing.ne_none {ε : Type} {execute : Executor ε} {commands : Array Command}
    (h : execute.Willing commands) {engine engine' : ε} {buffer : ByteArray} :
  execute engine (Command.request commands) buffer ≠ (none, engine')
  := by
  obtain ⟨r, engine'', hexecute, -⟩ := h engine buffer
  rw [hexecute]
  nofun

theorem Executor.Willing.reply {ε : Type} {execute : Executor ε} {commands : Array Command}
    (h : execute.Willing commands) {engine engine' : ε} {buffer : ByteArray} {r : Reply}
    (hexecute : execute engine (Command.request commands) buffer = (some r, engine')) :
  r.Willing commands.size buffer
  := by
  obtain ⟨r', engine'', hexecute', hr⟩ := h engine buffer
  rw [hexecute] at hexecute'
  obtain rfl := Option.some.inj (Prod.mk.inj hexecute').1
  apply hr

/-- A willing reply accepts the commands if the answer fits the buffer. -/
theorem Reply.Willing.accepts {r : Reply} {count : Nat} {buffer : ByteArray}
    (h : r.Willing count buffer) (hcount : count < UInt32.size)
    (hroom : 4 + 5 * count ≤ buffer.size) :
  r.Accepts count buffer
  := by
  obtain ⟨hstatus, hlength, hwritten⟩ := h.of_le hroom
  apply Batch.accepts_of_successes hstatus hlength hwritten hcount hroom

/-- It says that the buffer is too small exactly if the answer does not fit. -/
theorem Reply.Willing.status_eq_tooSmall_iff {r : Reply} {count : Nat} {buffer : ByteArray}
    (h : r.Willing count buffer) :
  r.status = Batch.tooSmall ↔ buffer.size < 4 + 5 * count
  := by
  constructor
  · intro hstatus
    by_contra hlt
    rw [(h.of_le (Nat.not_lt.mp hlt)).1] at hstatus
    exact absurd hstatus (by decide)
  · intro hlt
    apply (h.of_lt hlt).1

namespace Batch

variable {ε : Type}

/-- Agreeable engines are willing. -/
theorem willing_agreeable {commands : Array Command} (hcount : commands.size < UInt32.size) :
  Executor.Willing (fun (_ : Unit) request buffer => (some (agreeable request buffer), ()))
    commands
  := by
  intro engine buffer
  refine ⟨_, _, rfl, ?_⟩
  rw [agreeable_request hcount]
  constructor
  · intro hlt
    rw [if_pos hlt]
    exact ⟨rfl, rfl⟩
  · intro hle
    rw [if_neg (Nat.not_lt.mpr hle)]
    exact ⟨rfl, rfl, rfl⟩

/-- The answer is shorter than the request, which has six bytes for each command. -/
theorem answer_le_requestSize (b : Batch) :
  4 + 5 * b.commands.size ≤ b.requestSize
  := by
  have hle := (le_foldl_size b.commands.toList 4).1
  rw [Array.foldl_toList, Array.length_toList] at hle
  rw [requestSize]
  omega

/-- A willing engine's answer to a batch that it can be asked about. -/
theorem judgeReply_of_willing {b : Batch} {r : Reply} {buffer : ByteArray}
    (hsize : b.requestSize ≤ maxSize) (h : r.Willing b.commands.size buffer) :
  judgeReply b.count.toNat r (r.buffer buffer) =
    if 4 + 5 * b.commands.size ≤ buffer.size then .done else .failed (.status tooSmall)
  := by
  split
  · rename_i hroom
    rw [toNat_count hsize]
    apply judgeReply_of_accepts (h.accepts (small_of_requestSize_le hsize).1 hroom)
  · rename_i hroom
    have hstatus := h.status_eq_tooSmall_iff.mpr (Nat.not_le.mp hroom)
    rw [judgeReply, hstatus]
    rfl

/-- A flush against a willing engine: the answer fits the buffer, or the one of twice the
size, or the flush fails. -/
theorem Doubled.flush_of_willing {b : Batch} (h : b.Doubled) {execute : Executor ε} (engine : ε)
    (hcommands : b.commands ≠ #[]) (hsize : b.requestSize ≤ maxSize)
    (hwilling : execute.Willing b.commands) :
  let f := b.flush execute engine
  let room := 4 + 5 * b.commands.size
  (room ≤ b.buffer.size ∧ f.outcome = .done)
    ∨ (b.buffer.size < room ∧ f.batch.buffer.size = 2 * b.buffer.size
        ∧ f.outcome = if room ≤ 2 * b.buffer.size then .done else .failed (.status tooSmall))
  := by
  intro f room
  have hroom : room ≤ maxSize := Nat.le_trans b.answer_le_requestSize hsize
  have hflush := b.flushes_flush execute engine
  change Flushes b execute engine f at hflush
  clear_value f
  cases hflush with
  | idle hcount =>
    have hzero := toNat_count hsize
    rw [hcount] at hzero
    exact absurd (Array.eq_empty_of_size_eq_zero hzero.symm) hcommands
  | tooLong _ hlong => omega
  | lost _ _ hexecute => exact absurd hexecute hwilling.ne_none
  | lostAgain _ _ _ _ _ hagain => exact absurd hagain hwilling.ne_none
  | answered _ _ hexecute hstatus =>
    left
    have hr := hwilling.reply hexecute
    have hfits := Nat.not_lt.mp (mt hr.status_eq_tooSmall_iff.mpr hstatus)
    rw [judgeReply_of_willing hsize hr, if_pos hfits]
    exact ⟨hfits, rfl⟩
  | cramped _ _ hexecute hstatus hbuffer =>
    -- The largest buffer is never too small.
    have hlt := (hwilling.reply hexecute).status_eq_tooSmall_iff.mp hstatus
    rcases h.size_cases with hmax | ⟨hle, -⟩
    · omega
    · omega
  | answeredAgain _ _ hexecute hstatus hbuffer hagain =>
    right
    refine ⟨(hwilling.reply hexecute).status_eq_tooSmall_iff.mp hstatus, ?_, ?_⟩
    · rw [Reply.size_buffer, size_zeros]
    · rw [judgeReply_of_willing hsize (hwilling.reply hagain), size_zeros]

/-- A batch that has been used in any way is flushed against a willing engine.  There always
is an admissible buffer for the answer, but the flush is done exactly if the answer fits a
buffer of twice the present size.  Otherwise it fails with the engine's status, and leaves a
doubled buffer that could have been doubled again. -/
theorem done_iff_fits_doubled {δ : Type} (earlier : Executor δ) (start : δ) (ops : List Op)
    (execute : Executor ε) (engine : ε) :
  let b := (Usage.after earlier start ops).batch
  let f := b.flush execute engine
  let room := 4 + 5 * b.commands.size
  1 ≤ b.commands.size → (Command.request b.commands).size ≤ maxSize →
    execute.Willing b.commands →
      room ≤ maxSize
        ∧ (f.outcome = .done ↔ room ≤ 2 * b.buffer.size)
        ∧ (f.outcome ≠ .done → f.outcome = .failed (.status tooSmall)
            ∧ f.batch.buffer.size = 2 * b.buffer.size ∧ 2 * f.batch.buffer.size ≤ maxSize)
  := by
  intro b f room hcommands hsize hwilling
  rw [size_request] at hsize
  have hcommands : b.commands ≠ #[] := by
    intro hempty
    rw [hempty] at hcommands
    contradiction
  have hdoubled : b.Doubled := doubled_after earlier start ops
  have hroom : room ≤ maxSize := Nat.le_trans b.answer_le_requestSize hsize
  use hroom
  obtain ⟨hfits, houtcome⟩ | ⟨hlt, hbuffer, houtcome⟩ :=
    hdoubled.flush_of_willing engine hcommands hsize hwilling
  · have hdone : f.outcome = .done := houtcome
    have hfits : room ≤ 2 * b.buffer.size :=
      Nat.le_trans hfits (Nat.le_mul_of_pos_left _ Nat.two_pos)
    simp [hdone, hfits]
  · have hbuffer : f.batch.buffer.size = 2 * b.buffer.size := hbuffer
    have houtcome : f.outcome =
        if room ≤ 2 * b.buffer.size then .done else .failed (.status tooSmall) := houtcome
    by_cases hfits : room ≤ 2 * b.buffer.size
    · simp [houtcome, hfits]
    · have hagain : 2 * f.batch.buffer.size ≤ maxSize := by
        rcases (hdoubled.flush execute engine).size_cases with hmax | ⟨hle, -⟩
        · have hmax : f.batch.buffer.size = maxSize := hmax
          omega
        · apply hle
      simp [houtcome, hfits, hbuffer ▸ hagain, hbuffer]

theorem after_add (execute : Executor ε) (engine : ε) (commands : List Command) :
  (Usage.after execute engine (commands.map .add)).batch =
    { commands := commands.toArray, buffer := zeros 4096 }
  := by
  induction commands using List.reverseRecOn with
  | nil => rfl
  | append_singleton commands c ih =>
    rw [List.map_append, List.map_singleton, Usage.after_append_singleton, Usage.step, ih]
    simp [add]

theorem requestSize_replicate (count : Nat) (c : Command) (buffer : ByteArray) :
  requestSize { commands := (List.replicate count c).toArray, buffer } = 4 + c.size * count
  := by
  have hfold (start : Nat) :
      (List.replicate count c).foldl (fun n c => n + c.size) start = start + c.size * count := by
    induction count generalizing start with
    | zero => rfl
    | succ count ih =>
      rw [List.replicate_succ, List.foldl_cons, ih, Nat.mul_succ]
      omega
  rw [requestSize, ← Array.foldl_toList, hfold]

/-- A new batch with the same command many times, and an agreeable engine. -/
theorem willing_after_replicate {count : Nat} {c : Command} (hcount : 1 ≤ count)
    (hsize : 4 + c.size * count ≤ maxSize) :
  let execute : Executor Unit := fun _ request buffer => (some (agreeable request buffer), ())
  let b := (Usage.after execute () ((List.replicate count c).map .add)).batch
  1 ≤ b.commands.size ∧ (Command.request b.commands).size ≤ maxSize
    ∧ execute.Willing b.commands
    ∧ (4 + 5 * b.commands.size ≤ 2 * b.buffer.size ↔ count ≤ 1637)
  := by
  intro execute b
  have hb : b = { commands := (List.replicate count c).toArray, buffer := zeros 4096 } :=
    after_add execute () (List.replicate count c)
  have hrequest : b.requestSize ≤ maxSize := by rwa [hb, requestSize_replicate]
  have hcommands : b.commands.size = count := by simp [hb]
  have hbuffer : b.buffer.size = 4096 := by rw [hb, size_zeros]
  refine ⟨by omega, ?_, ?_, by omega⟩
  · rw [size_request]
    apply hrequest
  · apply willing_agreeable (small_of_requestSize_le hrequest).1

/-- The answer to 1637 commands fits twice the first buffer. -/
theorem done_iff_fits_doubled_once :
  let execute : Executor Unit := fun _ request buffer => (some (agreeable request buffer), ())
  let move : Command := ⟨0x0102, Wire.pack (Command.pointPayload 1 1)⟩
  let b := (Usage.after execute () ((List.replicate 1637 move).map .add)).batch
  (Command.request b.commands).size ≤ maxSize ∧ execute.Willing b.commands
    ∧ (b.flush execute ()).outcome = .done
  := by
  intro execute move
  -- With a number in place of `count`, the commands would be unfolded one by one.
  have hmoves (count : Nat) (hpos : 1 ≤ count) (hle : count ≤ 1637) :
      let b := (Usage.after execute () ((List.replicate count move).map .add)).batch
      (Command.request b.commands).size ≤ maxSize ∧ execute.Willing b.commands
        ∧ (b.flush execute ()).outcome = .done := by
    have hmove : move.size = 14 := by decide
    have hlimit : 4 + move.size * count ≤ maxSize := by
      rw [hmove, maxSize]
      omega
    obtain ⟨hcommands, hsize, hwilling, hfits⟩ := willing_after_replicate hpos hlimit
    obtain ⟨-, hdone, -⟩ := done_iff_fits_doubled execute () _ execute () hcommands hsize hwilling
    exact ⟨hsize, hwilling, hdone.mpr (hfits.mpr hle)⟩
  apply hmoves
  · decide
  · decide

/-- One command more, and the flush fails although the engine is willing. -/
theorem not_done_of_two_doublings :
  let execute : Executor Unit := fun _ request buffer => (some (agreeable request buffer), ())
  let move : Command := ⟨0x0102, Wire.pack (Command.pointPayload 1 1)⟩
  let b := (Usage.after execute () ((List.replicate 1638 move).map .add)).batch
  (Command.request b.commands).size ≤ maxSize ∧ execute.Willing b.commands
    ∧ (b.flush execute ()).outcome = .failed (.status tooSmall)
  := by
  intro execute move
  have hmoves (count : Nat) (hlt : 1637 < count) (hle : count ≤ 2000) :
      let b := (Usage.after execute () ((List.replicate count move).map .add)).batch
      (Command.request b.commands).size ≤ maxSize ∧ execute.Willing b.commands
        ∧ (b.flush execute ()).outcome = .failed (.status tooSmall) := by
    have hmove : move.size = 14 := by decide
    have hlimit : 4 + move.size * count ≤ maxSize := by
      rw [hmove, maxSize]
      omega
    obtain ⟨hcommands, hsize, hwilling, hfits⟩ := willing_after_replicate (by omega) hlimit
    obtain ⟨-, hdone, hfailed⟩ :=
      done_iff_fits_doubled execute () _ execute () hcommands hsize hwilling
    refine ⟨hsize, hwilling, (hfailed ?_).1⟩
    intro h
    have hcount := hfits.mp (hdone.mp h)
    omega
  apply hmoves
  · decide
  · decide

end Batch

end SurfaceHost
