import SurfaceHost.Proofs.FlushFaults

/-!
# What becomes of a flush

The exchanges of a flush are the calls that its engine gets, each with the request, the buffer
and the reply.  They are found out by an engine that writes them down, which makes no difference
to the flush (`Batch.flush_recording`).

There are at most two exchanges, and the last one decides: the flush is done exactly if the
reply reports no failure and the buffer then starts with as many entries as there were commands,
none of which is a failure.  Whatever happens, the commands are gone afterwards, and the buffer
for responses is as large as before or twice as large.
-/

namespace SurfaceHost

/-- One call of an engine: the request and the buffer that it was given, and its reply unless it
did not come back. -/
structure Exchange where
  request : ByteArray
  buffer : ByteArray
  reply : Option Reply

namespace Exchange

/-- The engine reports no failure and a length that fits the buffer, and up to there the buffer
holds the responses `rs`. -/
def Answers (x : Exchange) (rs : List Response) : Prop :=
  ∃ r, x.reply = some r ∧ 0 ≤ r.status ∧ r.length.toInt ≤ x.buffer.size
    ∧ Response.parse ((r.buffer x.buffer).extract 0 r.length.toInt.toNat).toList = .ok rs

/-- What the reply to `count` commands is judged to be. -/
def verdict (x : Exchange) (count : Nat) : Batch.Outcome :=
  match x.reply with
  | none => .crashed
  | some r => Batch.judgeReply count r (r.buffer x.buffer)

/-- The engine says that the buffer is too small. -/
def IsCramped (x : Exchange) : Prop :=
  ∃ r, x.reply = some r ∧ r.status = Batch.tooSmall

/-- To say so is to report a failure. -/
theorem IsCramped.not_answers {x : Exchange} (h : x.IsCramped) (rs : List Response) :
  ¬ x.Answers rs
  := by
  obtain ⟨r, hreply, hstatus⟩ := h
  rintro ⟨r', hreply', hnonneg, -⟩
  rw [hreply] at hreply'
  obtain rfl := Option.some.inj hreply'
  rw [hstatus] at hnonneg
  exact absurd hnonneg (by decide)

theorem IsCramped.reply_ne_none {x : Exchange} (h : x.IsCramped) :
  x.reply ≠ none
  := by
  obtain ⟨r, hreply, -⟩ := h
  simp [hreply]

/-- All exchanges are calls of an engine, in some of its states. -/
def AreCalls {ε : Type} (execute : Executor ε) (exchanges : List Exchange) : Prop :=
  ∀ x ∈ exchanges, ∃ engine, (execute engine x.request x.buffer).1 = x.reply

end Exchange

namespace Executor

variable {ε : Type} {execute : Executor ε}

/-- An engine never reports a negative length. -/
def Measured (execute : Executor ε) : Prop :=
  ∀ engine request buffer r, (execute engine request buffer).1 = some r → 0 ≤ r.length

/-- An engine that writes down its exchanges. -/
def recording (execute : Executor ε) : Executor (ε × List Exchange) :=
  fun (engine, exchanges) request buffer =>
    let (reply, engine) := execute engine request buffer
    (reply, engine, exchanges ++ [⟨request, buffer, reply⟩])

theorem of_recording {engine : ε} {exchanges : List Exchange} {request buffer : ByteArray}
    {reply : Option Reply} {after : ε × List Exchange}
    (h : execute.recording (engine, exchanges) request buffer = (reply, after)) :
  execute engine request buffer = (reply, after.1)
    ∧ after.2 = exchanges ++ [⟨request, buffer, reply⟩]
  := by
  rcases hexecute : execute engine request buffer with ⟨reply', engine'⟩
  simp only [recording, hexecute, Prod.mk.injEq] at h
  obtain ⟨rfl, rfl⟩ := h
  exact ⟨rfl, rfl⟩

end Executor

namespace Batch

variable {ε : Type} {execute : Executor ε} {engine : ε} {b : Batch}

/-! ### Judging replies -/

/-- Responses are judged a success exactly if there is one to each command and none is a
failure. -/
theorem judge_eq_done_iff {count : Nat} {rs : List Response} :
  judge count rs = .done ↔ rs.length = count ∧ ∀ x ∈ rs, x.kind ≠ Response.failure
  := by
  rw [judge]
  by_cases hlength : rs.length = count
  · rw [if_neg (not_not_intro hlength)]
    cases hfind : rs.findIdx? (·.kind == Response.failure) with
    | none =>
      rw [List.findIdx?_eq_none_iff] at hfind
      simpa [hlength] using hfind
    | some i =>
      obtain ⟨hlt, hkind, -⟩ := List.findIdx?_eq_some_iff_getElem.mp hfind
      simp only [reduceCtorEq, false_iff, not_and]
      intro _ hnone
      apply hnone rs[i] (List.getElem_mem hlt)
      simpa using hkind
  · simp [hlength]

/-- Where a response is a failure, the first such one is named. -/
theorem judge_of_failure {rs : List Response} (h : ∃ x ∈ rs, x.kind = Response.failure) :
  ∃ i payload, judge rs.length rs = .failed (.rejected i payload)
    ∧ rs[i]? = some ⟨Response.failure, payload⟩
    ∧ ∀ j x, j < i → rs[j]? = some x → x.kind ≠ Response.failure
  := by
  cases hfind : rs.findIdx? (·.kind == Response.failure) with
  | none =>
    rw [List.findIdx?_eq_none_iff] at hfind
    obtain ⟨x, hx, hkind⟩ := h
    simpa [hkind] using hfind x hx
  | some i =>
    obtain ⟨hlt, hkind, hbefore⟩ := List.findIdx?_eq_some_iff_getElem.mp hfind
    have hget : rs[i]? = some rs[i] := List.getElem?_eq_getElem hlt
    have hkind : rs[i].kind = Response.failure := by simpa using hkind
    refine ⟨i, rs[i].payload, ?_, ?_, ?_⟩
    · simp [judge, hfind, hget]
    · rw [hget, ← hkind]
    · intro j x hj hx
      obtain ⟨hjlt, rfl⟩ := List.getElem?_eq_some_iff.mp hx
      simpa using hbefore j hj

/-- The verdict on responses that can be read is that on the responses. -/
theorem verdict_of_answers {x : Exchange} {rs : List Response} (h : x.Answers rs)
    (hlength : ∀ r, x.reply = some r → 0 ≤ r.length) (count : Nat) :
  x.verdict count = judge count rs
  := by
  obtain ⟨r, hreply, hstatus, hfits, hparse⟩ := h
  simp only [Exchange.verdict, hreply, judgeReply, Reply.size_buffer]
  rw [if_neg (Int32.not_lt.mpr hstatus), if_neg (Int.not_lt.mpr hfits),
    if_neg (Int64.not_lt.mpr (hlength r hreply)), hparse]

/-- Only responses that can be read may be judged a success. -/
theorem answers_of_verdict {x : Exchange} {count : Nat} (h : x.verdict count = .done) :
  ∃ rs, x.Answers rs
  := by
  simp only [Exchange.verdict] at h
  split at h
  · cases h
  · rename_i r hreply
    simp only [judgeReply, Reply.size_buffer] at h
    split at h
    · cases h
    · rename_i hstatus
      split at h
      · cases h
      · rename_i hover
        split at h
        · cases h
        · split at h
          · rename_i rs hparse
            exact ⟨rs, r, hreply, Int32.not_lt.mp hstatus, Int.not_lt.mp hover, hparse⟩
          · cases h

/-- The verdict is a success exactly if each command has a response and none is a failure. -/
theorem verdict_eq_done_iff {x : Exchange} (hlength : ∀ r, x.reply = some r → 0 ≤ r.length)
    {count : Nat} :
  x.verdict count = .done ↔
    ∃ rs, x.Answers rs ∧ rs.length = count ∧ ∀ y ∈ rs, y.kind ≠ Response.failure
  := by
  constructor
  · intro h
    obtain ⟨rs, hrs⟩ := answers_of_verdict h
    rw [verdict_of_answers hrs hlength] at h
    exact ⟨rs, hrs, judge_eq_done_iff.mp h⟩
  · rintro ⟨rs, hrs, hjudge⟩
    rw [verdict_of_answers hrs hlength]
    apply judge_eq_done_iff.mpr hjudge

/-- The verdict is that the engine did not come back exactly if it did not. -/
theorem verdict_eq_crashed_iff {x : Exchange} (hlength : ∀ r, x.reply = some r → 0 ≤ r.length)
    {count : Nat} :
  x.verdict count = .crashed ↔ x.reply = none
  := by
  simp only [Exchange.verdict]
  split
  · rename_i hreply
    simp [hreply]
  · rename_i r hreply
    rw [judgeReply_eq_crashed_iff]
    simp only [hreply, reduceCtorEq, iff_false, not_and]
    intro _
    apply Int64.not_lt.mpr (hlength r hreply)

/-! ### Exchanges -/

/-- The exchanges of a flush, in their order. -/
def exchanges (b : Batch) (execute : Executor ε) (engine : ε) : List Exchange :=
  (b.flush execute.recording (engine, [])).engine.2

/-- An engine that writes down its exchanges is flushed like any other. -/
theorem flush_recording (b : Batch) (execute : Executor ε) (engine : ε) :
  let f := b.flush execute engine
  b.flush execute.recording (engine, []) =
    { batch := f.batch
      engine := (f.engine, b.exchanges execute engine)
      executions := f.executions
      outcome := f.outcome }
  := by
  have hsame : let f := b.flush execute engine
      let f' := b.flush execute.recording (engine, [])
      f'.batch = f.batch ∧ f'.engine.1 = f.engine ∧ f'.executions = f.executions
        ∧ f'.outcome = f.outcome := by
    have hflush := b.flushes_flush execute engine
    simp only
    generalize b.flush execute engine = f at hflush ⊢
    cases hflush with
    | idle hcount => simp [flush, hcount]
    | tooLong hcount hsize => simp [flush, hcount, hsize]
    | lost hcount hsize hexecute =>
      simp [flush, hcount, Nat.not_lt.mpr hsize, Executor.recording, hexecute]
    | answered hcount hsize hexecute hstatus =>
      simp [flush, hcount, Nat.not_lt.mpr hsize, Executor.recording, hexecute, hstatus]
    | cramped hcount hsize hexecute hstatus hbuffer =>
      simp [flush, hcount, Nat.not_lt.mpr hsize, Executor.recording, hexecute, hstatus, hbuffer]
    | lostAgain hcount hsize hexecute hstatus hbuffer hagain =>
      simp [flush, hcount, Nat.not_lt.mpr hsize, Executor.recording, hexecute, hstatus,
        Nat.not_lt.mpr hbuffer, hagain]
    | answeredAgain hcount hsize hexecute hstatus hbuffer hagain =>
      simp [flush, hcount, Nat.not_lt.mpr hsize, Executor.recording, hexecute, hstatus,
        Nat.not_lt.mpr hbuffer, hagain]
  obtain ⟨hbatch, hengine, hexecutions, houtcome⟩ := hsame
  simp only [exchanges, ← hbatch, ← hengine, ← hexecutions, ← houtcome]

/-- What every call keeps true of an engine is true of it after a flush. -/
theorem engine_flush_of_kept {P : ε → Prop}
    (hkept : ∀ engine request buffer, P engine → P (execute engine request buffer).2)
    (h : P engine) :
  P (b.flush execute engine).engine
  := by
  have hcall {engine engine' : ε} {request buffer : ByteArray} {reply : Option Reply}
      (hexecute : execute engine request buffer = (reply, engine')) (hP : P engine) :
      P engine' := by
    have hafter := hkept engine request buffer hP
    rw [hexecute] at hafter
    apply hafter
  have hflush := b.flushes_flush execute engine
  generalize b.flush execute engine = f at hflush ⊢
  cases hflush with
  | idle | tooLong => apply h
  | lost _ _ hexecute => apply hcall hexecute h
  | answered _ _ hexecute => apply hcall hexecute h
  | cramped _ _ hexecute => apply hcall hexecute h
  | lostAgain _ _ hexecute _ _ hagain => apply hcall hagain (hcall hexecute h)
  | answeredAgain _ _ hexecute _ _ hagain => apply hcall hagain (hcall hexecute h)

theorem areCalls_exchanges (b : Batch) (execute : Executor ε) (engine : ε) :
  Exchange.AreCalls execute (b.exchanges execute engine)
  := by
  rw [exchanges]
  apply engine_flush_of_kept (P := fun s : ε × List Exchange => Exchange.AreCalls execute s.2)
  · rintro ⟨engine, before⟩ request buffer hbefore
    rcases hcall : execute.recording (engine, before) request buffer with ⟨reply, after⟩
    obtain ⟨hexecute, hafter⟩ := Executor.of_recording hcall
    simp only [hafter]
    intro x hx
    rcases List.mem_append.mp hx with hx | hx
    · apply hbefore x hx
    · obtain rfl := List.mem_singleton.mp hx
      exact ⟨engine, congrArg Prod.fst hexecute⟩
  · intro x hx
    cases hx

/-- How a flush comes to its outcome: the request is too long, or the first reply is judged, or
the buffer is too small and cannot be doubled, or the second reply is judged. -/
inductive Settles (b : Batch) : List Exchange → Outcome → Prop where
  | unsent (hsize : maxSize < b.requestSize) : Settles b [] (.failed .requestTooLong)
  | first {x : Exchange} (hsize : b.requestSize ≤ maxSize)
      (hrequest : x.request = Command.request b.commands) (hbuffer : x.buffer = b.buffer)
      (hstatus : ¬ x.IsCramped) :
    Settles b [x] (x.verdict b.count.toNat)
  | cramped {x : Exchange} (hsize : b.requestSize ≤ maxSize)
      (hrequest : x.request = Command.request b.commands) (hbuffer : x.buffer = b.buffer)
      (hstatus : x.IsCramped) (hlimit : maxSize < 2 * b.buffer.size) :
    Settles b [x] (.failed .bufferTooLong)
  | second {x y : Exchange} (hsize : b.requestSize ≤ maxSize)
      (hrequest : x.request = Command.request b.commands) (hbuffer : x.buffer = b.buffer)
      (hstatus : x.IsCramped) (hlimit : 2 * b.buffer.size ≤ maxSize)
      (hagain : y.request = Command.request b.commands)
      (hzeros : y.buffer = zeros (2 * b.buffer.size)) :
    Settles b [x, y] (y.verdict b.count.toNat)

/-- Every flush of some commands is settled in one of these ways. -/
theorem settles_flush (hcount : b.count ≠ 0) (execute : Executor ε) (engine : ε) :
  b.Settles (b.exchanges execute engine) (b.flush execute engine).outcome
  := by
  have houtcome := congrArg Flushed.outcome (b.flush_recording execute engine)
  have hflush := b.flushes_flush execute.recording (engine, [])
  simp only at houtcome
  rw [← houtcome, exchanges]
  generalize b.flush execute.recording (engine, []) = f at hflush ⊢
  cases hflush with
  | idle hnone => exact absurd hnone hcount
  | tooLong _ hsize => apply Settles.unsent hsize
  | lost _ hsize hexecute =>
    obtain ⟨-, hafter⟩ := Executor.of_recording hexecute
    rw [hafter]
    apply Settles.first hsize rfl rfl
    rintro ⟨r, hreply, -⟩
    cases hreply
  | answered _ hsize hexecute hstatus =>
    obtain ⟨-, hafter⟩ := Executor.of_recording hexecute
    rw [hafter]
    apply Settles.first hsize rfl rfl
    rintro ⟨r, hreply, htooSmall⟩
    obtain rfl := Option.some.inj hreply
    contradiction
  | cramped _ hsize hexecute hstatus hlimit =>
    obtain ⟨-, hafter⟩ := Executor.of_recording hexecute
    rw [hafter]
    apply Settles.cramped hsize rfl rfl ⟨_, rfl, hstatus⟩ hlimit
  | lostAgain _ hsize hexecute hstatus hlimit hagain =>
    obtain ⟨-, hafter⟩ := Executor.of_recording hexecute
    obtain ⟨-, hafter'⟩ := Executor.of_recording hagain
    rw [hafter', hafter]
    apply Settles.second hsize rfl rfl ⟨_, rfl, hstatus⟩ hlimit rfl rfl
  | answeredAgain _ hsize hexecute hstatus hlimit hagain =>
    obtain ⟨-, hafter⟩ := Executor.of_recording hexecute
    obtain ⟨-, hafter'⟩ := Executor.of_recording hagain
    rw [hafter', hafter]
    apply Settles.second hsize rfl rfl ⟨_, rfl, hstatus⟩ hlimit rfl rfl

/-- An engine that finds the buffer too small is called twice. -/
theorem exchanges_of_cramped {r : Reply} {reply : Option Reply} {engine' engine'' : ε}
    (hcount : b.count ≠ 0) (hsize : b.requestSize ≤ maxSize)
    (hexecute : execute engine (Command.request b.commands) b.buffer = (some r, engine'))
    (hstatus : r.status = tooSmall) (hbuffer : 2 * b.buffer.size ≤ maxSize)
    (hagain : execute engine' (Command.request b.commands) (zeros (2 * b.buffer.size)) =
      (reply, engine'')) :
  b.exchanges execute engine =
    [⟨Command.request b.commands, b.buffer, some r⟩,
      ⟨Command.request b.commands, zeros (2 * b.buffer.size), reply⟩]
  := by
  cases reply with
  | none =>
    simp [exchanges, flush, hcount, Nat.not_lt.mpr hsize, Executor.recording, hexecute, hstatus,
      Nat.not_lt.mpr hbuffer, hagain]
  | some r' =>
    simp [exchanges, flush, hcount, Nat.not_lt.mpr hsize, Executor.recording, hexecute, hstatus,
      Nat.not_lt.mpr hbuffer, hagain]

/-! ### Buffers -/

/-- A flush never makes the buffer smaller. -/
theorem le_size_flush (b : Batch) (execute : Executor ε) (engine : ε) :
  b.buffer.size ≤ (b.flush execute engine).batch.buffer.size
  := by
  have hflush := b.flushes_flush execute engine
  generalize b.flush execute engine = f at hflush ⊢
  cases hflush with
  | idle | tooLong | lost => apply Nat.le_refl
  | answered | cramped =>
    apply Nat.le_of_eq
    rw [Reply.size_buffer]
  | lostAgain =>
    rw [size_zeros]
    omega
  | answeredAgain =>
    rw [Reply.size_buffer, size_zeros]
    omega

/-- However a batch is used on, its buffer never gets smaller. -/
theorem le_size_after (execute : Executor ε) (engine : ε) (ops more : List Op) :
  (Usage.after execute engine ops).batch.buffer.size ≤
    (Usage.after execute engine (ops ++ more)).batch.buffer.size
  := by
  induction more using List.reverseRecOn with
  | nil =>
    apply Nat.le_of_eq
    rw [List.append_nil]
  | append_singleton more op ih =>
    rw [← List.append_assoc, Usage.after_append_singleton]
    apply Nat.le_trans ih
    cases op with
    | add c => apply Nat.le_refl
    | flush => apply le_size_flush

/-- After a flush of some commands, no commands are waiting. -/
theorem commands_flush (hcount : b.count ≠ 0) (execute : Executor ε) (engine : ε) :
  (b.flush execute engine).batch.commands = #[]
  := by
  obtain ⟨hnone, -⟩ | ⟨-, hcommands, -⟩ | ⟨-, -, hcommands, -⟩ := b.flush_cases execute engine
  · exact absurd hnone hcount
  · apply hcommands
  · apply hcommands

/-! ### The outcome -/

section

variable {calls : List Exchange} {outcome : Outcome}

/-- There are at most two exchanges, and none if the request is too long.  Otherwise the engine
gets the request with the present buffer, and then once more with a buffer of zeros that is twice
as large, exactly if it says that the first one is too small and the second one is not too
large. -/
theorem Settles.calls_eq (h : b.Settles calls outcome) :
  calls.length ≤ 2
    ∧ (maxSize < b.requestSize → calls = [])
    ∧ (b.requestSize ≤ maxSize → ∃ first rest, calls = first :: rest
        ∧ first.request = Command.request b.commands ∧ first.buffer = b.buffer
        ∧ (rest ≠ [] ↔ first.IsCramped ∧ 2 * b.buffer.size ≤ maxSize)
        ∧ ∀ second ∈ rest, second.request = first.request
          ∧ second.buffer = zeros (2 * b.buffer.size))
  := by
  cases h with
  | unsent hsize =>
    refine ⟨by simp, fun _ => rfl, ?_⟩
    intro hle
    omega
  | first hsize hrequest hbuffer hstatus =>
    refine ⟨by simp, by omega, ?_⟩
    intro _
    refine ⟨_, [], rfl, hrequest, hbuffer, ?_, by simp⟩
    simp [hstatus]
  | cramped hsize hrequest hbuffer hstatus hlimit =>
    refine ⟨by simp, by omega, ?_⟩
    intro _
    refine ⟨_, [], rfl, hrequest, hbuffer, ?_, by simp⟩
    simp [Nat.not_le.mpr hlimit]
  | second hsize hrequest hbuffer hstatus hlimit hagain hzeros =>
    refine ⟨by simp, by omega, ?_⟩
    intro _
    refine ⟨_, _, rfl, hrequest, hbuffer, ?_, ?_⟩
    · simp [hstatus, hlimit]
    · intro z hz
      obtain rfl := List.mem_singleton.mp hz
      exact ⟨hagain.trans hrequest.symm, hzeros⟩

/-- The last exchange settles a flush, if there is one. -/
theorem Settles.last_cases (h : b.Settles calls outcome) :
  (calls = [] ∧ maxSize < b.requestSize ∧ outcome = .failed .requestTooLong)
    ∨ b.requestSize ≤ maxSize ∧ ∃ last, calls.getLast? = some last
      ∧ (outcome = last.verdict b.commands.size
        ∨ last.IsCramped ∧ outcome = .failed .bufferTooLong)
  := by
  cases h with
  | unsent hsize => exact .inl ⟨rfl, hsize, rfl⟩
  | first hsize =>
    rw [toNat_count hsize]
    exact .inr ⟨hsize, _, rfl, .inl rfl⟩
  | cramped hsize _ _ hstatus => exact .inr ⟨hsize, _, rfl, .inr ⟨hstatus, rfl⟩⟩
  | second hsize =>
    rw [toNat_count hsize]
    exact .inr ⟨hsize, _, rfl, .inl rfl⟩

variable (hlength : ∀ x ∈ calls, ∀ r, x.reply = some r → 0 ≤ r.length)

include hlength

/-- A flush is done exactly if the request is not too long and the last exchange ends with a
response to each command, none of which is a failure. -/
theorem Settles.outcome_eq_done_iff (h : b.Settles calls outcome) :
  outcome = .done ↔
    b.requestSize ≤ maxSize ∧ ∃ last rs, calls.getLast? = some last ∧ last.Answers rs
      ∧ rs.length = b.commands.size ∧ ∀ x ∈ rs, x.kind ≠ Response.failure
  := by
  obtain ⟨rfl, hsize, rfl⟩ | ⟨hsize, last, hlast, rfl | ⟨hcramped, rfl⟩⟩ := h.last_cases
  · simp
  · rw [verdict_eq_done_iff (hlength last (List.mem_of_getLast? hlast))]
    simp [hsize, hlast]
  · simp [hlast, hcramped.not_answers]

/-- A flush does not come back exactly if the engine did not. -/
theorem Settles.outcome_eq_crashed_iff (h : b.Settles calls outcome) :
  outcome = .crashed ↔ ∃ last, calls.getLast? = some last ∧ last.reply = none
  := by
  obtain ⟨rfl, hsize, rfl⟩ | ⟨hsize, last, hlast, rfl | ⟨hcramped, rfl⟩⟩ := h.last_cases
  · simp
  · rw [verdict_eq_crashed_iff (hlength last (List.mem_of_getLast? hlast))]
    simp [hlast]
  · simp [hlast, hcramped.reply_ne_none]

/-- Where each command has a response, the flush names the first failure among them. -/
theorem Settles.rejected (h : b.Settles calls outcome) {last : Exchange}
    (hlast : calls.getLast? = some last) {rs : List Response} (hrs : last.Answers rs)
    (hcount : rs.length = b.commands.size) (hfailure : ∃ x ∈ rs, x.kind = Response.failure) :
  ∃ i payload, outcome = .failed (.rejected i payload)
    ∧ rs[i]? = some ⟨Response.failure, payload⟩
    ∧ ∀ j x, j < i → rs[j]? = some x → x.kind ≠ Response.failure
  := by
  obtain ⟨rfl, -⟩ | ⟨hsize, last', hlast', rfl | ⟨hcramped, -⟩⟩ := h.last_cases
  · cases hlast
  · obtain rfl := Option.some.inj (hlast.symm.trans hlast')
    rw [verdict_of_answers hrs (hlength last (List.mem_of_getLast? hlast)), ← hcount]
    apply judge_of_failure hfailure
  · obtain rfl := Option.some.inj (hlast.symm.trans hlast')
    exact absurd hrs (hcramped.not_answers rs)

end

/-- Some commands are waiting in a batch that has been used in any way, and the engine of its
next flush never reports a negative length.  Then the engine is called at most twice, the second
time if it finds the buffer too small and that can be doubled.  The last call settles whether
the flush is done, and which failure is named.  In every case, also if the engine does not come
back, no commands are waiting afterwards and the next request is empty.  The size of the buffer
is always one of the thirteen admissible ones and never gets smaller. -/
theorem last_exchange_settles_flush {δ : Type} (earlier : Executor δ) (start : δ)
    (ops : List Op) (execute : Executor ε) (engine : ε) :
  let b := (Usage.after earlier start ops).batch
  let f := b.flush execute engine
  let calls := b.exchanges execute engine
  b.count ≠ 0 → execute.Measured →
    (calls.length ≤ 2
      ∧ (maxSize < (Command.request b.commands).size → calls = [])
      ∧ ((Command.request b.commands).size ≤ maxSize → ∃ first rest, calls = first :: rest
          ∧ first.request = Command.request b.commands ∧ first.buffer = b.buffer
          ∧ (rest ≠ [] ↔ first.IsCramped ∧ 2 * b.buffer.size ≤ maxSize)
          ∧ ∀ second ∈ rest, second.request = first.request
            ∧ second.buffer = zeros (2 * b.buffer.size)))
      ∧ (f.outcome = .done ↔
          (Command.request b.commands).size ≤ maxSize
            ∧ ∃ last rs, calls.getLast? = some last ∧ last.Answers rs
              ∧ rs.length = b.commands.size ∧ ∀ x ∈ rs, x.kind ≠ Response.failure)
      ∧ (f.outcome = .crashed ↔ ∃ last, calls.getLast? = some last ∧ last.reply = none)
      ∧ (∀ last rs, calls.getLast? = some last → last.Answers rs →
          rs.length = b.commands.size → (∃ x ∈ rs, x.kind = Response.failure) →
            ∃ i payload, f.outcome = .failed (.rejected i payload)
              ∧ (rs[i]? = some ⟨Response.failure, payload⟩
                ∧ ∀ j x, j < i → rs[j]? = some x → x.kind ≠ Response.failure)
              ∧ (FlushError.rejected i payload).pieces =
                Text.piecesOfString
                    ("ffi: batch execution failed: " ++ ("command " ++ toString i ++ ": "))
                  ++ Text.piecesFrom 0 payload)
      ∧ (f.batch.count = 0 ∧ (Command.request f.batch.commands).size = 4)
      ∧ ((∃ k ≤ 12, b.buffer.size = 4096 <<< k) ∧ (∃ k ≤ 12, f.batch.buffer.size = 4096 <<< k)
        ∧ b.buffer.size ≤ f.batch.buffer.size)
      ∧ ∀ more, b.buffer.size ≤ (Usage.after earlier start (ops ++ more)).batch.buffer.size
  := by
  intro b f calls hcount hmeasured
  have hsettles : b.Settles calls f.outcome := settles_flush hcount execute engine
  have hlength : ∀ x ∈ calls, ∀ r, x.reply = some r → 0 ≤ r.length := by
    intro x hx r hr
    obtain ⟨engine', hcall⟩ := areCalls_exchanges b execute engine x hx
    apply hmeasured engine' x.request x.buffer r
    rw [hcall, hr]
  have hcommands : f.batch.commands = #[] := commands_flush hcount execute engine
  have hdoubled : b.Doubled := doubled_after earlier start ops
  rw [size_request]
  refine ⟨hsettles.calls_eq, hsettles.outcome_eq_done_iff hlength,
    hsettles.outcome_eq_crashed_iff hlength, ?_, ?_, ?_, ?_⟩
  · intro last rs hlast hrs hresponses hfailure
    obtain ⟨i, payload, houtcome, hget, hbefore⟩ :=
      hsettles.rejected hlength hlast hrs hresponses hfailure
    exact ⟨i, payload, houtcome, ⟨hget, hbefore⟩, rfl⟩
  · rw [size_request, count, requestSize, hcommands]
    exact ⟨rfl, rfl⟩
  · exact ⟨hdoubled, hdoubled.flush execute engine, le_size_flush b execute engine⟩
  · apply le_size_after

/-- Two commands; the engine first finds the buffer too small, and then rejects the second
command. -/
theorem last_exchange_settles_flush_rejected :
  let ops : List Op := [.add ⟨0x0100, Wire.pack [1]⟩, .add ⟨0x0101, Wire.pack []⟩]
  let answer := Wire.pack [2, 0, 0, 0, 0, 0, 0, 0, 0, 1, 2, 0, 0, 0, 104, 105]
  let execute : Executor Nat := fun n _ _ =>
    (some (if n = 0 then ⟨tooSmall, 0, .empty⟩ else ⟨0, 16, answer⟩), n + 1)
  let b := (Usage.after execute 0 ops).batch
  let f := b.flush execute 0
  b.count ≠ 0 ∧ execute.Measured
    ∧ f.outcome = .failed (.rejected 1 [104, 105])
    ∧ f.batch.count = 0 ∧ (Command.request f.batch.commands).size = 4
  := by
  intro ops answer execute b f
  have hcount : b.count ≠ 0 := by decide
  have hmeasured : execute.Measured := by
    intro n request buffer r hr
    obtain rfl := Option.some.inj hr
    split
    · decide
    · decide
  have hsize : b.requestSize ≤ maxSize := by decide
  have hbuffer : 2 * b.buffer.size ≤ maxSize := by
    rw [show b.buffer = zeros 4096 from rfl, size_zeros]
    decide
  let last : Exchange :=
    ⟨Command.request b.commands, zeros (2 * b.buffer.size), some ⟨0, 16, answer⟩⟩
  have hlast : (b.exchanges execute 0).getLast? = some last := by
    rw [exchanges_of_cramped hcount hsize rfl rfl hbuffer rfl]
    rfl
  have hrs : last.Answers [⟨0, []⟩, ⟨1, [104, 105]⟩] := by
    have hroom : 16 ≤ last.buffer.size := by
      rw [size_zeros, show b.buffer = zeros 4096 from rfl, size_zeros]
      decide
    refine ⟨_, rfl, by decide, Int.ofNat_le.mpr hroom, ?_⟩
    have hstart : (Reply.buffer ⟨0, 16, answer⟩ last.buffer).extract 0 16 = answer :=
      Reply.extract_buffer (r := ⟨0, 16, answer⟩) hroom
    rw [show (16 : Int64).toInt.toNat = 16 from rfl, hstart, Wire.toList_eq]
    rfl
  obtain ⟨-, -, -, hrejected, ⟨hnone, hempty⟩, -⟩ :=
    last_exchange_settles_flush execute 0 ops execute 0 hcount hmeasured
  obtain ⟨i, payload, houtcome, ⟨hget, hbefore⟩, -⟩ :=
    hrejected last _ hlast hrs rfl ⟨⟨1, [104, 105]⟩, by simp, rfl⟩
  have hi : i = 1 ∧ payload = [104, 105] := by
    rcases i with _ | _ | i
    · cases hget
    · cases hget
      exact ⟨rfl, rfl⟩
    · cases hget
  rw [hi.1, hi.2] at houtcome
  have hf : (Usage.after execute 0 ops).batch.flush execute 0 = f := rfl
  simp only [hf] at houtcome hnone hempty
  exact ⟨hcount, hmeasured, houtcome, hnone, hempty⟩

end Batch

end SurfaceHost
